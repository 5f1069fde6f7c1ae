import ExchangeTap.Binding
import ExchangeTap.Proofs.Failing
import ExchangeTap.Proofs.Text.Pieces

namespace ExchangeTap.Binding

variable {piece : List Char} {b : Binding} {s : String} {bindings : List Binding} {error : TapError}

/-- No separator stands in the exchange's name or in the key. -/
structure Plain (b : Binding) : Prop where
  exchange : ',' ∉ b.exchange.toList ∧ ':' ∉ b.exchange.toList
  key : ',' ∉ b.key.toList ∧ ':' ∉ b.key.toList

private theorem toList_text (b : Binding) :
    b.text.toList = [':'].intercalate [b.exchange.toList, b.key.toList] := by
  simp [text, List.intercalate]

private theorem parseChars_of_splitOn {exchange key : List Char}
    (split : piece.splitOn ':' = [exchange, key]) :
    parseChars piece = .ok ⟨String.ofList exchange, String.ofList key⟩ := by
  rw [parseChars, Text.pieces_eq_splitOn, split]

private theorem parseChars_of_count (one : piece.count ':' = 1) :
    ∃ b, parseChars piece = .ok b ∧ b.text.toList = piece := by
  have two : (piece.splitOn ':').length = 2 := by rw [Text.length_splitOn, one]
  obtain ⟨exchange, key, split⟩ := List.length_eq_two.mp two
  refine ⟨_, parseChars_of_splitOn split, ?_⟩
  rw [toList_text, String.toList_ofList, String.toList_ofList, ← split]
  exact List.intercalate_splitOn ':'

private theorem parseChars_of_count_ne (other : piece.count ':' ≠ 1) :
    parseChars piece = .error (.invalidBinding (String.ofList piece)) := by
  rw [parseChars, Text.pieces_eq_splitOn]
  split
  next exchange key split =>
    have two := congrArg List.length split
    rw [Text.length_splitOn] at two
    exact absurd (Nat.succ.inj two) other
  next => rfl

private theorem parseChars_isOk_iff : (∃ b, parseChars piece = .ok b) ↔ piece.count ':' = 1 := by
  refine ⟨fun ⟨b, read⟩ => ?_, fun one => (parseChars_of_count one).imp fun b read => read.1⟩
  by_contra other
  cases read.symm.trans (parseChars_of_count_ne other)

private theorem toList_text_of_parseChars (read : parseChars piece = .ok b) : b.text.toList = piece := by
  obtain ⟨other, again, written⟩ := parseChars_of_count (parseChars_isOk_iff.mp ⟨b, read⟩)
  cases read.symm.trans again
  exact written

private theorem Plain.parseChars_text (plain : b.Plain) : parseChars b.text.toList = .ok b := by
  have split : b.text.toList.splitOn ':' = [b.exchange.toList, b.key.toList] := by
    rw [toList_text]
    refine List.splitOn_intercalate ':' ?_ (by simp)
    simp [plain.exchange.2, plain.key.2]
  rw [parseChars_of_splitOn split, String.ofList_toList, String.ofList_toList]

private theorem Plain.not_mem_text (plain : b.Plain) : ',' ∉ b.text.toList := by
  simp [toList_text, List.intercalate, plain.exchange.1, plain.key.1]

private theorem parseList_eq_mapM (s : String) : parseList s = (s.toList.splitOn ',').mapM parseChars := by
  rw [parseList, Text.pieces_eq_splitOn]

private theorem parseList_isOk_iff :
    (∃ bindings, parseList s = .ok bindings) ↔ ∀ piece ∈ s.toList.splitOn ',', piece.count ':' = 1 := by
  simp only [parseList_eq_mapM, mapM_isOk_iff, parseChars_isOk_iff]

private theorem join_of_parseList (read : parseList s = .ok bindings) :
    ",".intercalate (bindings.map text) = s := by
  rw [parseList_eq_mapM, mapM_eq_ok_iff] at read
  have written : bindings.map (·.text.toList) = s.toList.splitOn ',' := by
    rw [← List.forall₂_eq_eq_eq, List.forall₂_map_left_iff]
    exact read.flip.imp fun b piece one => toList_text_of_parseChars one
  apply String.toList_injective
  rw [String.toList_intercalate, List.map_map]
  exact (congrArg [','].intercalate written).trans (List.intercalate_splitOn ',')

private theorem parseList_eq_error_iff :
    parseList s = .error error ↔
      ∃ piece, (s.toList.splitOn ',').find? (fun piece => piece.count ':' ≠ 1) = some piece ∧
        error = .invalidBinding (String.ofList piece) := by
  rw [parseList_eq_mapM, mapM_eq_error_iff]
  simp only [List.find?_eq_some_iff_append, parseChars_isOk_iff]
  constructor
  · rintro ⟨before, piece, behind, split, fine, failed⟩
    have other : piece.count ':' ≠ 1 := by
      intro one
      obtain ⟨b, read, -⟩ := parseChars_of_count one
      cases failed.symm.trans read
    refine ⟨piece, ⟨by simpa using other, before, behind, split, by simpa using fine⟩, ?_⟩
    exact Except.error.inj (failed.symm.trans (parseChars_of_count_ne other))
  · rintro ⟨piece, ⟨other, before, behind, split, fine⟩, rfl⟩
    exact ⟨before, piece, behind, split, by simpa using fine, parseChars_of_count_ne (by simpa using other)⟩

private theorem parseList_join (inhabited : bindings ≠ []) (plain : ∀ b ∈ bindings, b.Plain) :
    parseList (",".intercalate (bindings.map text)) = .ok bindings := by
  have split : (",".intercalate (bindings.map text)).toList.splitOn ',' = bindings.map (·.text.toList) := by
    rw [String.toList_intercalate, List.map_map]
    refine List.splitOn_intercalate ',' ?_ (by simpa using inhabited)
    exact List.forall_mem_map.mpr fun b here => (plain b here).not_mem_text
  rw [parseList_eq_mapM, split, mapM_eq_ok_iff, List.forall₂_map_left_iff, List.forall₂_same]
  exact fun b here => (plain b here).parseChars_text

/-- A list of bindings is read if each piece between its commas has exactly one colon, and else the first
piece that has not is complained of. Reading and writing undo each other. -/
theorem lists_read_and_written :
    (∀ s : String,
      ((∃ bindings, parseList s = .ok bindings) ↔ ∀ piece ∈ s.toList.splitOn ',', piece.count ':' = 1) ∧
      (∀ bindings, parseList s = .ok bindings → ",".intercalate (bindings.map text) = s) ∧
      ∀ error, parseList s = .error error ↔
        ∃ piece, (s.toList.splitOn ',').find? (fun piece => piece.count ':' ≠ 1) = some piece ∧
          error = .invalidBinding (String.ofList piece)) ∧
    ∀ bindings, bindings ≠ [] → (∀ b ∈ bindings, b.Plain) →
      parseList (",".intercalate (bindings.map text)) = .ok bindings :=
  ⟨fun _ => ⟨parseList_isOk_iff, fun _ => join_of_parseList, fun _ => parseList_eq_error_iff⟩,
    fun _ => parseList_join⟩

/-- Names and keys may be empty; of two pieces that are no binding, an empty one comes first. -/
theorem lists_read_and_written_with_empty_names :
    let bindings : List Binding := [⟨"", ""⟩, ⟨"orders", "order.*"⟩, ⟨"", "#"⟩]
    (∀ b ∈ bindings, b.Plain) ∧ parseList ":,orders:order.*,:#" = .ok bindings ∧
      parseList "a:b,,c:d:e" = .error (.invalidBinding "") := by
  intro bindings
  have plain : ∀ b ∈ bindings, b.Plain := by
    simp only [bindings, List.forall_mem_cons]
    exact ⟨⟨by decide, by decide⟩, ⟨by decide, by decide⟩, ⟨by decide, by decide⟩, nofun⟩
  have read := lists_read_and_written.2 bindings (by simp [bindings]) plain
  have written : ",".intercalate (bindings.map text) = ":,orders:order.*,:#" := by decide
  rw [written] at read
  refine ⟨plain, read, ((lists_read_and_written.1 "a:b,,c:d:e").2.2 _).mpr ⟨[], ?_, ?_⟩⟩
  · decide
  · decide

end ExchangeTap.Binding
