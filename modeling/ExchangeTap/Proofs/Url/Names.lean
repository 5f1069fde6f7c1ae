import Mathlib.Data.List.Basic
import ExchangeTap.Proofs.Text.Digits
import ExchangeTap.Proofs.Url.Hosts

namespace ExchangeTap.Url

variable {c : Char} {d n : Nat} {text : List Char} {texts : List (List Char)} {host : Host}

private theorem mem_or_of_mem_intercalate {separator : Char} (here : c ∈ [separator].intercalate texts) :
    c = separator ∨ ∃ text ∈ texts, c ∈ text := by
  induction texts with
  | nil => cases here
  | cons first more ih =>
      cases more with
      | nil => exact .inr ⟨first, List.mem_cons_self, by simpa [List.intercalate] using here⟩
      | cons second more =>
          rw [List.intercalate_cons_cons, List.append_assoc] at here
          rcases List.mem_append.mp here with within | behind
          · exact .inr ⟨first, List.mem_cons_self, within⟩
          · rcases List.mem_cons.mp behind with same | later
            · exact .inl same
            · refine (ih later).imp_right ?_
              rintro ⟨text, among, within⟩
              exact ⟨text, List.mem_cons_of_mem _ among, within⟩

namespace Punycode

def IsSymbol (c : Char) : Prop :=
  ∃ d < 36, c = digitChar d

private theorem isSymbol_of_mem_encodeDelta {bias position delta fuel : Nat}
    (here : c ∈ encodeDelta bias position delta fuel) : IsSymbol c := by
  induction fuel generalizing position delta with
  | zero => cases here
  | succ fuel ih =>
      have least : threshold position bias ≤ 26 := Nat.min_le_left _ _
      rw [encodeDelta] at here
      split at here
      · rename_i small
        rw [List.mem_singleton] at here
        exact ⟨delta, by omega, here⟩
      · rcases List.mem_cons.mp here with rfl | later
        · have digit := Nat.mod_lt (delta - threshold position bias)
            (show 36 - threshold position bias > 0 by omega)
          exact ⟨_, by omega, rfl⟩
        · exact ih later

private theorem mem_output_encodePoint {basic : Nat} {points : List Nat} {e : Encoding}
    (here : c ∈ (encodePoint n basic points e).output) : c ∈ e.output ∨ IsSymbol c := by
  unfold encodePoint at here
  induction points generalizing e with
  | nil => exact .inl here
  | cons point rest ih =>
      rw [List.foldl_cons] at here
      rcases ih here with earlier | symbol
      · split at earlier
        · exact .inl earlier
        · split at earlier
          · exact (List.mem_append.mp earlier).imp_right isSymbol_of_mem_encodeDelta
          · exact .inl earlier
      · exact .inr symbol

private theorem mem_encodeFrom {basic fuel : Nat} {points : List Nat} {e : Encoding}
    (here : c ∈ encodeFrom n basic points e fuel) : c ∈ e.output ∨ IsSymbol c := by
  induction fuel generalizing n e with
  | zero => exact .inl here
  | succ fuel ih =>
      rw [encodeFrom] at here
      split at here
      · exact .inl here
      · rcases ih here with earlier | symbol
        · have appended := mem_output_encodePoint earlier
          exact appended
        · exact .inr symbol

private theorem mem_encode (here : c ∈ encode text) :
    c ∈ text ∨ c = '-' ∨ IsSymbol c := by
  rcases mem_encodeFrom here with start | symbol
  · dsimp only at start
    split at start
    · cases start
    · rcases List.mem_append.mp start with basic | hyphen
      · exact .inl (List.mem_filter.mp basic).1
      · exact .inr (.inl (List.mem_singleton.mp hyphen))
  · exact .inr (.inr symbol)

end Punycode

private theorem belongsToHost_of_isSymbol (symbol : Punycode.IsSymbol c) : belongsToHost c = true := by
  obtain ⟨d, small, rfl⟩ := symbol
  revert d
  decide

private theorem belongsToHost_of_isForbidden_eq_false (allowed : isForbidden c = false) :
    belongsToHost c = true := by
  have visible : ' ' < c := by
    by_contra blank
    have low : c.toNat ≤ 32 := Nat.not_lt.mp blank
    simp [isForbidden, low] at allowed
  refine belongsToHost_of_ne visible ?_
  rintro d mark rfl
  have forbidden : ∀ d ∈ ['#', '/', '?', '@', '\\'], isForbidden d = true :=
    List.forall_iff_forall_mem.mp (by decide)
  rw [forbidden c mark] at allowed
  cases allowed

theorem belongsToHost_of_isDecimal (decimal : Digits.IsDecimal c) : belongsToHost c = true := by
  have least : 48 ≤ c.toNat := decimal.1
  have most : c.toNat ≤ 57 := decimal.2
  refine belongsToHost_of_toNat (by omega) ?_
  simp only [List.mem_cons, List.not_mem_nil, or_false]
  omega

private theorem belongsToHost_of_mem_ipv4Text (here : c ∈ ipv4Text n) : belongsToHost c = true := by
  rcases mem_or_of_mem_intercalate here with rfl | ⟨digits, among, digit⟩
  · rfl
  · obtain ⟨number, -, rfl⟩ := List.mem_map.mp among
    exact belongsToHost_of_isDecimal (Digits.isDecimal_of_mem_write digit)

private theorem belongsToHost_of_mem_hexText (here : c ∈ hexText n) : belongsToHost c = true := by
  have digit : ∀ d < 16, belongsToHost (Nat.digitChar d) = true := by decide
  unfold hexText at here
  induction n using Nat.strongRecOn with
  | ind n ih =>
      rw [Nat.toDigits_eq_if (by decide)] at here
      split at here
      · rename_i small
        rw [List.mem_singleton.mp here]
        exact digit n small
      · rcases List.mem_append.mp here with earlier | last
        · exact ih (n / 16) (Nat.div_lt_self (by omega) (by decide)) earlier
        · rw [List.mem_singleton.mp last]
          exact digit _ (Nat.mod_lt n (by decide))

private theorem belongsToHost_of_mem_ipv6Text {pieces : List Nat} (here : c ∈ ipv6Text pieces) :
    belongsToHost c = true := by
  have joined : ∀ {pieces : List Nat},
      c ∈ [':'].intercalate (pieces.map hexText) → belongsToHost c = true := by
    intro pieces here
    rcases mem_or_of_mem_intercalate here with rfl | ⟨digits, among, digit⟩
    · rfl
    · obtain ⟨piece, -, rfl⟩ := List.mem_map.mp among
      exact belongsToHost_of_mem_hexText digit
  unfold ipv6Text at here
  dsimp only at here
  split at here
  · exact joined here
  · rcases List.mem_append.mp here with front | back
    · rcases List.mem_append.mp front with front | colons
      · exact joined front
      · rcases List.mem_pair.mp colons with rfl | rfl <;> rfl
    · exact joined back

private theorem mem_of_mem_pieces {separates : Char → Bool} {piece : List Char}
    (among : piece ∈ Text.pieces separates text) (within : c ∈ piece) : c ∈ text := by
  induction text generalizing piece with
  | nil =>
      rw [List.mem_singleton.mp among] at within
      cases within
  | cons d rest ih =>
      rw [Text.pieces] at among
      split at among
      · rcases List.mem_cons.mp among with rfl | later
        · cases within
        · exact List.mem_cons_of_mem d (ih later within)
      · split at among
        · rw [List.mem_singleton.mp among] at within
          rw [List.mem_singleton.mp within]
          exact List.mem_cons_self
        · rename_i first more split
          rw [split] at ih
          rcases List.mem_cons.mp among with rfl | later
          · rcases List.mem_cons.mp within with rfl | behind
            · exact List.mem_cons_self
            · exact List.mem_cons_of_mem d (ih List.mem_cons_self behind)
          · exact List.mem_cons_of_mem d (ih (List.mem_cons_of_mem _ later) within)

private theorem mem_ascii_of_read? {label : Label} (read : Label.read? text = some label)
    (here : c ∈ label.ascii) :
    c ∈ text ∨ belongsToHost c = true := by
  unfold Label.read? at read
  split at read
  · obtain ⟨decoded, -, rfl⟩ := Option.map_eq_some_iff.mp read
    exact .inl here
  · split at read
    · cases read
      exact .inl here
    · split at read
      · cases read
        rcases List.mem_append.mp here with marker | encoded
        · have marks : ∀ c ∈ Label.marker, belongsToHost c = true :=
            List.forall_iff_forall_mem.mp (by decide)
          exact .inr (marks c marker)
        · rcases Punycode.mem_encode encoded with within | rfl | symbol
          · exact .inl within
          · exact .inr rfl
          · exact .inr (belongsToHost_of_isSymbol symbol)
      · cases read

private theorem exists_of_mem_mapM {α β : Type} {f : α → Option β} {as : List α} {bs : List β} {b : β}
    (all : as.mapM f = some bs) (here : b ∈ bs) : ∃ a ∈ as, f a = some b := by
  induction as generalizing bs with
  | nil =>
      cases all
      cases here
  | cons first rest ih =>
      simp only [List.mapM_cons, Option.bind_eq_bind, Option.bind_eq_some_iff, Option.pure_def] at all
      obtain ⟨one, makes, others, allOthers, ⟨⟩⟩ := all
      rcases List.mem_cons.mp here with rfl | later
      · exact ⟨first, List.mem_cons_self, makes⟩
      · obtain ⟨a, among, makes⟩ := ih allOthers later
        exact ⟨a, List.mem_cons_of_mem first among, makes⟩

private theorem belongsToHost_of_mem_domainToAscii {domain name : List Char}
    (read : domainToAscii domain = some name)
    (here : c ∈ name) : belongsToHost c = true := by
  simp only [domainToAscii, Option.bind_eq_bind, Option.bind_eq_some_iff, Option.ite_none_left_eq_some,
    Option.ite_none_right_eq_some, Option.some_inj] at read
  obtain ⟨folded, -, allowed, labels, readLabels, -, rfl⟩ := read
  rcases mem_or_of_mem_intercalate here with rfl | ⟨ascii, among, within⟩
  · rfl
  · obtain ⟨label, isLabel, rfl⟩ := List.mem_map.mp among
    obtain ⟨piece, isPiece, readLabel⟩ := exists_of_mem_mapM readLabels isLabel
    rcases mem_ascii_of_read? readLabel within with within | belongs
    · have present := mem_of_mem_pieces isPiece within
      have harmless : isForbidden c = false := by
        simp only [Bool.not_eq_true, List.any_eq_false] at allowed
        simpa using allowed c present
      exact belongsToHost_of_isForbidden_eq_false harmless
    · exact belongs

private theorem parse_cases (read : Host.parse text = .ok host) :
    (∃ pieces, host = .ipv6 pieces) ∨ (∃ n, host = .ipv4 n) ∨
      ∃ domain name, domainToAscii domain = some name ∧ name ≠ [] ∧ host = .domain name := by
  rcases bracketed_cases read with ⟨address, pieces, -, -, rfl⟩ | ⟨-, read⟩
  · exact .inl ⟨pieces, rfl⟩
  · split at read
    · cases read
    · rename_i domain _
      split at read
      · cases read
      · cases read
      · rename_i name some isName
        split at read
        · cases address : parseIpv4 name with
          | error fault =>
              rw [address] at read
              cases read
          | ok n =>
              rw [address] at read
              cases read
              exact .inr (.inl ⟨n, rfl⟩)
        · cases read
          exact .inr (.inr ⟨domain, name, isName, some, rfl⟩)

theorem belongsToHost_of_mem_text (read : Host.parse text = .ok host) (here : c ∈ host.text) :
    belongsToHost c = true := by
  rcases parse_cases read with ⟨pieces, rfl⟩ | ⟨n, rfl⟩ | ⟨domain, name, isName, -, rfl⟩
  · rcases List.mem_cons.mp here with rfl | here
    · rfl
    · rcases List.mem_append.mp here with within | close
      · exact belongsToHost_of_mem_ipv6Text within
      · rw [List.mem_singleton.mp close]
        rfl
  · exact belongsToHost_of_mem_ipv4Text here
  · exact belongsToHost_of_mem_domainToAscii isName here

theorem text_ne_nil (read : Host.parse text = .ok host) : host.text ≠ [] := by
  rcases parse_cases read with ⟨pieces, rfl⟩ | ⟨n, rfl⟩ | ⟨domain, name, isName, some, rfl⟩
  · exact List.cons_ne_nil _ _
  · simp [Host.text, ipv4Text]
  · exact some

end ExchangeTap.Url
