import ExchangeTap.Json.Tree
import ExchangeTap.Proofs.Json.Lexing

namespace ExchangeTap.Json

mutual

def tree : Json → Tree
  | .null => .null
  | .boolean value => .boolean value
  | .number value => .number (some value)
  | .text value => .text (some value)
  | .list items => .list (itemTrees items) none
  | .object members => .object (memberTrees members) none
termination_by structural value => value

def itemTrees : List Json → List Tree
  | [] => []
  | item :: rest => item.tree :: itemTrees rest
termination_by structural items => items

def memberTrees : List (String × Json) → List (Option String × Tree)
  | [] => []
  | (name, value) :: rest => (some name, value.tree) :: memberTrees rest
termination_by structural members => members

end

namespace Tree

variable {outer : List Frame}

private theorem build_firstItem {token : Token} (opened : token ≠ .closeList) (rest : List Token) :
    build (.firstItem outer) (token :: rest) = build (.value (.list [] :: outer)) (token :: rest) := by
  cases token <;> first | rfl | exact absurd rfl opened

private theorem itemSpelling_head (item : Json) (items : List Json) :
    ∃ token more, itemSpelling (item :: items) = token :: more ∧ token ≠ .closeList := by
  cases items <;> cases item <;> exact ⟨_, _, rfl, by simp⟩

mutual

private theorem build_spelling : ∀ (value : Json) (outer : List Frame) (rest : List Token),
    build (.value outer) (value.spelling ++ rest) = build (.after value.tree outer) rest
  | .null, _, _ => rfl
  | .boolean _, _, _ => rfl
  | .number _, _, _ => rfl
  | .text _, _, _ => rfl
  | .list [], _, _ => rfl
  | .list (item :: items), outer, rest => by
      have inner := build_itemSpelling (item :: items) (by simp) [] outer rest
      obtain ⟨token, more, spelled, opened⟩ := itemSpelling_head item items
      rw [spelled, List.cons_append, ← build_firstItem opened, ← List.cons_append, ← spelled] at inner
      exact inner
  | .object [], _, _ => rfl
  | .object (member :: members), outer, rest =>
      build_memberSpelling (member :: members) (by simp) true [] outer rest

private theorem build_itemSpelling : ∀ (items : List Json), items ≠ [] →
    ∀ (done : List Tree) (outer : List Frame) (rest : List Token),
      build (.value (.list done :: outer)) (itemSpelling items ++ rest) =
        build (.after (.list (done.reverse ++ itemTrees items) none) outer) rest
  | [], inhabited, _, _, _ => absurd rfl inhabited
  | [last], _, done, outer, rest => by
      rw [itemSpelling, List.append_assoc, build_spelling last]
      rfl
  | item :: next :: more, _, done, outer, rest => by
      have others := build_itemSpelling (next :: more) (by simp) (item.tree :: done) outer rest
      have spelled : itemSpelling (item :: next :: more) ++ rest =
          item.spelling ++ .comma :: (itemSpelling (next :: more) ++ rest) := by
        simp [itemSpelling]
      rw [spelled, build_spelling item]
      refine Eq.trans others ?_
      simp [itemTrees]

private theorem build_memberSpelling : ∀ (members : List (String × Json)), members ≠ [] →
    ∀ (first : Bool) (done : List (Option String × Tree)) (outer : List Frame) (rest : List Token),
      build (.key first done outer) (memberSpelling members ++ rest) =
        build (.after (.object (done.reverse ++ memberTrees members) none) outer) rest
  | [], inhabited, _, _, _, _ => absurd rfl inhabited
  | [(name, last)], _, first, done, outer, rest => by
      have inner := build_spelling last (.object done (some name) :: outer) (.closeObject :: rest)
      have spelled : memberSpelling [(name, last)] ++ rest =
          .text (some name) :: .colon :: (last.spelling ++ .closeObject :: rest) := by
        simp [memberSpelling]
      rw [spelled]
      exact inner
  | (name, value) :: next :: more, _, first, done, outer, rest => by
      have inner := build_spelling value (.object done (some name) :: outer)
        (.comma :: (memberSpelling (next :: more) ++ rest))
      have others := build_memberSpelling (next :: more) (by simp) false
        ((some name, value.tree) :: done) outer rest
      have spelled : memberSpelling ((name, value) :: next :: more) ++ rest =
          .text (some name) :: .colon ::
            (value.spelling ++ .comma :: (memberSpelling (next :: more) ++ rest)) := by
        simp [memberSpelling]
      rw [spelled]
      refine inner.trans (Eq.trans others ?_)
      simp [memberTrees]

end

end Tree

theorem ofText_of_spelling {value : Json} {text : List Char} (spelled : tokens text = value.spelling) :
    Tree.ofText text = (value.tree, false) := by
  have built : Tree.build (.value []) value.spelling = (value.tree, []) := by
    have built := Tree.build_spelling value [] []
    rwa [List.append_nil] at built
  simp [Tree.ofText, spelled, built]

end ExchangeTap.Json
