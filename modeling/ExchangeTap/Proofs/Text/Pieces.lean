import ExchangeTap.Text.Pieces

namespace ExchangeTap.Text

theorem pieces_eq_splitOn (separator : Char) (text : List Char) :
    pieces (· == separator) text = text.splitOn separator := by
  induction text with
  | nil => rfl
  | cons c rest ih =>
      rw [pieces, ih, List.splitOn_cons_eq_if_modifyHead]
      split
      next => rfl
      next =>
        cases later : rest.splitOn separator with
        | nil => exact absurd later (List.splitOn_ne_nil separator rest)
        | cons piece more => rfl

theorem length_splitOn (separator : Char) (text : List Char) :
    (text.splitOn separator).length = text.count separator + 1 := by
  induction text with
  | nil => rfl
  | cons c rest ih =>
      rw [List.splitOn_cons_eq_if_modifyHead, List.count_cons]
      split
      next => rw [List.length_cons, ih]
      next => rw [List.length_modifyHead, ih]

end ExchangeTap.Text
