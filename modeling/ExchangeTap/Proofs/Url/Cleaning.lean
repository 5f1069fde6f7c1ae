import ExchangeTap.Url.Parse

namespace ExchangeTap.Url

variable {c : Char} {text : List Char}

def isKept (c : Char) : Bool :=
  c != '\t' && c != '\n' && c != '\r'

def cleanFront (text : List Char) : List Char :=
  (text.dropWhile fun c => c ≤ ' ').filter isKept

def cleanBack (text : List Char) : List Char :=
  (text.reverse.dropWhile fun c => c ≤ ' ').reverse.filter isKept

theorem dropWhile_append_cons {p : Char → Bool} (stays : p c = false) (before behind : List Char) :
    (before ++ c :: behind).dropWhile p = before.dropWhile p ++ c :: behind := by
  induction before with
  | nil => simp [stays]
  | cons d rest ih =>
      rw [List.cons_append, List.dropWhile_cons, List.dropWhile_cons, ih]
      split <;> rfl

theorem isKept_of_visible (visible : ¬c ≤ ' ') : isKept c = true := by
  have differs : ∀ d : Char, d ≤ ' ' → (c != d) = true := fun d blank =>
    bne_iff_ne.mpr fun same => visible (same ▸ blank)
  rw [isKept, differs '\t' (by decide), differs '\n' (by decide), differs '\r' (by decide)]
  rfl

theorem cleanBack_append (visible : ¬c ≤ ' ') (before behind : List Char) :
    cleanBack (before ++ c :: behind) = before.filter isKept ++ c :: cleanBack behind := by
  simp only [cleanBack, List.reverse_append, List.reverse_cons, List.append_assoc,
    List.singleton_append]
  rw [dropWhile_append_cons (decide_eq_false visible)]
  simp [isKept_of_visible visible]

theorem clean_append (visible : ¬c ≤ ' ') (before behind : List Char) :
    clean (before ++ c :: behind) = cleanFront before ++ c :: cleanBack behind := by
  have trimmed : clean (before ++ c :: behind) =
      cleanBack ((before ++ c :: behind).dropWhile fun c => c ≤ ' ') := rfl
  rw [trimmed, dropWhile_append_cons (decide_eq_false visible), cleanBack_append visible]
  rfl

theorem notMem_cleanFront (absent : c ∉ text) : c ∉ cleanFront text := fun present =>
  absent ((List.dropWhile_sublist _).mem (List.mem_filter.mp present).1)

theorem notMem_cleanBack (absent : c ∉ text) : c ∉ cleanBack text := fun present =>
  absent (List.mem_reverse.mp ((List.dropWhile_sublist _).mem
    (List.mem_reverse.mp (List.mem_filter.mp present).1)))

end ExchangeTap.Url
