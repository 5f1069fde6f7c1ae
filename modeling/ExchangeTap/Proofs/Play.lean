namespace ExchangeTap

def play (move : μ → σ → Option σ) : List μ → σ → Option σ
  | [], state => some state
  | m :: rest, state => (move m state).bind (play move rest)

variable {move : μ → σ → Option σ} {state next last : σ}

@[simp] theorem play_nil : play move [] state = some state := rfl

@[simp] theorem play_cons (m : μ) (rest : List μ) :
    play move (m :: rest) state = (move m state).bind (play move rest) := rfl

theorem play_append (first second : List μ) :
    play move (first ++ second) state =
      (play move first state).bind (play move second) := by
  induction first generalizing state with
  | nil => rfl
  | cons m rest ih =>
      simp only [List.cons_append, play_cons, Option.bind_assoc]
      congr
      funext next
      exact ih

theorem play_preserves {P : σ → Prop}
    (preserved : ∀ {m state next}, P state → move m state = some next → P next)
    {moves : List μ} (holds : P state)
    (played : play move moves state = some last) : P last := by
  induction moves generalizing state with
  | nil =>
      cases played
      exact holds
  | cons m rest ih =>
      obtain ⟨next, moved, after⟩ := Option.bind_eq_some_iff.mp played
      exact ih (preserved holds moved) after

theorem play_history {start : σ} {P : List μ → σ → Prop}
    (preserved : ∀ {moves m state next}, play move moves start = some state → P moves state →
      move m state = some next → P (moves ++ [m]) next)
    {moves : List μ} (holds : P [] start) (played : play move moves start = some last) :
    P moves last := by
  -- the moves that are done are kept in front
  have along : ∀ rest done state, play move done start = some state → P done state →
      play move rest state = some last → P (done ++ rest) last := by
    intro rest
    induction rest with
    | nil =>
        intro done state _ holds ended
        cases ended
        rw [List.append_nil]
        exact holds
    | cons m rest ih =>
        intro done state reached holds going
        obtain ⟨next, moved, after⟩ := Option.bind_eq_some_iff.mp going
        have further : play move (done ++ [m]) start = some next := by
          rw [play_append, reached]
          simp [moved, play]
        rw [List.append_cons]
        exact ih (done ++ [m]) next further (preserved reached holds moved) after
  exact along moves [] start rfl holds played

end ExchangeTap
