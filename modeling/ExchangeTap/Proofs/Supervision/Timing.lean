import ExchangeTap.Proofs.Supervision.Attention

namespace ExchangeTap.Supervised

def Waits (s : Supervised) : Prop :=
  (s.mainStep .first).isNone ∧ (s.mainStep .second).isNone

/-- Time goes on only while the supervisor waits, and not past the time it waits for. -/
def Punctual (s : Supervised) : Act → Prop
  | .world (.pass millis) =>
    s.Waits ∧ ∀ deadline ∈ s.deadline?, s.stage.now + millis ≤ deadline
  | _ => True

instance : DecidablePred Waits :=
  fun _ => inferInstanceAs (Decidable (_ ∧ _))

instance (s : Supervised) : DecidablePred s.Punctual
  | .world (.pass _) => inferInstanceAs (Decidable (_ ∧ _))
  | .connect | .close _ | .task _ _ => isTrue trivial
  | .world (.plan _ _ _ _ _) | .world .drop | .world (.deliver _ _) | .world (.output _)
  | .world (.feed _) | .world .endFeed => isTrue trivial

def Punctually : List Act → Supervised → Bool
  | [], _ => true
  | act :: rest, s => decide (s.Punctual act) && (performAnew act s).all (Punctually rest)

/-- The times at which the dials of a run begin. -/
def dialTimes : List Act → Supervised → List Nat
  | [], _ => []
  | act :: rest, s =>
    match performAnew act s with
    | none => []
    | some t =>
      .replicate (Journal.dialsAttempted t.stage.journal - Journal.dialsAttempted s.stage.journal)
        t.stage.now ++ dialTimes rest t

variable {s t u start : Supervised} {act : Act} {acts : List Act}

theorem punctually_concat (reached : play performAnew acts start = some s) :
    Punctually (acts ++ [act]) start = true ↔ Punctually acts start = true ∧ s.Punctual act := by
  induction acts generalizing start with
  | nil =>
      cases reached
      cases performed : performAnew act s <;> simp [Punctually, performed]
  | cons first rest ih =>
      obtain ⟨next, stepped, after⟩ := Option.bind_eq_some_iff.mp reached
      simp only [List.cons_append, Punctually, stepped, Option.all_some, Bool.and_eq_true, ih after,
        and_assoc]

private theorem dialTimes_concat (reached : play performAnew acts start = some s)
    (performed : performAnew act s = some t) :
    dialTimes (acts ++ [act]) start = dialTimes acts start ++
      .replicate (Journal.dialsAttempted t.stage.journal - Journal.dialsAttempted s.stage.journal)
        t.stage.now := by
  induction acts generalizing start with
  | nil =>
      cases reached
      simp [dialTimes, performed]
  | cons first rest ih =>
      obtain ⟨next, stepped, after⟩ := Option.bind_eq_some_iff.mp reached
      simp only [List.cons_append, dialTimes, stepped, ih after, List.append_assoc]

theorem dialTimes_of_told (events : Journal) (reached : play performAnew acts start = some s)
    (performed : performAnew act s = some t) (journal : t.stage.journal = events ++ s.stage.journal) :
    dialTimes (acts ++ [act]) start =
      dialTimes acts start ++ .replicate (Journal.dialsAttempted events) t.stage.now := by
  rw [dialTimes_concat reached performed, journal]
  simp [Journal.dialsAttempted]

/-! What is known of a supervisor that nobody has asked to close. -/

theorem Move.configured (move : Move s act t) :
    t.worker = s.worker ∧ t.retryDelay = s.retryDelay := by
  cases move with
  | calls call => cases call <;> exact ⟨rfl, rfl⟩
  | _ => exact ⟨rfl, rfl⟩

theorem Move.unclosed (move : Move s act t) (unclosed : t.shutdownRequested = false) :
    s.shutdownRequested = false := by
  cases move with
  | calls call =>
      cases call with
      | refuses | follows => exact unclosed
      | comesLate | sends | queues => cases unclosed
  | _ => exact unclosed

theorem Move.unasked {pick : Pick} {task : Task} (move : Move s (.task pick task) t) :
    t.shutdownRequested = s.shutdownRequested := by
  cases move <;> rfl

private theorem shutdown_of_move (reserving : s.Reserving) (move : Move s act t)
    (asked : s.stage.control.slot = some .shutdown → s.shutdownRequested = true)
    (pending : t.stage.control.slot = some .shutdown) : t.shutdownRequested = true := by
  cases move with
  | hearsReconnect | hearsShutdown | reports => cases pending
  | works _ _ worked | merges _ _ worked =>
      refine asked ?_
      obtain ⟨events, journal, _⟩ := worked.directs
      have balance := worked.balance
      rw [journal, Journal.taken_append, List.append_assoc] at balance
      have kept : .shutdown ∈ s.stage.control.slot.toList := by
        rw [← List.append_cancel_left balance, pending]
        simp
      simpa using kept
  | quits _ _ aside | redials _ _ aside => exact asked (aside.control ▸ pending)
  | delivers waits => exact reserving.sending (List.mem_of_getElem? waits)
  | calls call =>
      cases call with
      | refuses | follows => exact asked pending
      | comesLate | sends | queues => rfl
  | world change => exact asked (s.stage.undergo_control change ▸ pending)
  | _ => exact asked pending

structure Configured (start s : Supervised) : Prop where
  guarded : s.Guarded
  epochal : s.Epochal
  reserving : s.Reserving
  asked : s.stage.control.slot = some .shutdown → s.shutdownRequested = true
  worker : s.worker = start.worker
  retryDelay : s.retryDelay = start.retryDelay

theorem configured_fresh (worker : Worker) (retryDelay : Nat) (broker : Broker) (capacity : Nat)
    (suffix : Nat → String) :
    Configured (fresh worker retryDelay broker capacity suffix)
      (fresh worker retryDelay broker capacity suffix) :=
  ⟨guarded_fresh worker retryDelay broker capacity suffix, epochal_of_empty rfl rfl,
    reserving_fresh worker retryDelay broker capacity suffix, fun same => (nomatch same), rfl, rfl⟩

theorem Configured.performAnew (configured : Configured start s)
    (performed : performAnew act s = some t) : Configured start t := by
  obtain ⟨guarded, epochal, reserving, asked, worker, retryDelay⟩ := configured
  have guards := guarded.performAnew performed
  rcases perform_of_performAnew performed with once | ⟨phase, rfl⟩
  · have move := move_of_perform guarded once
    obtain ⟨sameWorker, sameDelay⟩ := move.configured
    exact ⟨guards, epochal.move move, reserving.move epochal move,
      shutdown_of_move reserving move asked, sameWorker.trans worker, sameDelay.trans retryDelay⟩
  · exact ⟨guards, epochal.same rfl rfl id, reserving.renew phase, asked, worker, retryDelay⟩

end ExchangeTap.Supervised
