import ExchangeTap.Proofs.Supervision.Move

namespace ExchangeTap.Supervised

/-- The watcher lives no longer than its epoch, there is an outcome once the supervisor has ended,
and nobody asks for a shutdown before there was a connection. -/
structure Phased (s : Supervised) : Prop where
  watched : s.watching = true → s.phase.isWatched = true
  concluded : s.outcome.isSome = s.phase.isEnded
  attached : s.phase.isConnected = true → s.everConnected = true
  requested : s.shutdownRequested = true → s.everConnected = true

variable {s t : Supervised}

theorem phased_fresh (worker : Worker) (retryDelay : Nat) (broker : Broker) (capacity : Nat)
    (suffix : Nat → String) : (fresh worker retryDelay broker capacity suffix).Phased :=
  ⟨fun same => (nomatch same), rfl, fun same => (nomatch same), fun same => (nomatch same)⟩

theorem isWatched_of_isSeeking {phase : SupervisorPhase} (seeking : phase.isSeeking = true) :
    phase.isWatched = false := by
  cases phase <;> first | rfl | cases seeking

theorem isEnded_of_isSeeking {phase : SupervisorPhase} (seeking : phase.isSeeking = true) :
    phase.isEnded = false := by
  cases phase <;> first | rfl | cases seeking

theorem isConnected_of_isSeeking {phase : SupervisorPhase} (seeking : phase.isSeeking = true) :
    phase.isConnected = false := by
  cases phase <;> first | rfl | cases seeking

theorem Phased.unwatched (phased : s.Phased) (unwatched : s.phase.isWatched = false) :
    s.watching = false := by
  cases watching : s.watching with
  | false => rfl
  | true => simp [phased.watched watching] at unwatched

theorem Phased.seek (phased : s.Phased) (unwatched : s.phase.isWatched = false)
    (unfinished : s.phase.isEnded = false) (stage : Stage) {phase : SupervisorPhase}
    (seeking : phase.isSeeking = true) :
    Phased { s with stage := stage, phase := phase } := by
  refine ⟨?_, ?_, ?_, phased.requested⟩
  · intro watching
    simp [phased.unwatched unwatched] at watching
  · rw [phased.concluded, unfinished]
    exact (isEnded_of_isSeeking seeking).symm
  · intro connected
    cases (isConnected_of_isSeeking seeking).symm.trans connected

theorem Phased.move {act : Act} (phased : s.Phased) (move : Move s act t) : t.Phased := by
  cases move with
  | begins phase => exact phased.seek (by rw [phase]; rfl) (by rw [phase]; rfl) s.stage rfl
  | hearsReconnect seeking =>
      exact phased.seek (isWatched_of_isSeeking seeking) (isEnded_of_isSeeking seeking) _ rfl
  | dials phase | fails phase | retries phase =>
      exact phased.seek (by rw [phase]; rfl) (by rw [phase]; rfl) _ rfl
  | hearsShutdown seeking =>
      refine ⟨?_, rfl, fun connected => (nomatch connected), phased.requested⟩
      intro watching
      have unwatched := phased.unwatched (isWatched_of_isSeeking seeking)
      cases unwatched.symm.trans watching
  | remembers phase =>
      refine ⟨?_, rfl, fun connected => (nomatch connected), phased.requested⟩
      intro watching
      have unwatched := phased.unwatched (by rw [phase]; rfl)
      cases unwatched.symm.trans watching
  | connects phase =>
      refine ⟨fun _ => rfl, ?_, fun _ => rfl, fun _ => rfl⟩
      have concluded := phased.concluded
      rw [phase] at concluded
      exact concluded
  | works phase | merges phase | returns phase =>
      have concluded := phased.concluded
      have attached := phased.attached
      rw [phase] at concluded attached
      exact ⟨fun _ => rfl, concluded, attached, phased.requested⟩
  | joins phase alone =>
      have concluded := phased.concluded
      have attached := phased.attached
      rw [phase] at concluded attached
      refine ⟨?_, concluded, attached, phased.requested⟩
      intro watching
      cases alone.symm.trans watching
  | quits phase =>
      refine ⟨?_, rfl, fun connected => (nomatch connected), phased.requested⟩
      intro watching
      have unwatched := phased.unwatched (by rw [phase]; rfl)
      cases unwatched.symm.trans watching
  | redials phase =>
      have concluded := phased.concluded
      rw [phase] at concluded
      refine ⟨?_, concluded, fun connected => (nomatch connected), phased.requested⟩
      intro watching
      have unwatched := phased.unwatched (by rw [phase]; rfl)
      cases unwatched.symm.trans watching
  | dismisses | reports | concedes =>
      exact ⟨fun same => (nomatch same), phased.concluded, phased.attached, phased.requested⟩
  | sleeps | givesUp | delivers | finishes | world =>
      exact ⟨phased.watched, phased.concluded, phased.attached, phased.requested⟩
  | calls call =>
      cases call with
      | refuses | follows =>
          exact ⟨phased.watched, phased.concluded, phased.attached, phased.requested⟩
      | comesLate known | sends known | queues known =>
          exact ⟨phased.watched, phased.concluded, phased.attached, fun _ => known⟩

end ExchangeTap.Supervised
