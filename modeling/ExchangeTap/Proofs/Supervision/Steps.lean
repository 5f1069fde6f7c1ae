import ExchangeTap.Proofs.Supervision.Move

namespace ExchangeTap.Supervised

variable {s t : Supervised}

/-! Who listens hears what is in the slot. -/

private theorem listen_of_reconnect {otherwise : Supervised → Option Supervised}
    (used : s.stage.control.UsedBy (some .supervisor))
    (pending : s.stage.control.slot = some .reconnect) :
    s.listen otherwise =
      some { s with stage := s.stage.hear .reconnect, phase := .draining } := by
  simp [listen, Stage.pollControl, ControlPath.poll_of_usedBy used, pending, Stage.hear]

theorem listen_of_shutdown {otherwise : Supervised → Option Supervised}
    (used : s.stage.control.UsedBy (some .supervisor))
    (pending : s.stage.control.slot = some .shutdown) :
    s.listen otherwise =
      some { s with stage := s.stage.hear .shutdown }.concludeUnconnected := by
  simp [listen, Stage.pollControl, ControlPath.poll_of_usedBy used, pending, Stage.hear]

theorem listen_of_empty {otherwise : Supervised → Option Supervised}
    (used : s.stage.control.UsedBy (some .supervisor))
    (empty : s.stage.control.slot = none) (alive : s.stage.control.senderAlive = true) :
    s.listen otherwise = otherwise { s with stage := s.stage.await } := by
  simp [listen, Stage.pollControl, ControlPath.poll_of_usedBy used, empty, alive, Stage.await]

private theorem move_of_listen {pick : Pick} {otherwise : Supervised → Option Supervised}
    (used : s.stage.control.UsedBy (some .supervisor))
    (alive : s.stage.control.senderAlive = true) (seeking : s.phase.isSeeking = true)
    (listened : s.listen otherwise = some t)
    (silent : s.stage.control.slot = none →
      otherwise { s with stage := s.stage.await } = some t → Move s (.task pick .main) t) :
    Move s (.task pick .main) t := by
  cases slot : s.stage.control.slot with
  | none =>
      rw [listen_of_empty used slot alive] at listened
      exact silent slot listened
  | some signal =>
      cases signal with
      | reconnect =>
          rw [listen_of_reconnect used slot] at listened
          cases listened
          exact .hearsReconnect seeking slot
      | shutdown =>
          rw [listen_of_shutdown used slot] at listened
          cases listened
          exact .hearsShutdown seeking slot

private theorem hear_of_free (s : Stage) (signal : Signal) (free : s.control.holder = none) :
    { s with control := { s.control with slot := none } }.record
      (.signalTaken signal .supervisor) = s.hear signal := by
  simp [Stage.hear, ← free]

private theorem move_drain (pick : Pick) (guarded : s.Guarded) (phase : s.phase = .draining) :
    Move s (.task pick .main) s.drain := by
  have seeking : s.phase.isSeeking = true := by rw [phase]; rfl
  have used : s.stage.control.UsedBy none := by
    simpa [phase, SupervisorPhase.Guards] using guarded.lock
  rw [drain, ControlPath.tryTake_of_usedBy_none used]
  cases slot : s.stage.control.slot with
  | some signal =>
      cases signal with
      | reconnect =>
          simp only [hear_of_free s.stage _ used.free]
          rw [phase]
          exact .hearsReconnect seeking slot
      | shutdown =>
          simp only [hear_of_free s.stage _ used.free]
          exact .hearsShutdown seeking slot
  | none =>
      cases requested : s.shutdownRequested with
      | true => exact .remembers phase slot requested
      | false =>
          simp only [Bool.false_eq_true, if_false]
          rw [listen_of_empty (used.weaken _) slot guarded.senderAlive]
          exact .dials phase slot requested

theorem unlock_await (used : s.stage.control.UsedBy (some .supervisor)) :
    s.stage.await.cancelControl .supervisor = s.stage.unlock := by
  have waiting : s.stage.await.control.UsedBy (some .supervisor) := ⟨used.queue, .inr rfl⟩
  rw [Stage.cancelControl, ControlPath.cancel_of_usedBy waiting]
  rfl

private theorem move_dial (pick : Pick) (used : s.stage.control.UsedBy (some .supervisor))
    (phase : s.phase = .dialing) (empty : s.stage.control.slot = none) :
    Move s (.task pick .main) { s with stage := s.stage.await }.dial := by
  have waiting : s.stage.await.control.UsedBy (some .supervisor) := ⟨used.queue, .inr rfl⟩
  cases answer : s.stage.broker.dial with
  | mk result broker =>
      have dialed : s.stage.await.broker.dial = (result, broker) := answer
      cases result with
      | error e =>
          simp only [dial, Stage.finishDial, dialed]
          exact .fails phase empty answer
      | ok _ =>
          simp only [dial, Stage.finishDial, dialed, Stage.cancelControl, Stage.record,
            ControlPath.cancel_of_usedBy waiting]
          exact .connects phase empty answer

private theorem move_close {action : Action} (pick : Pick) (phase : s.phase = .closing action) :
    Move s (.task pick .main) (s.close action) := by
  unfold close
  cases answer : s.stage.closeConnection with
  | mk result stage =>
      have closed := Stage.aside_closeConnection answer
      dsimp only
      split
      · rename_i final
        exact .quits phase final (closed.trans (Stage.aside_log _ _))
      · rename_i again
        have unrequested : s.shutdownRequested = false := by simpa using (not_or.mp again).2
        cases result with
        | ok _ => exact .redials phase unrequested (closed.trans (Stage.aside_log _ _))
        | error e =>
            exact .redials phase unrequested
              ((closed.trans (Stage.aside_log _ _)).trans (Stage.aside_log _ _))

private theorem move_mainStep {pick : Pick} (guarded : s.Guarded)
    (stepped : s.mainStep pick = some t) : Move s (.task pick .main) t := by
  unfold mainStep at stepped
  have lock := guarded.lock
  cases phase : s.phase with
  | idle | ended =>
      simp only [phase] at stepped
      cases stepped
  | draining =>
      simp only [phase] at stepped
      cases stepped
      exact move_drain pick guarded phase
  | dialing =>
      simp only [phase, SupervisorPhase.Guards] at stepped lock
      refine move_of_listen lock guarded.senderAlive (by simp [phase, SupervisorPhase.isSeeking])
        stepped ?_
      rintro empty ⟨⟩
      exact move_dial pick lock phase empty
  | retrying until_ =>
      simp only [phase, SupervisorPhase.Guards] at stepped lock
      refine move_of_listen lock guarded.senderAlive (by simp [phase, SupervisorPhase.isSeeking])
        stepped ?_
      intro empty waited
      split at waited
      · cases waited
        rw [unlock_await lock]
        exact .retries phase empty
      · obtain ⟨_, _, same⟩ := Option.map_eq_some_iff.mp waited
        cases same
        exact .sleeps phase empty
  | working run =>
      simp only [phase, SupervisorPhase.Guards] at stepped lock
      cases returned : run.result? with
      | some action =>
          simp only [returned] at stepped
          cases stepped
          exact .returns phase returned
      | none =>
          simp only [returned] at stepped
          obtain ⟨⟨next, stage⟩, moved, same⟩ := Option.map_eq_some_iff.mp stepped
          cases same
          obtain ⟨worked, orderly⟩ := Run.step_spec lock moved
          exact .works phase returned worked orderly
  | joining action =>
      simp only [phase] at stepped
      split at stepped <;> cases stepped
      rename_i alone
      exact .joins phase (by simpa using alone)
  | closing action =>
      simp only [phase] at stepped
      cases stepped
      exact move_close pick phase

private theorem move_mergeStep (pick : Pick) (guarded : s.Guarded) (stepped : s.mergeStep = some t) :
    Move s (.task pick .merge) t := by
  unfold mergeStep at stepped
  have lock := guarded.lock
  cases phase : s.phase with
  | working run =>
      simp only [phase, SupervisorPhase.Guards] at stepped lock
      obtain ⟨⟨next, stage⟩, moved, same⟩ := Option.map_eq_some_iff.mp stepped
      cases same
      obtain ⟨worked, orderly⟩ := Run.mergeStep_spec lock moved
      exact .merges phase (Run.result?_mergeStep moved) worked orderly
  | _ => simp [phase] at stepped

private theorem move_report {e : BrokerError} (pick : Pick) (watching : s.watching = true)
    (lost : s.stage.broker.loss = some e)
    (reported : (match (s.stage.log (.connectionLost e)).offer .reconnect with
      | (.accepted, stage) => some { s with stage := stage, watching := false }
      | (.full, stage) => some { s with stage := stage.log .signalPending, watching := false }) =
        some t) : Move s (.task pick .watcher) t := by
  cases full : s.stage.control.slot.isSome || s.stage.control.reserved with
  | true =>
      rw [Stage.offer_of_full _ (by exact full)] at reported
      cases reported
      exact .concedes watching lost full
  | false =>
      obtain ⟨empty, unreserved⟩ := Bool.or_eq_false_iff.mp full
      rw [Option.isSome_eq_false_iff, Option.isNone_iff_eq_none] at empty
      rw [Stage.offer_of_free _ (by exact empty) (by exact unreserved)] at reported
      cases reported
      exact .reports watching lost empty unreserved

private theorem joining_of_cancelled {phase : SupervisorPhase}
    (cancelled : (match phase with
      | .joining _ => true
      | _ => false) = true) : ∃ action, phase = .joining action := by
  cases phase with
  | joining action => exact ⟨action, rfl⟩
  | _ => cases cancelled

private theorem move_watcherStep {pick : Pick} (stepped : s.watcherStep pick = some t) :
    Move s (.task pick .watcher) t := by
  unfold watcherStep at stepped
  split at stepped
  · cases stepped
  · rename_i alive
    have watching : s.watching = true := by simpa using alive
    simp only at stepped
    split at stepped
    · cases stepped
    · rename_i cancelled
      cases stepped
      obtain ⟨action, phase⟩ := joining_of_cancelled cancelled
      exact .dismisses watching phase
    · rename_i cancelled
      cases stepped
      obtain ⟨action, phase⟩ := joining_of_cancelled cancelled
      exact .dismisses watching phase
    · rename_i lost _
      exact move_report _ watching lost stepped

theorem call_requestClose (pick : Pick) (s : Supervised) : Call s (s.requestClose pick) := by
  unfold requestClose
  split
  · rename_i unknown
    exact .refuses (by simpa using unknown)
  · rename_i connected
    have known : s.everConnected = true := by simpa using connected
    split
    · rename_i requested
      exact .follows known requested
    · rename_i notRequested
      have unrequested : s.shutdownRequested = false := by simpa using notRequested
      dsimp only
      split
      · rename_i late
        exact .comesLate known unrequested (Bool.and_eq_true_iff.mp late).1
      · cases full : s.stage.control.slot.isSome || s.stage.control.reserved with
        | true =>
            rw [Stage.offer_of_full _ (by exact full)]
            exact .queues known unrequested full
        | false =>
            obtain ⟨empty, unreserved⟩ := Bool.or_eq_false_iff.mp full
            rw [Option.isSome_eq_false_iff, Option.isNone_iff_eq_none] at empty
            rw [Stage.offer_of_free _ (by exact empty) (by exact unreserved)]
            exact .sends known unrequested empty unreserved

private theorem move_closerStep {pick : Pick} {index : Nat}
    (stepped : s.closerStep pick index = some t) :
    Move s (.task pick (.closer index)) t := by
  unfold closerStep at stepped
  cases waits : s.closers[index]? with
  | none => simp [waits] at stepped
  | some closer =>
      simp only [waits] at stepped
      cases closer with
      | sending =>
          simp only at stepped
          split at stepped
          · rename_i late
            cases stepped
            exact .givesUp waits (Bool.and_eq_true_iff.mp late).1
          · cases slot : s.stage.control.slot with
            | some signal =>
                rw [Stage.offer_of_full _ (by simp [slot])] at stepped
                cases stepped
            | none =>
                have offered := Stage.offer_of_free (s := s.stage.reserve false) .shutdown slot rfl
                unfold Stage.reserve at offered
                rw [offered] at stepped
                cases stepped
                exact .delivers waits slot
      | waiting =>
          obtain ⟨outcome, concluded, same⟩ := Option.map_eq_some_iff.mp stepped
          cases same
          exact .finishes waits concluded
      | finished result => cases stepped

theorem move_of_perform {act : Act} (guarded : s.Guarded) (performed : perform act s = some t) :
    Move s act t := by
  cases act with
  | connect =>
      simp only [perform] at performed
      split at performed <;> cases performed
      rename_i phase
      rw [connect, isRunning, phase]
      exact .begins phase
  | close pick =>
      cases performed
      exact .calls (call_requestClose pick s)
  | task pick task =>
      cases task with
      | main => exact move_mainStep guarded performed
      | merge => exact move_mergeStep pick guarded performed
      | watcher => exact move_watcherStep performed
      | closer index => exact move_closerStep performed
  | world change =>
      cases performed
      exact .world change

end ExchangeTap.Supervised
