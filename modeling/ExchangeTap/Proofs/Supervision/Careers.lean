import ExchangeTap.Proofs.Supervision.Attention
import ExchangeTap.Proofs.Worker.Career

/-! A supervised worker has a career: its supervisor, the watcher and the calls to close do nothing
that the rest of the world may not do. -/

namespace ExchangeTap

namespace Stage

/-- What a worker has to itself is left alone, whatever becomes of the control path. -/
structure Beside (before after : Stage) : Prop where
  consumers : after.broker.consumers = before.broker.consumers
  deleted : after.broker.deletedWhileConsumed = before.broker.deletedWhileConsumed
  channels : after.broker.channels = before.broker.channels
  suffix : after.suffix = before.suffix
  used : after.suffixesUsed = before.suffixesUsed
  tells : before.Tells (·.isOnChannel = false) after

variable {s t u : Stage}

theorem Beside.trans (first : s.Beside t) (second : t.Beside u) : s.Beside u :=
  ⟨second.consumers.trans first.consumers, second.deleted.trans first.deleted,
    second.channels.trans first.channels, second.suffix.trans first.suffix,
    second.used.trans first.used, first.tells.trans second.tells⟩

theorem Beside.refl (s : Stage) : s.Beside s :=
  ⟨rfl, rfl, rfl, rfl, rfl, .refl s⟩

private theorem beside_control (s : Stage) (control : ControlPath Reader) :
    s.Beside { s with control := control } :=
  ⟨rfl, rfl, rfl, rfl, rfl, tells_of_journal rfl⟩

private theorem beside_record (s : Stage) {e : Event} (other : e.isOnChannel = false) :
    s.Beside (s.record e) :=
  ⟨rfl, rfl, rfl, rfl, rfl, tells_record s other⟩

private theorem beside_log (s : Stage) (entry : LogEntry) : s.Beside (s.log entry) :=
  beside_record s rfl

private theorem beside_hear (s : Stage) (signal : Signal) : s.Beside (s.hear signal) :=
  (beside_control s _).trans (beside_record _ rfl)

private theorem beside_put (s : Stage) (signal : Signal) : s.Beside (s.put signal) :=
  (beside_control s _).trans (beside_record _ rfl)

private theorem beside_dial {result : Except BrokerError Unit} {broker : Broker}
    (dialed : s.broker.dial = (result, broker)) : s.Beside { s with broker := broker } := by
  unfold Broker.dial at dialed
  split at dialed <;> cases dialed <;> exact ⟨rfl, rfl, rfl, rfl, rfl, tells_of_journal rfl⟩

private theorem beside_undergo (s : Stage) {change : World}
    (other : ∀ chosen item, change ≠ .deliver chosen item) : s.Beside (s.undergo change) := by
  have told := tells_of_journal (P := (·.isOnChannel = false)) (s.undergo_journal change)
  cases change with
  | deliver chosen item => exact absurd rfl (other chosen item)
  | drop =>
      have same : s.broker.drop.consumers = s.broker.consumers ∧
          s.broker.drop.deletedWhileConsumed = s.broker.deletedWhileConsumed ∧
          s.broker.drop.channels = s.broker.channels := by
        unfold Broker.drop
        split <;> exact ⟨rfl, rfl, rfl⟩
      exact ⟨same.1, same.2.1, same.2.2, rfl, rfl, told⟩
  | feed message =>
      have fed : ∃ feed, s.undergo (.feed message) = { s with feed := feed } := by
        simp only [undergo]
        split
        · split <;> exact ⟨_, rfl⟩
        · exact ⟨_, rfl⟩
      obtain ⟨feed, same⟩ := fed
      rw [same]
      exact ⟨rfl, rfl, rfl, rfl, rfl, tells_of_journal rfl⟩
  | plan | output | endFeed | pass => exact ⟨rfl, rfl, rfl, rfl, rfl, told⟩

end Stage

def SupervisorPhase.run? : SupervisorPhase → Option Run
  | working run => some run
  | _ => none

private theorem SupervisorPhase.run?_of_seeking {phase : SupervisorPhase}
    (seeking : phase.isSeeking = true) : phase.run? = none := by
  cases phase <;> first | rfl | cases seeking

private theorem Career.take_beside (c : Career) {stage : Stage} (beside : c.stage.Beside stage)
    (lock : c.run.isSome = true → stage.control.holder = c.stage.control.holder ∧
      stage.control.queue = c.stage.control.queue) :
    ∃ turn, take turn c = some { c with stage := stage } := by
  obtain ⟨told, journal, others⟩ := beside.tells
  have kept : told.filter (!·.isOnChannel) = told :=
    List.filter_eq_self.mpr fun e member => by simp [others e member]
  have path : atLock c.run.isSome c.stage.control stage.control = stage.control := by
    unfold atLock
    split
    · rename_i during
      obtain ⟨holder, queue⟩ := lock during
      rw [← holder, ← queue]
    · rfl
  refine ⟨.elsewhere stage told, ?_⟩
  simp only [take, surrounded, kept, path, ← beside.consumers, ← beside.deleted, ← beside.channels,
    ← beside.suffix, ← beside.used, ← journal]

namespace Supervised

def career (s : Supervised) : Career :=
  ⟨s.worker, s.phase.run?, s.epochs, s.stage⟩

def Advances (s t : Supervised) : Prop :=
  ∃ turns, play Career.take turns s.career = some t.career

variable {s t : Supervised} {act : Act}

private theorem advances_beside (worker : t.worker = s.worker) (epochs : t.epochs = s.epochs)
    (run : t.phase.run? = s.phase.run?) (beside : s.stage.Beside t.stage)
    (lock : s.phase.run?.isSome = true →
      t.stage.control.holder = s.stage.control.holder ∧
        t.stage.control.queue = s.stage.control.queue) : s.Advances t := by
  obtain ⟨turn, taken⟩ := s.career.take_beside beside lock
  refine ⟨[turn], ?_⟩
  rw [play_cons, taken, career, career, worker, epochs, run]
  rfl

private theorem advances_resting (worker : t.worker = s.worker) (epochs : t.epochs = s.epochs)
    (before : s.phase.run? = none) (after : t.phase.run? = none)
    (beside : s.stage.Beside t.stage) : s.Advances t := by
  refine advances_beside worker epochs (after.trans before.symm) beside ?_
  rw [before]
  exact fun running => nomatch running

private theorem advances_returned {run : Run} {action : Action} (phase : s.phase = .working run)
    (returned : run.result? = some action) :
    s.Advances { s with
      stage := s.stage.record (.epochEnded action)
      phase := .joining action } := by
  have ended : Career.take .ends s.career = some { s.career with run := none } := by
    simp [Career.take, career, phase, SupervisorPhase.run?, returned]
  obtain ⟨turn, taken⟩ := Career.take_beside { s.career with run := none }
    (s.stage.beside_record (e := .epochEnded action) rfl) (by rintro ⟨⟩)
  refine ⟨[.ends, turn], ?_⟩
  rw [play_cons, ended]
  simp only [Option.bind_some, play_cons, taken]
  rfl

private theorem advances_begun (guarded : s.Guarded) (phase : s.phase = .dialing) {broker : Broker}
    (answered : s.stage.broker.dial = (.ok (), broker)) :
    s.Advances { s with
      stage := { s.stage.unlock with broker := broker }.record .dialSucceeded }.beginEpoch := by
  have lock := guarded.lock
  rw [phase] at lock
  have dialed : s.stage.Beside ((({ s.stage.unlock with broker := broker }.record
      .dialSucceeded).log .connected).record .epochStarted) :=
    ((s.stage.beside_control _).trans (Stage.beside_dial (s := s.stage.unlock) answered)).trans
      (((Stage.beside_record _ rfl).trans (Stage.beside_log _ _)).trans (Stage.beside_record _ rfl))
  obtain ⟨turn, taken⟩ := s.career.take_beside dialed (by
    simp [career, phase, SupervisorPhase.run?])
  refine ⟨[turn, .begins], ?_⟩
  rw [play_cons, taken]
  simp only [Option.bind_some, play_cons, Career.take]
  rw [if_pos ⟨by simp [career, phase, SupervisorPhase.run?], rfl, lock.queue rfl⟩]
  rfl

private theorem beside_close (s : Supervised) (action : Action) :
    s.stage.closeConnection.2.Beside (s.close action).stage := by
  unfold close
  cases s.stage.closeConnection with
  | mk result stage =>
      dsimp only
      split
      · exact stage.beside_log _
      · cases result with
        | ok _ => exact stage.beside_log _
        | error e => exact (stage.beside_log _).trans (Stage.beside_log _ _)

private theorem counted_close (s : Supervised) (action : Action) :
    (s.close action).worker = s.worker ∧ (s.close action).epochs = s.epochs := by
  unfold close
  dsimp only
  split <;> exact ⟨rfl, rfl⟩

@[simp] private theorem run?_close (s : Supervised) (action : Action) :
    (s.close action).phase.run? = none := by
  unfold close
  dsimp only
  split <;> rfl

/-- The broker gives up its consumers; after that it is told of. -/
private theorem advances_closed {action : Action} (phase : s.phase = .closing action) :
    s.Advances (s.close action) := by
  let hung : Stage := { s.stage with
    broker.consumers :=
      s.stage.broker.consumers.map fun consumer => { consumer with attached := false } }
  have hangsUp : Career.take .hangUp s.career = some { s.career with stage := hung } := by
    simp [Career.take, career, phase, SupervisorPhase.run?, hung]
  have told : hung.Beside s.stage.closeConnection.2 :=
    ⟨rfl, rfl, rfl, rfl, rfl, Stage.tells_record { s.stage with broker := _ } rfl⟩
  obtain ⟨turn, taken⟩ := Career.take_beside { s.career with stage := hung }
    (told.trans (beside_close s action)) (by simp [career, phase, SupervisorPhase.run?])
  obtain ⟨worker, epochs⟩ := counted_close s action
  refine ⟨[.hangUp, turn], ?_⟩
  rw [play_cons, hangsUp, Option.bind_some, play_cons, taken, career, career, worker, epochs,
    run?_close, phase]
  rfl

private theorem advances_worked {run next : Run} {stage : Stage} {pick : Pick}
    (phase : s.phase = .working run) (stepped : run.step pick s.stage = some (next, stage)) :
    s.Advances { s with stage := stage, phase := .working next } := by
  refine ⟨[.worker pick], ?_⟩
  simp [Career.take, Career.goOn, career, phase, SupervisorPhase.run?, stepped]

private theorem advances_merged {run next : Run} {stage : Stage} (phase : s.phase = .working run)
    (stepped : run.mergeStep s.stage = some (next, stage)) :
    s.Advances { s with stage := stage, phase := .working next } := by
  refine ⟨[.merge], ?_⟩
  simp [Career.take, Career.goOn, career, phase, SupervisorPhase.run?, stepped]

private theorem advances_undergone (s : Supervised) (change : World) :
    s.Advances { s with stage := s.stage.undergo change } := by
  have control := s.stage.undergo_control change
  by_cases delivers : ∃ chosen item, change = .deliver chosen item
  · obtain ⟨chosen, item, rfl⟩ := delivers
    exact ⟨[.deliver chosen item], rfl⟩
  · have beside := s.stage.beside_undergo fun chosen item same => delivers ⟨chosen, item, same⟩
    refine advances_beside rfl rfl rfl beside fun _ => ?_
    exact ⟨congrArg ControlPath.holder control, congrArg ControlPath.queue control⟩

private theorem advances_called (call : Call s t) : s.Advances t := by
  cases call with
  | refuses | follows => exact advances_beside rfl rfl rfl (.refl _) fun _ => ⟨rfl, rfl⟩
  | comesLate => exact advances_beside rfl rfl rfl (s.stage.beside_log _) fun _ => ⟨rfl, rfl⟩
  | sends =>
      exact advances_beside rfl rfl rfl ((s.stage.beside_log _).trans (Stage.beside_put _ _))
        fun _ => ⟨rfl, rfl⟩
  | queues =>
      exact advances_beside rfl rfl rfl ((s.stage.beside_log _).trans (Stage.beside_control _ _))
        fun _ => ⟨rfl, rfl⟩

private theorem advances_perform (guarded : s.Guarded) (performed : perform act s = some t) :
    s.Advances t := by
  cases move_of_perform guarded performed with
  | begins phase | joins phase =>
      exact advances_resting rfl rfl (by rw [phase]; rfl) rfl (.refl _)
  | hearsReconnect seeking =>
      exact advances_resting rfl rfl (SupervisorPhase.run?_of_seeking seeking) rfl
        (s.stage.beside_hear _)
  | hearsShutdown seeking =>
      exact advances_resting rfl rfl (SupervisorPhase.run?_of_seeking seeking) rfl
        ((s.stage.beside_hear _).trans (Stage.beside_log _ _))
  | remembers phase =>
      exact advances_resting rfl rfl (by rw [phase]; rfl) rfl (s.stage.beside_log _)
  | dials phase =>
      exact advances_resting rfl rfl (by rw [phase]; rfl) rfl
        ((s.stage.beside_control _).trans (Stage.beside_record _ rfl))
  | fails phase empty refused =>
      exact advances_resting rfl rfl (by rw [phase]; rfl) rfl
        (((s.stage.beside_control _).trans (Stage.beside_dial (s := s.stage.await) refused)).trans
          (Stage.beside_log _ _))
  | connects phase empty answered => exact advances_begun guarded phase answered
  | retries phase | sleeps phase =>
      exact advances_resting rfl rfl (by rw [phase]; rfl) (by first | rfl | rw [phase]; rfl)
        (s.stage.beside_control _)
  | works phase unfinished =>
      exact advances_worked phase (step_of_works phase unfinished performed)
  | merges phase => exact advances_merged phase (step_of_merges phase performed)
  | returns phase returned => exact advances_returned phase returned
  | quits phase | redials phase =>
      rw [← close_of_perform phase performed]
      exact advances_closed phase
  | dismisses | finishes => exact advances_beside rfl rfl rfl (.refl _) fun _ => ⟨rfl, rfl⟩
  | reports =>
      exact advances_beside rfl rfl rfl ((s.stage.beside_log _).trans (Stage.beside_put _ _))
        fun _ => ⟨rfl, rfl⟩
  | concedes =>
      exact advances_beside rfl rfl rfl ((s.stage.beside_log _).trans (Stage.beside_log _ _))
        fun _ => ⟨rfl, rfl⟩
  | calls call => exact advances_called call
  | givesUp =>
      exact advances_beside rfl rfl rfl (s.stage.beside_control _) fun _ => ⟨rfl, rfl⟩
  | delivers =>
      exact advances_beside rfl rfl rfl ((s.stage.beside_control _).trans (Stage.beside_put _ _))
        fun _ => ⟨rfl, rfl⟩
  | world change => exact advances_undergone s change

private theorem advances_performAnew (guarded : s.Guarded) (performed : performAnew act s = some t) :
    s.Advances t := by
  rcases perform_of_performAnew performed with once | ⟨phase, rfl⟩
  · exact advances_perform guarded once
  · exact advances_resting rfl rfl (by rw [phase]; rfl) rfl (.refl _)

theorem career_play {acts : List Act} {worker : Worker} {retryDelay : Nat} {broker : Broker}
    {capacity : Nat} {suffix : Nat → String}
    (reached : play performAnew acts (fresh worker retryDelay broker capacity suffix) = some s) :
    s.Guarded ∧ ∃ turns,
      play Career.take turns (.start worker (.initial broker capacity suffix)) = some s.career := by
  refine play_preserves (P := fun s => s.Guarded ∧ ∃ turns,
    play Career.take turns (.start worker (.initial broker capacity suffix)) = some s.career)
    ?_ ⟨guarded_fresh worker retryDelay broker capacity suffix, [], rfl⟩ reached
  rintro act s t ⟨guarded, turns, played⟩ performed
  refine ⟨guarded.performAnew performed, ?_⟩
  obtain ⟨more, further⟩ := advances_performAnew guarded performed
  refine ⟨turns ++ more, ?_⟩
  rw [play_append, played]
  exact further

end Supervised

end ExchangeTap
