import ExchangeTap.Proofs.Supervision.Sound

namespace ExchangeTap

namespace Event

def succeedsDial : Event → Bool
  | dialSucceeded => true
  | _ => false

def endsEpoch : Event → Bool
  | epochEnded _ => true
  | _ => false

def closesConnection : Event → Bool
  | connectionClosed _ => true
  | _ => false

def isCounted : Event → Bool
  | dialSucceeded | epochStarted | epochEnded _ | connectionClosed _ => true
  | _ => false

private theorem isCounted_of_byWorker {e : Event} (worked : e.byWorker = true) : e.isCounted = false := by
  cases e <;> first | rfl | cases worked

end Event

structure Account where
  dialed : Nat
  begun : Nat
  ended : Nat
  closed : Nat
  deriving DecidableEq

namespace Account

def note (a : Account) : Event → Account
  | .dialSucceeded => { a with dialed := a.dialed + 1 }
  | .epochStarted => { a with begun := a.begun + 1 }
  | .epochEnded _ => { a with ended := a.ended + 1 }
  | .connectionClosed _ => { a with closed := a.closed + 1 }
  | _ => a

private theorem note_of_uncounted {e : Event} (a : Account) (uncounted : e.isCounted = false) :
    a.note e = a := by
  cases e <;> first | rfl | cases uncounted

end Account

namespace Journal

def account (journal : Journal) : Account :=
  ⟨journal.countP Event.succeedsDial, epochsStarted journal, journal.countP Event.endsEpoch,
    journal.countP Event.closesConnection⟩

variable {events journal : Journal}

@[simp] private theorem account_cons (e : Event) (journal : Journal) :
    account (e :: journal) = (account journal).note e := by
  cases e <;> simp [account, Account.note, epochsStarted, List.countP_cons, Event.succeedsDial,
    Event.startsEpoch, Event.endsEpoch, Event.closesConnection]

private theorem account_append_of_uncounted (uncounted : ∀ e ∈ events, e.isCounted = false) :
    account (events ++ journal) = account journal := by
  induction events with
  | nil => rfl
  | cons e rest ih =>
      rw [List.cons_append, account_cons,
        ih fun e member => uncounted e (List.mem_cons_of_mem _ member)]
      exact Account.note_of_uncounted _ (uncounted e List.mem_cons_self)

end Journal

namespace Stage

def account (s : Stage) : Account :=
  Journal.account s.journal

@[simp] private theorem account_record (s : Stage) (e : Event) :
    (s.record e).account = s.account.note e :=
  Journal.account_cons e s.journal

variable {s t : Stage}

theorem Tells.account (inner : s.Tells (·.isCounted = false) t) : t.account = s.account := by
  obtain ⟨events, journal, told⟩ := inner
  rw [Stage.account, journal, Journal.account_append_of_uncounted told]
  rfl

theorem Worked.account (worked : s.Worked t) : t.account = s.account :=
  (worked.tells.mono fun _ => Event.isCounted_of_byWorker).account

end Stage

namespace SupervisorPhase

def isWorking : SupervisorPhase → Bool
  | working _ => true
  | _ => false

theorem isWorking_of_detached {phase : SupervisorPhase} (detached : phase.isConnected = false) :
    phase.isWorking = false := by
  cases phase <;> first | rfl | cases detached

theorem isEnded_of_attached {phase : SupervisorPhase} (attached : phase.isConnected = true) :
    phase.isEnded = false := by
  cases phase <;> first | rfl | cases attached

end SupervisorPhase

namespace Supervised

/-- There is a connection from a dial until it is closed, and an epoch begins with each. -/
structure Accounted (s : Supervised) : Prop where
  connected : s.connected = s.phase.isConnected
  begun : s.stage.account.begun = s.stage.account.dialed
  closed : s.stage.account.dialed =
    s.stage.account.closed + if s.phase.isConnected then 1 else 0
  ended : s.stage.account.begun =
    s.stage.account.ended + if s.phase.isWorking then 1 else 0

variable {s t : Supervised}

theorem accounted_fresh (worker : Worker) (retryDelay : Nat) (broker : Broker) (capacity : Nat)
    (suffix : Nat → String) : (fresh worker retryDelay broker capacity suffix).Accounted :=
  ⟨rfl, rfl, rfl, rfl⟩

theorem Accounted.same (accounted : s.Accounted) (connected : t.connected = s.connected)
    (attached : t.phase.isConnected = s.phase.isConnected)
    (working : t.phase.isWorking = s.phase.isWorking)
    (same : t.stage.account = s.stage.account) : t.Accounted := by
  refine ⟨?_, ?_, ?_, ?_⟩
  · rw [connected, attached]
    exact accounted.connected
  · rw [same]
    exact accounted.begun
  · rw [same, attached]
    exact accounted.closed
  · rw [same, working]
    exact accounted.ended

theorem Accounted.stay (accounted : s.Accounted) (connected : t.connected = s.connected)
    (phase : t.phase = s.phase) (inner : s.stage.Tells (·.isCounted = false) t.stage) :
    t.Accounted :=
  accounted.same connected (by rw [phase]) (by rw [phase]) inner.account

theorem Accounted.seek (accounted : s.Accounted) (seeking : s.phase.isSeeking = true)
    (connected : t.connected = s.connected) (attached : t.phase.isConnected = false)
    (working : t.phase.isWorking = false)
    (inner : s.stage.Tells (·.isCounted = false) t.stage) : t.Accounted := by
  have detached := isConnected_of_isSeeking seeking
  have resting := SupervisorPhase.isWorking_of_detached detached
  exact accounted.same connected (attached.trans detached.symm) (working.trans resting.symm)
    inner.account

theorem tells_close {P : Event → Prop} (logged : ∀ entry, P (.logged entry)) (s : Supervised)
    (action : Action) : s.stage.closeConnection.2.Tells P (s.close action).stage := by
  unfold close
  cases s.stage.closeConnection with
  | mk result stage =>
      dsimp only
      split
      · exact Stage.tells_log stage (logged _)
      · cases result with
        | ok _ => exact Stage.tells_log stage (logged _)
        | error e => exact .trans (Stage.tells_log stage (logged _)) (Stage.tells_log _ (logged _))

theorem stage_close (s : Supervised) (action : Action) :
    ∃ broker journal, (s.close action).stage = { s.stage with broker := broker, journal := journal } := by
  unfold close
  cases closed : s.stage.closeConnection with
  | mk result stage =>
      cases closed
      dsimp only
      split
      · exact ⟨_, _, rfl⟩
      · split <;> exact ⟨_, _, rfl⟩

theorem close_of_perform {pick : Pick} {action : Action} (phase : s.phase = .closing action)
    (performed : perform (.task pick .main) s = some t) : s.close action = t := by
  simpa [Supervised.perform, step, mainStep, phase] using performed

theorem detached_close (s : Supervised) (action : Action) :
    (s.close action).connected = false ∧ (s.close action).phase.isConnected = false ∧
      (s.close action).phase.isWorking = false := by
  unfold close
  dsimp only
  split <;> exact ⟨rfl, rfl, rfl⟩

theorem Accounted.close {action : Action} (accounted : s.Accounted)
    (phase : s.phase = .closing action) : (s.close action).Accounted := by
  obtain ⟨connected, attached, working⟩ := detached_close s action
  have counted : (s.close action).stage.account =
      s.stage.account.note (.connectionClosed s.stage.broker.close.1) :=
    (tells_close (fun _ => rfl) s action).account.trans (Stage.account_record { s.stage with broker := _ } _)
  have closed := accounted.closed
  have ended := accounted.ended
  rw [phase] at closed ended
  refine ⟨connected.trans attached.symm, ?_, ?_, ?_⟩
  · rw [counted]
    exact accounted.begun
  · rw [counted, attached]
    exact closed
  · rw [counted, working]
    exact ended

private theorem account_beginEpoch (s : Supervised) :
    s.beginEpoch.stage.account = s.stage.account.note .epochStarted := by
  have silent : s.stage.Tells (·.isCounted = false) (s.stage.log .connected) :=
    Stage.tells_log s.stage rfl
  rw [← silent.account]
  exact Stage.account_record (s.stage.log .connected) .epochStarted

theorem Accounted.connect (accounted : s.Accounted) (seeking : s.phase.isSeeking = true)
    (stage : Stage) (told : stage.journal = s.stage.journal) :
    (beginEpoch { s with stage := stage.record .dialSucceeded }).Accounted := by
  have counted : (beginEpoch { s with stage := stage.record .dialSucceeded }).stage.account =
      (s.stage.account.note .dialSucceeded).note .epochStarted := by
    rw [account_beginEpoch, Stage.account_record, Stage.account, told]
    rfl
  have begun := accounted.begun
  have closed := accounted.closed
  have ended := accounted.ended
  rw [isConnected_of_isSeeking seeking] at closed
  rw [SupervisorPhase.isWorking_of_detached (isConnected_of_isSeeking seeking)] at ended
  refine ⟨rfl, ?_, ?_, ?_⟩
  · rw [counted]
    exact congrArg (· + 1) begun
  · rw [counted]
    exact congrArg (· + 1) closed
  · rw [counted]
    exact congrArg (· + 1) ended

theorem Accounted.return {run : Run} (accounted : s.Accounted) (phase : s.phase = .working run)
    (action : Action) :
    Accounted { s with
      stage := s.stage.record (.epochEnded action)
      phase := .joining action } := by
  have connected := accounted.connected
  have closed := accounted.closed
  have ended := accounted.ended
  rw [phase] at connected closed ended
  refine ⟨connected, ?_, ?_, ?_⟩
  · rw [Stage.account_record]
    exact accounted.begun
  · rw [Stage.account_record]
    exact closed
  · rw [Stage.account_record]
    exact ended

theorem Accounted.call (accounted : s.Accounted) (call : Call s t) : t.Accounted := by
  cases call with
  | refuses | follows => exact accounted.stay rfl rfl (.refl _)
  | comesLate | queues => exact accounted.stay rfl rfl (Stage.tells_log _ rfl)
  | sends => exact accounted.stay rfl rfl (.trans (Stage.tells_log _ rfl) (Stage.tells_put _ rfl))

theorem Accounted.perform {act : Act} (guarded : s.Guarded) (accounted : s.Accounted)
    (performed : perform act s = some t) : t.Accounted := by
  cases move_of_perform guarded performed with
  | begins phase =>
      exact accounted.same rfl (by rw [phase]; rfl) (by rw [phase]; rfl) rfl
  | hearsReconnect seeking => exact accounted.seek seeking rfl rfl rfl (Stage.tells_hear _ rfl)
  | hearsShutdown seeking =>
      exact accounted.seek seeking rfl rfl rfl
        (.trans (Stage.tells_hear _ rfl) (Stage.tells_log _ rfl))
  | remembers phase =>
      exact accounted.seek (by rw [phase]; rfl) rfl rfl rfl (Stage.tells_log _ rfl)
  | dials phase => exact accounted.seek (by rw [phase]; rfl) rfl rfl rfl (Stage.tells_record _ rfl)
  | fails phase =>
      exact accounted.seek (by rw [phase]; rfl) rfl rfl rfl
        (Stage.tells_log { s.stage with broker := _ } rfl)
  | retries phase => exact accounted.seek (by rw [phase]; rfl) rfl rfl rfl (.refl _)
  | sleeps => exact accounted.stay rfl rfl (.refl _)
  | connects phase =>
      exact accounted.connect (by rw [phase]; rfl) { s.stage.unlock with broker := _ } rfl
  | works phase _ worked | merges phase _ worked =>
      exact accounted.same rfl (by rw [phase]; rfl) (by rw [phase]; rfl) worked.account
  | returns phase =>
      exact accounted.return phase _
  | joins phase =>
      exact accounted.same rfl (by rw [phase]; rfl) (by rw [phase]; rfl) rfl
  | quits phase | redials phase =>
      rw [← close_of_perform phase performed]
      exact accounted.close phase
  | dismisses => exact accounted.stay rfl rfl (.refl _)
  | reports =>
      exact accounted.stay rfl rfl (.trans (Stage.tells_log _ rfl) (Stage.tells_put _ rfl))
  | concedes =>
      exact accounted.stay rfl rfl (.trans (Stage.tells_log _ rfl) (Stage.tells_log _ rfl))
  | calls call => exact accounted.call call
  | givesUp | finishes => exact accounted.stay rfl rfl (.refl _)
  | delivers => exact accounted.stay rfl rfl (Stage.tells_put s.stage rfl)
  | world change =>
      exact accounted.stay rfl rfl (Stage.tells_of_journal (s.stage.undergo_journal change))

/-- A supervisor that has ended may be connected again. -/
def performAnew : Act → Supervised → Option Supervised
  | .connect, s => if s.isRunning then none else some s.connect.2
  | act, s => perform act s

theorem perform_of_performAnew {act : Act} (performed : performAnew act s = some t) :
    perform act s = some t ∨ (s.phase = .ended ∧ t = { s with phase := .draining }) := by
  cases act with
  | connect =>
      simp only [performAnew, connect] at performed
      cases phase : s.phase with
      | idle =>
          refine .inl ?_
          simpa [perform, connect, isRunning, phase] using performed
      | ended =>
          refine .inr ⟨rfl, ?_⟩
          simpa [isRunning, phase, eq_comm] using performed
      | _ => simp [isRunning, phase] at performed
  | _ => exact .inl performed

theorem Guarded.performAnew {act : Act} (guarded : s.Guarded)
    (performed : performAnew act s = some t) : t.Guarded := by
  rcases perform_of_performAnew performed with once | ⟨phase, rfl⟩
  · exact guarded.move (move_of_perform guarded once)
  · have lock := guarded.lock
    rw [phase] at lock
    exact ⟨lock, guarded.senderAlive⟩

private theorem kept_of_performAnew {act : Act} (kept : s.Guarded ∧ s.Accounted)
    (performed : Supervised.performAnew act s = some t) : t.Guarded ∧ t.Accounted := by
  obtain ⟨guarded, accounted⟩ := kept
  refine ⟨guarded.performAnew performed, ?_⟩
  rcases perform_of_performAnew performed with once | ⟨phase, rfl⟩
  · exact accounted.perform guarded once
  · exact accounted.same rfl (by rw [phase]; rfl) (by rw [phase]; rfl) rfl

/-- At any moment of a run no connection was closed under a running worker, there is at most one
connection, with at most one worker, and the supervisor knows whether there is one. Once it has
ended nothing is left over. -/
theorem accounts_balance {worker : Worker} {retryDelay : Nat} {broker : Broker} {capacity : Nat}
    {suffix : Nat → String} {acts : List Act}
    (reached : play performAnew acts (fresh worker retryDelay broker capacity suffix) = some s) :
    s.stage.account.closed ≤ s.stage.account.ended ∧
    s.stage.account.ended ≤ s.stage.account.begun ∧
    s.stage.account.begun = s.stage.account.dialed ∧
    s.stage.account.dialed ≤ s.stage.account.closed + 1 ∧
    (s.connected = true ↔ s.stage.account.dialed = s.stage.account.closed + 1) ∧
    (s.phase.isEnded = true →
      s.stage.account.closed = s.stage.account.ended ∧
      s.stage.account.ended = s.stage.account.begun) := by
  obtain ⟨_, accounted⟩ := play_preserves kept_of_performAnew
    ⟨guarded_fresh worker retryDelay broker capacity suffix,
      accounted_fresh worker retryDelay broker capacity suffix⟩ reached
  obtain ⟨connected, begun, closed, ended⟩ := accounted
  rw [connected]
  cases attached : s.phase.isConnected with
  | true =>
      rw [attached, if_pos rfl] at closed
      rw [SupervisorPhase.isEnded_of_attached attached]
      have atMost : s.stage.account.begun ≤ s.stage.account.ended + 1 := by
        rw [ended]
        split <;> omega
      exact ⟨by omega, by omega, begun, by omega, by simp [closed], fun same => nomatch same⟩
  | false =>
      rw [attached, if_neg Bool.false_ne_true, Nat.add_zero] at closed
      rw [SupervisorPhase.isWorking_of_detached attached, if_neg Bool.false_ne_true,
        Nat.add_zero] at ended
      exact ⟨by omega, by omega, begun, by omega, by simp [closed], fun _ => ⟨by omega, by omega⟩⟩

/-- The first dial is refused, and the first connection is lost: the second epoch goes on. -/
theorem accounts_balance_in_second_epoch :
    let broker := { Broker.initial with refusedDials := [some Broker.connectionRefused] }
    let start := fresh .publish 0 broker 1 fun _ => ""
    let main := Act.task .first .main
    let acts := [.connect] ++ .replicate 5 main ++ [.world .drop, .task .first .watcher] ++
      .replicate 8 main
    ∃ s, play performAnew acts start = some s ∧ s.stage.account = ⟨2, 2, 1, 1⟩ ∧
      s.connected = true := by
  intro broker start main acts
  have ran : (play performAnew acts start).map (·.stage.account) = some ⟨2, 2, 1, 1⟩ := by
    decide +kernel
  obtain ⟨s, reached, account⟩ := Option.map_eq_some_iff.mp ran
  obtain ⟨_, _, _, _, connected, _⟩ := accounts_balance reached
  exact ⟨s, reached, account, connected.mpr (by rw [account])⟩

end Supervised

end ExchangeTap
