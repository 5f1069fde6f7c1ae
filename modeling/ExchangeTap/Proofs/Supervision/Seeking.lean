import ExchangeTap.Proofs.Supervision.Timing

/-! The supervisor dials at once, and again one delay after each dial that is refused. What is in
the slot when it begins was sent in the epoch before: it is taken before the first dial and does not
come again, so that nothing cuts a delay short. -/

namespace ExchangeTap

/-- The broker refuses its next dials with these errors, and answers the one after them. -/
def Broker.Refuses (b : Broker) (errors : List BrokerError) : Prop :=
  ∃ others, b.refusedDials = errors.map some ++ others ∧ ∀ e, others.head? ≠ some (some e)

namespace Broker

variable {b c : Broker} {e : BrokerError} {errors : List BrokerError}

theorem Refuses.congr (refuses : b.Refuses errors) (same : c.refusedDials = b.refusedDials) :
    c.Refuses errors := by
  rw [Refuses, same]
  exact refuses

private theorem Refuses.of_refused (refuses : b.Refuses errors) (refused : b.dial = (.error e, c)) :
    ∃ rest, errors = e :: rest ∧ c.Refuses rest := by
  obtain ⟨others, plan, answered⟩ := refuses
  unfold dial at refused
  cases errors with
  | nil =>
      split at refused
      · rename_i first rest found
        rw [plan] at found
        exact absurd (congrArg List.head? found) (answered first)
      · cases refused
  | cons first rest =>
      rw [plan] at refused
      cases refused
      exact ⟨rest, rfl, others, rfl, answered⟩

private theorem Refuses.of_answered (refuses : b.Refuses errors) (answered : b.dial = (.ok (), c)) :
    errors = [] := by
  obtain ⟨others, plan, _⟩ := refuses
  cases errors with
  | nil => rfl
  | cons first rest =>
      rw [dial, plan] at answered
      cases answered

end Broker

def World.replans : World → Bool
  | plan _ _ _ _ _ => true
  | _ => false

private theorem Stage.refusedDials_undergo (s : Stage) (change : World) (kept : change.replans = false) :
    (s.undergo change).broker.refusedDials = s.broker.refusedDials := by
  cases change with
  | plan => cases kept
  | feed message =>
      simp only [undergo]
      split
      · split <;> rfl
      · rfl
  | drop | deliver =>
      simp only [undergo, Broker.drop, Broker.deliver]
      split <;> rfl
  | _ => rfl

namespace Act

def isMain : Act → Bool
  | task _ .main => true
  | _ => false

def replans : Act → Bool
  | world change => change.replans
  | _ => false

end Act

def SupervisorPhase.isDialing : SupervisorPhase → Bool
  | dialing => true
  | _ => false

namespace Supervised

/-- What the journal tells of dials that were refused one after the other. -/
def refusals (retryDelay : Nat) (failed : List BrokerError) : Journal :=
  failed.reverse.flatMap fun e => [.logged (.dialFailed e retryDelay), .dialAttempted]

variable {s t u start : Supervised} {act : Act} {acts : List Act}

/-- When the dial after so many refusals is due. -/
def due (s : Supervised) (refused : Nat) : Nat :=
  s.stage.now + refused * s.retryDelay

/-- Where the supervisor stands after these refusals, and what time it is. -/
inductive Stands (s : Supervised) (failed : List BrokerError) (t : Supervised) : Prop where
  | draining (phase : t.phase = .draining) (now : t.stage.now = s.due failed.length)
      (stale : t.stage.control.slot.isSome = true → failed = [])
  | dialing (phase : t.phase = .dialing) (now : t.stage.now = s.due failed.length)
      (listens : t.stage.control.holder = some .supervisor)
  | sleeping (phase : t.phase = .retrying (s.due failed.length))
      (listens : t.stage.control.holder = some .supervisor)
      (early : t.stage.now ≤ s.due failed.length)

def lead (t : Supervised) : Nat :=
  match t.phase with
  | .draining => 1
  | .dialing => 2
  | _ => 0

private theorem lead_le (t : Supervised) : t.lead ≤ 2 := by
  unfold lead
  split <;> omega

def told (s : Supervised) (failed : List BrokerError) (heard : List Signal) (dialing : Bool) :
    Journal :=
  (if dialing then [.dialAttempted] else []) ++ refusals s.retryDelay failed ++
    heard.map (.signalTaken · .supervisor)

def dueTimes (s : Supervised) (dials : Nat) : List Nat :=
  (List.range dials).map s.due

/-- A redial that began at `s`, with what was refused and heard so far. -/
structure Seeking (s : Supervised) (acts : List Act) (failed : List BrokerError)
    (heard : List Signal) (t : Supervised) : Prop where
  stands : s.Stands failed t
  epochs : t.epochs = s.epochs
  balance : heard ++ t.stage.control.slot.toList = s.stage.control.slot.toList
  journal : t.stage.journal = s.told failed heard t.phase.isDialing ++ s.stage.journal
  dials : dialTimes acts s = s.dueTimes (failed.length + t.phase.isDialing.toNat)
  steps : acts.countP Act.isMain + 1 ≤ 3 * failed.length + t.lead + heard.length
  plan : ∀ errors, s.stage.broker.Refuses errors → acts.all (!·.replans) →
    ∃ rest, errors = failed ++ rest ∧ t.stage.broker.Refuses rest

variable {failed : List BrokerError} {heard : List Signal} {pick : Pick}

private theorem due_succ (s : Supervised) (refused : Nat) :
    s.due (refused + 1) = s.due refused + s.retryDelay := by
  rw [due, due, Nat.succ_mul, Nat.add_assoc]

private theorem dueTimes_succ (s : Supervised) (dials : Nat) :
    s.dueTimes (dials + 1) = s.dueTimes dials ++ [s.due dials] := by
  rw [dueTimes, dueTimes, List.range_succ, List.map_append, List.map_singleton]

private theorem refusals_concat (retryDelay : Nat) (failed : List BrokerError) (e : BrokerError) :
    refusals retryDelay (failed ++ [e]) =
      .logged (.dialFailed e retryDelay) :: .dialAttempted :: refusals retryDelay failed := by
  simp [refusals]

theorem Stands.isSeeking (stands : s.Stands failed t) :
    t.phase.isSeeking = true := by
  cases stands with
  | draining phase | dialing phase | sleeping phase => rw [phase]; rfl

theorem Stands.same (stands : s.Stands failed t) (phase : u.phase = t.phase)
    (control : u.stage.control = t.stage.control) (now : u.stage.now = t.stage.now) :
    s.Stands failed u := by
  cases stands with
  | draining stood time stale =>
      exact .draining (phase.trans stood) (now.trans time) (by rwa [control])
  | dialing stood time listens =>
      exact .dialing (phase.trans stood) (now.trans time) (by rwa [control])
  | sleeping stood listens early =>
      exact .sleeping (phase.trans stood) (by rwa [control]) (by rwa [now])

private theorem mainStep_of_retrying {until_ : Nat} (pick : Pick) (guarded : s.Guarded)
    (phase : s.phase = .retrying until_) (empty : s.stage.control.slot = none)
    (listens : s.stage.control.holder = some .supervisor) :
    s.mainStep pick =
      if until_ ≤ s.stage.now then some { s with stage := s.stage.unlock, phase := .draining }
      else none := by
  have lock := guarded.lock
  simp only [phase, SupervisorPhase.Guards] at lock
  have still : s.stage.await.control = s.stage.control := by
    rw [Stage.await, ← listens]
  simp only [mainStep, phase]
  rw [listen_of_empty lock empty guarded.senderAlive]
  split
  · rw [unlock_await lock]
  · simp [Stage.awaiting, still]

theorem Stands.asleep (stands : s.Stands failed t) (guarded : t.Guarded)
    (empty : t.phase.isListening = true → t.stage.control.slot = none)
    (stuck : t.Waits) :
    t.phase = .retrying (s.due failed.length) ∧ t.stage.control.holder = some .supervisor ∧
      t.stage.now < s.due failed.length := by
  have idle := Option.isNone_iff_eq_none.mp stuck.1
  have lock := guarded.lock
  cases stands with
  | draining phase =>
      rw [mainStep, phase] at idle
      cases idle
  | dialing phase =>
      simp only [phase, SupervisorPhase.Guards] at lock
      simp only [mainStep, phase] at idle
      rw [listen_of_empty lock (empty (by rw [phase]; rfl)) guarded.senderAlive] at idle
      cases idle
  | sleeping phase listens =>
      rw [mainStep_of_retrying .first guarded phase (empty (by rw [phase]; rfl)) listens] at idle
      split at idle
      · cases idle
      · rename_i asleep
        exact ⟨phase, listens, Nat.lt_of_not_le asleep⟩

theorem Stands.awake {until_ : Nat} (stands : s.Stands failed t) (guarded : t.Guarded)
    (phase : t.phase = .retrying until_) (empty : t.stage.control.slot = none)
    (performed : perform (.task pick .main) t = some { t with stage := t.stage.await }) : False := by
  cases stands with
  | draining other | dialing other => cases phase.symm.trans other
  | sleeping stood listens =>
      have woke := mainStep_of_retrying pick guarded stood empty listens
      have same := woke.symm.trans performed
      split at same
      · have draining := congrArg (Option.map (·.phase)) same
        simp [phase] at draining
      · cases same

theorem Stands.undergo {change : World} (stands : s.Stands failed t) (guarded : t.Guarded)
    (empty : t.phase.isListening = true → t.stage.control.slot = none)
    (punctual : t.Punctual (.world change)) :
    s.Stands failed { t with stage := t.stage.undergo change } := by
  have control := t.stage.undergo_control change
  cases change with
  | pass millis =>
      obtain ⟨stuck, early⟩ := punctual
      obtain ⟨phase, listens, _⟩ := stands.asleep guarded empty stuck
      exact .sleeping phase listens (early _ (by rw [deadline?, phase]; rfl))
  | feed message =>
      refine stands.same rfl control ?_
      simp only [Stage.undergo]
      split
      · split <;> rfl
      · rfl
  | _ => exact stands.same rfl control rfl

namespace Seeking

theorem still (seeking : s.Seeking acts failed heard t)
    (reached : play performAnew acts s = some t) (performed : performAnew act t = some u)
    (stands : s.Stands failed u) (phase : u.phase = t.phase) (epochs : u.epochs = t.epochs)
    (slot : u.stage.control.slot = t.stage.control.slot)
    (journal : u.stage.journal = t.stage.journal) (aside : act.isMain = false)
    (dials : act.replans = false →
      u.stage.broker.refusedDials = t.stage.broker.refusedDials) :
    s.Seeking (acts ++ [act]) failed heard u := by
  refine ⟨stands, epochs.trans seeking.epochs, ?_, ?_, ?_, ?_, ?_⟩
  · rw [slot]
    exact seeking.balance
  · rw [journal, phase]
    exact seeking.journal
  · rw [dialTimes_of_told [] reached performed journal, phase]
    simpa [Journal.dialsAttempted] using seeking.dials
  · have steps := seeking.steps
    simp only [lead, phase, List.countP_append, List.countP_singleton, aside] at steps ⊢
    exact steps
  · intro errors refuses kept
    rw [List.all_append, Bool.and_eq_true] at kept
    obtain ⟨rest, split, later⟩ := seeking.plan errors refuses kept.1
    exact ⟨rest, split, later.congr (dials (by simpa using kept.2))⟩

theorem empty (configured : Configured start t) (unclosed : t.shutdownRequested = false)
    (listening : t.phase.isListening = true) : t.stage.control.slot = none := by
  cases slot : t.stage.control.slot with
  | none => rfl
  | some signal =>
      have asked := configured.reserving.listening listening (by rw [slot]; rfl)
      cases unclosed.symm.trans asked

theorem further {more : List BrokerError} {signals : List Signal}
    (seeking : s.Seeking acts failed heard t) (reached : play performAnew acts s = some t)
    (performed : performAnew (.task pick .main) t = some u)
    (stands : s.Stands (failed ++ more) u) (epochs : u.epochs = t.epochs)
    (balance : signals ++ u.stage.control.slot.toList = t.stage.control.slot.toList)
    (events : Journal) (journal : u.stage.journal = events ++ t.stage.journal)
    (told : s.told (failed ++ more) (heard ++ signals) u.phase.isDialing =
      events ++ s.told failed heard t.phase.isDialing)
    (dials : s.dueTimes ((failed ++ more).length + u.phase.isDialing.toNat) =
      s.dueTimes (failed.length + t.phase.isDialing.toNat) ++
        .replicate (Journal.dialsAttempted events) u.stage.now)
    (steps : t.lead + 1 ≤ 3 * more.length + u.lead + signals.length)
    (plan : ∀ errors, t.stage.broker.Refuses errors →
      ∃ rest, errors = more ++ rest ∧ u.stage.broker.Refuses rest) :
    s.Seeking (acts ++ [.task pick .main]) (failed ++ more) (heard ++ signals) u := by
  refine ⟨stands, epochs.trans seeking.epochs, ?_, ?_, ?_, ?_, ?_⟩
  · rw [List.append_assoc, balance]
    exact seeking.balance
  · rw [journal, seeking.journal, told, List.append_assoc]
  · rw [dialTimes_of_told events reached performed journal, seeking.dials, dials]
  · have before := seeking.steps
    rw [List.countP_append, List.countP_singleton, Act.isMain, if_pos rfl]
    simp only [List.length_append]
    omega
  · intro errors refuses kept
    rw [List.all_append, Bool.and_eq_true] at kept
    obtain ⟨rest, rfl, later⟩ := seeking.plan errors refuses kept.1
    obtain ⟨rest, rfl, last⟩ := plan rest later
    exact ⟨rest, (List.append_assoc _ _ _).symm, last⟩

private theorem unplanned (broker : u.stage.broker = t.stage.broker) (errors : List BrokerError)
    (refuses : t.stage.broker.Refuses errors) :
    ∃ rest, errors = [] ++ rest ∧ u.stage.broker.Refuses rest :=
  ⟨errors, rfl, by rwa [broker]⟩

theorem hear (seeking : s.Seeking acts failed heard t)
    (empty : t.phase.isListening = true → t.stage.control.slot = none)
    (pending : t.stage.control.slot = some .reconnect)
    (reached : play performAnew acts s = some t)
    (performed : performAnew (.task pick .main) t =
      some { t with stage := t.stage.hear .reconnect, phase := .draining }) :
    s.Seeking (acts ++ [.task pick .main]) (failed ++ []) (heard ++ [.reconnect])
      { t with stage := t.stage.hear .reconnect, phase := .draining } := by
  cases seeking.stands with
  | dialing phase | sleeping phase => simp [empty (by rw [phase]; rfl)] at pending
  | draining phase now stale =>
      -- one signal fits into the slot, so nothing was heard or refused before
      have unheard : heard = [] := by
        have whole := congrArg List.length seeking.balance
        rw [pending, List.length_append] at whole
        have one := Option.length_toList_le (o := s.stage.control.slot)
        exact List.length_eq_zero_iff.mp (by simp at whole; omega)
      have unrefused := stale (by rw [pending]; rfl)
      refine seeking.further reached performed ?_ rfl ?_ [_] rfl ?_ ?_ ?_ (unplanned rfl)
      · exact .draining rfl (by rwa [List.append_nil]) fun full => nomatch full
      · rw [pending]
        rfl
      · simp [told, phase, SupervisorPhase.isDialing, unheard, unrefused, refusals]
      · simp [phase, SupervisorPhase.isDialing, Journal.dialsAttempted, Event.attemptsDial]
      · simp [lead, phase]

theorem dial (seeking : s.Seeking acts failed heard t) (phase : t.phase = .draining)
    (reached : play performAnew acts s = some t)
    (performed : performAnew (.task pick .main) t =
      some { t with stage := t.stage.await.beginDial, phase := .dialing }) :
    s.Seeking (acts ++ [.task pick .main]) (failed ++ []) (heard ++ [])
      { t with stage := t.stage.await.beginDial, phase := .dialing } := by
  cases seeking.stands with
  | dialing other | sleeping other => cases phase.symm.trans other
  | draining _ now =>
      refine seeking.further reached performed ?_ rfl ?_ [_] rfl ?_ ?_ ?_ (unplanned rfl)
      · exact .dialing rfl (by rwa [List.append_nil]) rfl
      · rfl
      · simp [told, phase, SupervisorPhase.isDialing]
      · rw [List.append_nil, phase]
        exact (dueTimes_succ s failed.length).trans (by rw [← now]; rfl)
      · simp [lead, phase]

theorem fail {e : BrokerError} {broker : Broker} (seeking : s.Seeking acts failed heard t)
    (delay : t.retryDelay = s.retryDelay) (phase : t.phase = .dialing)
    (refused : t.stage.broker.dial = (.error e, broker)) (reached : play performAnew acts s = some t)
    (performed : performAnew (.task pick .main) t = some { t with
        stage := { t.stage.await with broker := broker }.log (.dialFailed e t.retryDelay)
        phase := .retrying (t.stage.now + t.retryDelay) }) :
    s.Seeking (acts ++ [.task pick .main]) (failed ++ [e]) (heard ++ []) { t with
        stage := { t.stage.await with broker := broker }.log (.dialFailed e t.retryDelay)
        phase := .retrying (t.stage.now + t.retryDelay) } := by
  cases seeking.stands with
  | draining other | sleeping other => cases phase.symm.trans other
  | dialing _ now =>
      have wakes : t.stage.now + t.retryDelay = s.due (failed ++ [e]).length := by
        rw [List.length_append, now, delay]
        exact (due_succ s failed.length).symm
      refine seeking.further reached performed ?_ rfl ?_ [_] rfl ?_ ?_ ?_ ?_
      · refine .sleeping (congrArg _ wakes) rfl ?_
        rw [← wakes]
        exact Nat.le_add_right _ _
      · rfl
      · simp [told, phase, SupervisorPhase.isDialing, refusals_concat, delay]
      · simp [phase, SupervisorPhase.isDialing, Journal.dialsAttempted, Event.attemptsDial]
      · simp [lead, phase]
      · intro errors refuses
        exact refuses.of_refused refused

private theorem retry {until_ : Nat} (seeking : s.Seeking acts failed heard t) (guarded : t.Guarded)
    (phase : t.phase = .retrying until_) (slot : t.stage.control.slot = none)
    (reached : play performAnew acts s = some t)
    (performed : performAnew (.task pick .main) t =
      some { t with stage := t.stage.unlock, phase := .draining }) :
    s.Seeking (acts ++ [.task pick .main]) (failed ++ []) (heard ++ [])
      { t with stage := t.stage.unlock, phase := .draining } := by
  cases seeking.stands with
  | draining other | dialing other => cases phase.symm.trans other
  | sleeping stood listens early =>
      have now : t.stage.now = s.due failed.length := by
        refine Nat.le_antisymm early (Nat.le_of_not_lt fun asleep => ?_)
        have woke := mainStep_of_retrying pick guarded stood slot listens
        rw [if_neg (Nat.not_le_of_lt asleep)] at woke
        cases woke.symm.trans performed
      refine seeking.further reached performed ?_ rfl ?_ [] rfl ?_ ?_ ?_ (unplanned rfl)
      · exact .draining rfl (by rwa [List.append_nil]) fun full => by simp [Stage.unlock, slot] at full
      · rfl
      · simp [told, phase, SupervisorPhase.isDialing]
      · simp [phase, SupervisorPhase.isDialing, Journal.dialsAttempted]
      · simp [lead, phase]

theorem perform (configured : Configured start t) (delay : t.retryDelay = s.retryDelay)
    (seeking : s.Seeking acts failed heard t) (reached : play performAnew acts s = some t)
    (performed : performAnew act t = some u) (punctual : t.Punctual act)
    (unclosed : u.shutdownRequested = false) (same : u.epochs = t.epochs) :
    ∃ failed heard, s.Seeking (acts ++ [act]) failed heard u := by
  have once : Supervised.perform act t = some u := by
    rcases perform_of_performAnew performed with once | ⟨phase, _⟩
    · exact once
    · have found := seeking.stands.isSeeking
      rw [phase] at found
      cases found
  have move := move_of_perform configured.guarded once
  have before := move.unclosed unclosed
  have unwatched := configured.reserving.unwatched (isWatched_of_isSeeking seeking.stands.isSeeking)
  have seeks := seeking.stands.isSeeking
  have empty := Seeking.empty configured before
  cases move with
  | connects => exact absurd same (Nat.succ_ne_self _)
  | begins phase | works phase | merges phase | returns phase | joins phase | quits phase
  | redials phase =>
      rw [phase] at seeks
      cases seeks
  | hearsShutdown _ pending => cases before.symm.trans (configured.asked pending)
  | remembers _ _ requested => cases before.symm.trans requested
  | dismisses watching | reports watching | concedes watching =>
      cases unwatched.symm.trans watching
  | givesUp waits | delivers waits =>
      cases before.symm.trans (configured.reserving.sending (List.mem_of_getElem? waits))
  | hearsReconnect _ pending =>
      exact ⟨_, _, seeking.hear empty pending reached performed⟩
  | dials phase => exact ⟨_, _, seeking.dial phase reached performed⟩
  | fails phase _ refused => exact ⟨_, _, seeking.fail delay phase refused reached performed⟩
  | retries phase slot =>
      exact ⟨_, _, seeking.retry configured.guarded phase slot reached performed⟩
  | sleeps phase slot => cases seeking.stands.awake configured.guarded phase slot once
  | finishes waits =>
      exact ⟨_, _, seeking.still reached performed (seeking.stands.same rfl rfl rfl) rfl rfl rfl rfl
        rfl fun _ => rfl⟩
  | calls call =>
      cases call with
      | refuses =>
          exact ⟨_, _, seeking.still reached performed (seeking.stands.same rfl rfl rfl) rfl rfl rfl
            rfl rfl fun _ => rfl⟩
      | follows _ requested => cases before.symm.trans requested
      | comesLate | sends | queues => cases unclosed
  | world change =>
      refine ⟨_, _, seeking.still reached performed ?_ rfl rfl ?_ ?_ rfl fun kept => ?_⟩
      · exact seeking.stands.undergo configured.guarded empty punctual
      · rw [Stage.undergo_control]
      · exact t.stage.undergo_journal change
      · exact t.stage.refusedDials_undergo change kept

theorem steps_lt (seeking : s.Seeking acts failed heard t) :
    acts.countP Act.isMain < 3 * (failed.length + 1) := by
  have steps := seeking.steps
  have one := congrArg List.length seeking.balance
  have fits := Option.length_toList_le (o := s.stage.control.slot)
  have ahead := t.lead_le
  rw [List.length_append] at one
  omega

theorem begin (phase : s.phase = .draining) : s.Seeking [] [] [] s := by
  refine ⟨.draining phase ?_ fun _ => rfl, rfl, rfl, ?_, ?_, ?_, ?_⟩
  · simp [due]
  · simp [told, phase, SupervisorPhase.isDialing, refusals]
  · simp [dialTimes, dueTimes, phase, SupervisorPhase.isDialing]
  · simp [lead, phase]
  · exact fun errors refuses _ => ⟨errors, rfl, refuses⟩

theorem connect (configured : Configured start t)
    (seeking : s.Seeking acts failed heard t) (reached : play performAnew acts s = some t)
    (performed : performAnew act t = some u) (begun : u.epochs ≠ t.epochs) :
    act.isMain = true ∧ u.epochs = s.epochs + 1 ∧ u.phase = .working (t.worker.start s.epochs) ∧
    u.stage.now = s.due failed.length ∧
    dialTimes (acts ++ [act]) s = s.dueTimes (failed.length + 1) ∧
    u.stage.journal = .epochStarted :: .logged .connected :: .dialSucceeded :: .dialAttempted ::
      refusals s.retryDelay failed ++
      s.stage.control.slot.toList.map (.signalTaken · .supervisor) ++ s.stage.journal ∧
    ∀ errors, s.stage.broker.Refuses errors → acts.all (!·.replans) → failed = errors := by
  have move : Move t act u := by
    rcases perform_of_performAnew performed with once | ⟨_, rfl⟩
    · exact move_of_perform configured.guarded once
    · exact absurd rfl begun
  cases move with
  | connects phase slot answered =>
      cases seeking.stands with
      | draining other | sleeping other => cases phase.symm.trans other
      | dialing _ now =>
          have whole : heard = s.stage.control.slot.toList := by
            rw [← seeking.balance, slot, Option.toList_none, List.append_nil]
          refine ⟨rfl, congrArg (· + 1) seeking.epochs, ?_, now, ?_, ?_, ?_⟩
          · rw [← seeking.epochs]
            rfl
          · rw [dialTimes_of_told [_, _, _] reached performed rfl, seeking.dials, phase]
            simp [SupervisorPhase.isDialing, Journal.dialsAttempted, Event.attemptsDial]
          · rw [← whole]
            have journal := seeking.journal
            simp only [told, phase, SupervisorPhase.isDialing, if_true] at journal
            simp [beginEpoch, Stage.unlock, journal]
          · intro errors refuses kept
            obtain ⟨rest, rfl, later⟩ := seeking.plan errors refuses kept
            rw [later.of_answered answered, List.append_nil]
  | calls call => exact absurd call.counted.2 begun
  | _ => exact absurd rfl begun

end Seeking

end Supervised

end ExchangeTap
