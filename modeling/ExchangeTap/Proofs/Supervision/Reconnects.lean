import ExchangeTap.Proofs.Supervision.Epochs

namespace ExchangeTap

private theorem Broker.loss_of_refused_dial {e : BrokerError} {b c : Broker}
    (refused : b.dial = (.error e, c)) : c.loss = b.loss := by
  unfold Broker.dial at refused
  split at refused <;> cases refused
  rfl

private theorem Broker.loss_of_answered_dial {b c : Broker} (answered : b.dial = (.ok (), c)) :
    c.loss = none := by
  unfold Broker.dial at answered
  split at answered <;> cases answered
  rfl

private theorem Stage.loss_undergo (s : Stage) (change : World) :
    (s.undergo change).broker.loss = s.broker.loss ∨
      change = .drop ∧ s.broker.unbroken = true := by
  cases change with
  | drop =>
      cases unbroken : s.broker.unbroken with
      | false => exact .inl (by simp [undergo, Broker.drop, unbroken])
      | true => exact .inr ⟨rfl, rfl⟩
  | feed message =>
      refine .inl ?_
      simp only [undergo]
      split
      · split <;> rfl
      · rfl
  | deliver chosen item =>
      refine .inl ?_
      simp only [undergo, Broker.deliver]
      split <;> rfl
  | _ => exact .inl rfl

namespace Supervised

variable {s t start : Supervised} {e : BrokerError}

private theorem loss_of_move {act : Act} (move : Move s act t) (watching : t.watching = true)
    (lost : t.stage.broker.loss = some e) :
    s.watching = true ∧ t.epochs = s.epochs ∧
      (s.stage.broker.loss = some e ∨ act = .world .drop ∧ s.stage.broker.unbroken = true) := by
  cases move with
  | connects phase empty answered => cases (Broker.loss_of_answered_dial answered).symm.trans lost
  | dismisses | reports | concedes => cases watching
  | fails phase empty refused =>
      exact ⟨watching, rfl, .inl ((Broker.loss_of_refused_dial refused).symm.trans lost)⟩
  | works phase _ worked | merges phase _ worked =>
      exact ⟨watching, rfl, .inl (worked.loss.symm.trans lost)⟩
  | quits phase final aside | redials phase _ aside =>
      exact ⟨watching, rfl, .inl (aside.loss.symm.trans lost)⟩
  | calls call => cases call <;> exact ⟨watching, rfl, .inl lost⟩
  | world change =>
      rcases s.stage.loss_undergo change with same | ⟨rfl, unbroken⟩
      · exact ⟨watching, rfl, .inl (same.symm.trans lost)⟩
      · exact ⟨watching, rfl, .inr ⟨rfl, unbroken⟩⟩
  | _ => exact ⟨watching, rfl, .inl lost⟩

private theorem reconnect_of_events (events : Journal)
    (journal : t.stage.journal = events ++ s.stage.journal)
    (plain : events.all fun e => !e.startsEpoch && e.sent? != some .reconnect)
    (sent : .signalSent .reconnect ∈ t.epoch) : .signalSent .reconnect ∈ s.epoch := by
  rw [List.all_eq_true] at plain
  have inside : ∀ e ∈ events, (!e.startsEpoch) = true := fun e member =>
    (Bool.and_eq_true_iff.mp (plain e member)).1
  rw [epoch, journal, Journal.epoch, List.takeWhile_append_of_pos inside, List.mem_append] at sent
  rcases sent with among | before
  · exact absurd (plain _ among) (by decide)
  · exact before

private theorem reconnect_of_tells (inner : s.stage.Tells (·.directs = false) t.stage)
    (sent : .signalSent .reconnect ∈ t.epoch) : .signalSent .reconnect ∈ s.epoch := by
  obtain ⟨events, journal, told⟩ := inner
  refine reconnect_of_events events journal ?_ sent
  rw [List.all_eq_true]
  intro e member
  simp [Event.startsEpoch_of_connects (Event.connects_of_directs (told e member)),
    Event.sent?_of_directs (told e member)]

private theorem reconnect_of_move {act : Act} (move : Move s act t)
    (sent : .signalSent .reconnect ∈ t.epoch) :
    t.epochs = s.epochs ∧ (.signalSent .reconnect ∈ s.epoch ∨
      ∃ pick e, act = .task pick .watcher ∧ s.watching = true ∧ s.stage.broker.loss = some e ∧
        t.stage.journal =
          .signalSent .reconnect :: .logged (.connectionLost e) :: s.stage.journal) := by
  cases move with
  | begins | joins | sleeps | retries | dismisses | givesUp | finishes =>
      exact ⟨rfl, .inl (reconnect_of_events [] rfl rfl sent)⟩
  | hearsReconnect | remembers | dials | fails | returns | delivers =>
      exact ⟨rfl, .inl (reconnect_of_events [_] rfl rfl sent)⟩
  | hearsShutdown | concedes => exact ⟨rfl, .inl (reconnect_of_events [_, _] rfl rfl sent)⟩
  | connects phase empty answered => cases sent
  | works phase _ worked | merges phase _ worked =>
      exact ⟨rfl, .inl (reconnect_of_tells worked.directs sent)⟩
  | quits phase final aside | redials phase _ aside =>
      exact ⟨rfl, .inl (reconnect_of_tells aside.directs sent)⟩
  | reports watching lost => exact ⟨rfl, .inr ⟨_, _, rfl, watching, lost, rfl⟩⟩
  | calls call =>
      cases call with
      | refuses | follows => exact ⟨rfl, .inl (reconnect_of_events [] rfl rfl sent)⟩
      | comesLate | queues => exact ⟨rfl, .inl (reconnect_of_events [_] rfl rfl sent)⟩
      | sends => exact ⟨rfl, .inl (reconnect_of_events [_, _] rfl rfl sent)⟩
  | world change =>
      exact ⟨rfl, .inl (reconnect_of_events [] (s.stage.undergo_journal change) rfl sent)⟩

/-- During an epoch its connection was dropped while the watcher was there. -/
def Dropped (start : Supervised) (acts : List Act) (epoch : Nat) : Prop :=
  ∃ before after s, acts = before ++ .world .drop :: after ∧
    play perform before start = some s ∧ s.epochs = epoch ∧ s.watching = true ∧
    s.stage.broker.unbroken = true

/-- After that its watcher saw the loss, and sent a reconnect signal. -/
def Reported (start : Supervised) (acts : List Act) (epoch : Nat) : Prop :=
  ∃ before pick after s t e, acts = before ++ .task pick .watcher :: after ∧
    play perform before start = some s ∧ s.epochs = epoch ∧ s.watching = true ∧
    s.stage.broker.loss = some e ∧ Dropped start before epoch ∧
    perform (.task pick .watcher) s = some t ∧
    t.stage.journal = .signalSent .reconnect :: .logged (.connectionLost e) :: s.stage.journal

variable {acts : List Act} {act : Act} {number : Nat}

theorem Dropped.concat (dropped : Dropped start acts number) (act : Act) :
    Dropped start (acts ++ [act]) number := by
  obtain ⟨before, after, s, rfl, reached⟩ := dropped
  exact ⟨before, after ++ [act], s, by simp, reached⟩

theorem Reported.concat (reported : Reported start acts number) (act : Act) :
    Reported start (acts ++ [act]) number := by
  obtain ⟨before, pick, after, s, t, e, rfl, reached⟩ := reported
  exact ⟨before, pick, after ++ [act], s, t, e, by simp, reached⟩

/-- What is known of an epoch at any moment of a run: the losses its watcher sees and the reconnect
signals sent in it are those of its own connection. -/
structure Caused (start : Supervised) (acts : List Act) (s : Supervised) : Prop where
  sound : s.Sound
  epochal : s.Epochal
  loss : ∀ e, s.watching = true → s.stage.broker.loss = some e → Dropped start acts s.epochs
  report : .signalSent .reconnect ∈ s.epoch → Reported start acts s.epochs

theorem Caused.perform (reached : play perform acts start = some s) (caused : Caused start acts s)
    (performed : perform act s = some t) : Caused start (acts ++ [act]) t := by
  have move := move_of_perform caused.sound.guarded performed
  refine ⟨caused.sound.move move, caused.epochal.move move, ?_, ?_⟩
  · intro e watching lost
    obtain ⟨alive, same, earlier | ⟨rfl, unbroken⟩⟩ := loss_of_move move watching lost
    · rw [same]
      exact (caused.loss e alive earlier).concat act
    · exact ⟨acts, [], s, rfl, reached, same.symm, alive, unbroken⟩
  · intro sent
    obtain ⟨same, earlier | ⟨pick, e, rfl, watching, lost, journal⟩⟩ :=
      reconnect_of_move move sent
    · rw [same]
      exact (caused.report earlier).concat act
    · have dropped := caused.loss e watching lost
      rw [same]
      exact ⟨acts, pick, [], s, t, e, rfl, reached, rfl, watching, lost, dropped, performed,
        journal⟩

private theorem caused_fresh (worker : Worker) (retryDelay : Nat) (broker : Broker) (capacity : Nat)
    (suffix : Nat → String) (start : Supervised) :
    Caused start [] (fresh worker retryDelay broker capacity suffix) := by
  refine ⟨sound_fresh worker retryDelay broker capacity suffix, epochal_of_empty rfl rfl, ?_, ?_⟩
  · exact fun _ watching => nomatch watching
  · exact fun sent => nomatch sent

/-- In every epoch of a run one reconnect signal at most is sent: its watcher sends it, after the
connection of the epoch was dropped. Whatever is received in an epoch was sent before in the same
epoch; what was sent in it and not received is in the slot, so nothing is left there from before. -/
theorem no_stale_reconnect {worker : Worker} {retryDelay : Nat} {broker : Broker} {capacity : Nat}
    {suffix : Nat → String}
    (reached : play perform acts (fresh worker retryDelay broker capacity suffix) = some s) :
    s.epochs = Journal.epochsStarted s.stage.journal ∧
    (Journal.sent s.epoch).count .reconnect ≤ 1 ∧
    (.signalSent .reconnect ∈ s.epoch →
      Reported (fresh worker retryDelay broker capacity suffix) acts s.epochs) ∧
    (∀ later signal reader earlier, s.epoch = later ++ .signalTaken signal reader :: earlier →
      .signalSent signal ∈ earlier) ∧
    Journal.taken s.epoch ++ s.stage.control.slot.toList = Journal.sent s.epoch := by
  have caused := play_history Caused.perform
    (caused_fresh worker retryDelay broker capacity suffix _) reached
  exact ⟨caused.sound.recorded.counted, caused.epochal.once, caused.report,
    caused.epochal.causal, caused.epochal.balance⟩

/-- The reconnect signal of the first epoch is still in the slot when that epoch ends. The worker
receives one in the second epoch, which its own connection caused. -/
theorem no_stale_reconnect_in_second_epoch :
    let broker := { Broker.initial with refusedChannels := [some Broker.channelRefused] }
    let start := fresh .publish 0 broker 1 fun _ => ""
    let main := Act.task .first .main
    let watcher := Act.task .first .watcher
    let acts := [.connect, main, main, .world .drop, watcher] ++ .replicate 7 main ++
      [.world .drop, watcher, main, main]
    ∃ s, play perform acts start = some s ∧ s.epochs = 2 ∧
      Journal.taken s.epoch = [.reconnect] ∧ .signalSent .reconnect ∈ s.epoch ∧
      (Journal.sent s.epoch).count .reconnect ≤ 1 ∧ Reported start acts 2 := by
  intro broker start main watcher acts
  have ran : (play perform acts start).map
      (fun s => (s.epochs, Journal.taken s.epoch, Journal.sent s.epoch)) =
        some (2, [.reconnect], [.reconnect]) := by
    decide +kernel
  obtain ⟨s, reached, same⟩ := Option.map_eq_some_iff.mp ran
  have second : s.epochs = 2 := congrArg Prod.fst same
  have taken : Journal.taken s.epoch = [.reconnect] := congrArg (·.2.1) same
  have sent : Journal.sent s.epoch = [.reconnect] := congrArg (·.2.2) same
  obtain ⟨_, once, report, _, _⟩ := no_stale_reconnect reached
  have told : .signalSent .reconnect ∈ s.epoch := Journal.mem_sent.mp (by simp [sent])
  refine ⟨s, reached, second, taken, told, once, ?_⟩
  rw [← second]
  exact report told

end Supervised

end ExchangeTap
