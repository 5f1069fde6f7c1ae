import ExchangeTap.Proofs.Worker.Career
import ExchangeTap.Proofs.Worker.TapSteps

namespace ExchangeTap

namespace Event

def channel? : Event → Option Nat
  | executed number _ _ | rebuffed number _ => some number
  | _ => none

/-- The channel that a refused operation has closed. -/
def failed? : Event → Option Nat
  | executed number _ (.error _) => some number
  | _ => none

variable {e : Event}

private theorem channel?_of_not_onChannel (other : e.isOnChannel = false) : e.channel? = none := by
  cases e <;> first | rfl | cases other

private theorem failed?_of_not_onChannel (other : e.isOnChannel = false) : e.failed? = none := by
  cases e <;> first | rfl | cases other

end Event

namespace Journal

def failed (journal : Journal) : List Nat :=
  journal.filterMap Event.failed?

/-- No operation was tried on a channel on which one had failed before; so none was tried on a
channel that was closed. -/
structure SparesFailed (journal : Journal) : Prop where
  spared : ∀ later e earlier, journal = later ++ e :: earlier →
    ∀ number, e.channel? = some number → number ∉ failed earlier
  unrebuffed : ∀ number op, .rebuffed number op ∉ journal

variable {e : Event} {events journal : Journal}

private theorem sparesFailed_nil : SparesFailed [] := by
  refine ⟨?_, fun _ _ member => nomatch member⟩
  intro later e earlier split
  cases later <;> cases split

@[simp] private theorem failed_cons (e : Event) (journal : Journal) :
    failed (e :: journal) = e.failed?.toList ++ failed journal := by
  cases failed : e.failed? <;> simp [Journal.failed, failed]

theorem SparesFailed.cons (spares : SparesFailed journal)
    (sound : ∀ number, e.channel? = some number → number ∉ failed journal)
    (operates : ∀ number op, e ≠ .rebuffed number op) : SparesFailed (e :: journal) := by
  refine ⟨?_, ?_⟩
  · intro later tried earlier split number tries
    rcases List.cons_eq_append_iff.mp split with ⟨rfl, same⟩ | ⟨between, rfl, before⟩
    · cases same
      exact sound number tries
    · exact spares.spared between tried earlier before number tries
  · intro number op member
    rcases List.mem_cons.mp member with same | among
    · exact operates number op same.symm
    · exact spares.unrebuffed number op among

private theorem failed_append_of_not_onChannel (others : ∀ e ∈ events, e.isOnChannel = false) :
    failed (events ++ journal) = failed journal := by
  have nothing : events.filterMap Event.failed? = [] :=
    List.filterMap_eq_nil_iff.mpr fun e member => Event.failed?_of_not_onChannel (others e member)
  rw [failed, List.filterMap_append, nothing]
  rfl

theorem SparesFailed.append (spares : SparesFailed journal)
    (others : ∀ e ∈ events, e.isOnChannel = false) : SparesFailed (events ++ journal) := by
  induction events with
  | nil => exact spares
  | cons e rest ih =>
      have other := others e List.mem_cons_self
      refine (ih fun e member => others e (List.mem_cons_of_mem _ member)).cons ?_ ?_
      · intro number tries
        cases (Event.channel?_of_not_onChannel other).symm.trans tries
      · rintro number op rfl
        cases other

end Journal

namespace Stage

variable {s t : Stage} {channel after : Channel} {op : Operation}

theorem openChannel_ok (opened : s.openChannel = (.ok channel, t)) :
    channel = ⟨s.broker.channels, false⟩ ∧ ∃ refused, t = { s with broker := { s.broker with
      refusedChannels := refused
      channels := s.broker.channels + 1 } }.record (.channelOpened s.broker.channels) := by
  unfold openChannel Broker.openChannel at opened
  split at opened <;> rename_i answer <;> cases opened
  split at answer <;> cases answer
  exact ⟨rfl, _, rfl⟩

theorem openChannel_error {e : BrokerError} (refused : s.openChannel = (.error e, t)) :
    ∃ refused, t = { s with broker := { s.broker with refusedChannels := refused } }.record
      (.channelRefused e) := by
  unfold openChannel Broker.openChannel at refused
  split at refused <;> rename_i answer <;> cases refused
  split at answer <;> cases answer
  exact ⟨_, rfl⟩

theorem execute_ok (executed : s.execute channel op = (.ok (), after, t)) :
    channel.closed = false ∧ after = channel ∧
      ∃ refusals, t = { s with broker := { s.broker with refusals := refusals }.apply op }.record
        (.executed channel.number op (.ok ())) := by
  cases closed : channel.closed with
  | true =>
      rw [execute, if_pos closed] at executed
      cases executed
  | false =>
      cases answer : Refusal.answer op s.broker.refusals with
      | mk refusal refusals =>
          simp only [execute, closed, Broker.execute, answer, Bool.false_eq_true, if_false]
            at executed
          cases refusal <;> cases executed
          exact ⟨rfl, rfl, refusals, rfl⟩

theorem execute_error {e : BrokerError}
    (executed : s.execute channel op = (.error e, after, t)) :
    (channel.closed = true ∧ t = s.record (.rebuffed channel.number op)) ∨
      ∃ refusals, t = { s with broker := { s.broker with refusals := refusals } }.record
        (.executed channel.number op (.error e)) := by
  cases closed : channel.closed with
  | true =>
      rw [execute, if_pos closed] at executed
      cases executed
      exact .inl ⟨rfl, rfl⟩
  | false =>
      cases answer : Refusal.answer op s.broker.refusals with
      | mk refusal refusals =>
          simp only [execute, closed, Broker.execute, answer, Bool.false_eq_true, if_false]
            at executed
          cases refusal <;> cases executed
          exact .inr ⟨refusals, rfl⟩

/-- Channels on which something has failed were left alone, and the one in hand is none of them. -/
structure Equips (s : Stage) (held : Option Channel) : Prop where
  spares : Journal.SparesFailed s.journal
  past : ∀ number ∈ Journal.failed s.journal, number < s.broker.channels
  sound : ∀ channel, held = some channel → channel.closed = false ∧
    channel.number < s.broker.channels ∧ channel.number ∉ Journal.failed s.journal

variable {held : Option Channel}

theorem Equips.drop (equips : s.Equips held) : s.Equips none :=
  ⟨equips.spares, equips.past, fun _ present => nomatch present⟩

theorem Equips.told (equips : s.Equips held) (tells : s.Tells (·.isOnChannel = false) t)
    (channels : t.broker.channels = s.broker.channels) : t.Equips held := by
  obtain ⟨events, journal, others⟩ := tells
  have failed : Journal.failed t.journal = Journal.failed s.journal := by
    rw [journal, Journal.failed_append_of_not_onChannel others]
  refine ⟨?_, ?_, ?_⟩
  · rw [journal]
    exact equips.spares.append others
  · rw [failed, channels]
    exact equips.past
  · rw [failed, channels]
    exact equips.sound

theorem Equips.aloof (equips : s.Equips held) (aloof : s.Aloof t) : t.Equips held :=
  equips.told aloof.tells aloof.channels

theorem Equips.log (equips : s.Equips held) (entry : LogEntry) : (s.log entry).Equips held :=
  equips.aloof (steady_log s entry).toAloof

theorem Equips.opened (equips : s.Equips held) (opened : s.openChannel = (.ok channel, t)) :
    t.Equips (some channel) := by
  obtain ⟨rfl, refused, rfl⟩ := openChannel_ok opened
  refine ⟨equips.spares.cons (fun _ tries => nomatch tries) (fun _ _ same => nomatch same), ?_, ?_⟩
  · exact fun number failed => Nat.lt_succ_of_lt (equips.past number failed)
  · rintro _ ⟨⟩
    -- a channel that is opened only now has not failed before
    refine ⟨rfl, Nat.lt_succ_self _, fun failed => ?_⟩
    exact Nat.lt_irrefl _ (equips.past _ failed)

theorem Equips.unopened {e : BrokerError} (equips : s.Equips held)
    (refused : s.openChannel = (.error e, t)) : t.Equips none := by
  obtain ⟨refused, rfl⟩ := openChannel_error refused
  exact ⟨equips.spares.cons (fun _ tries => nomatch tries) (fun _ _ same => nomatch same),
    equips.past, fun _ present => nomatch present⟩

private theorem channels_apply (b : Broker) (op : Operation) : (b.apply op).channels = b.channels := by
  cases op <;> rfl

theorem Equips.tried (equips : s.Equips (some channel)) (result : Except BrokerError Unit) :
    Journal.SparesFailed (.executed channel.number op result :: s.journal) := by
  refine equips.spares.cons ?_ fun _ _ same => nomatch same
  rintro _ ⟨⟩
  exact (equips.sound channel rfl).2.2

theorem Equips.executed (equips : s.Equips (some channel))
    (executed : s.execute channel op = (.ok (), after, t)) : t.Equips (some after) := by
  obtain ⟨_, rfl, refusals, rfl⟩ := execute_ok executed
  refine ⟨equips.tried (.ok ()), ?_, ?_⟩
  · simpa [channels_apply, Event.failed?] using equips.past
  · simpa [channels_apply, Event.failed?] using equips.sound

theorem Equips.refused {e : BrokerError} (equips : s.Equips (some channel))
    (executed : s.execute channel op = (.error e, after, t)) : t.Equips none := by
  obtain ⟨isOpen, inside, _⟩ := equips.sound channel rfl
  obtain ⟨closed, _⟩ | ⟨refusals, rfl⟩ := execute_error executed
  · cases isOpen.symm.trans closed
  refine ⟨equips.tried (.error e), ?_, fun _ present => nomatch present⟩
  intro number failed
  rw [record, Journal.failed_cons] at failed
  rcases List.mem_append.mp failed with now | before
  · cases List.mem_singleton.mp now
    exact inside
  · exact equips.past number before

end Stage

/-! The channel that a worker has in its hands. -/

def TapRun.held (run : TapRun) : Option Channel :=
  match run.phase with
  | .creating _ channel _ _ => some channel
  | .removing _ channel _ _ => channel
  | _ => none

def SubscribeRun.held (run : SubscribeRun) : Option Channel :=
  match run.phase with
  | .consuming channel => some channel
  | _ => none

def PublishRun.held (run : PublishRun) : Option Channel :=
  match run.phase with
  | .ready channel => some channel
  | _ => none

def Run.held : Run → Option Channel
  | tap _ run => run.held
  | subscribe _ run => run.held
  | publish run => run.held
  | script _ _ => none

namespace TapRun

variable {setupRetry : Nat} {pick : Pick} {run next : TapRun} {s t : Stage}

private theorem equips_remove {channel after : Option Channel} {resource : Resource}
    {result : Except BrokerError Unit} (equips : s.Equips channel)
    (removed : remove s channel resource = (result, after, t)) :
    t.Equips none ∧ (result = .ok () → t.Equips after) := by
  rcases remove_cases removed with ⟨e, rfl, refused, rfl⟩ | ⟨c, left, u, tried, executed, rfl⟩
  · exact ⟨equips.unopened refused, fun same => nomatch same⟩
  · have ready : u.Equips (some c) := by
      rcases tried with ⟨rfl, rfl⟩ | ⟨rfl, opened⟩
      · exact equips
      · exact equips.opened opened
    cases result with
    | ok _ => exact ⟨(ready.executed executed).drop, fun _ => ready.executed executed⟩
    | error e => exact ⟨ready.refused executed, fun same => nomatch same⟩

private theorem equips_step (equips : s.Equips run.held)
    (stepped : run.step setupRetry pick s = some (next, t)) : t.Equips next.held := by
  cases step_of_step stepped with
  | establishes phase => exact equips.drop.log _
  | opens phase opened =>
      exact (equips.opened opened).aloof (Stage.steady_mint _).toAloof
  | creates phase executed =>
      rw [held, phase] at equips
      exact equips.executed executed
  | consumes phase executed =>
      rw [held, phase] at equips
      exact (equips.executed executed).drop.log _
  | findsNoChannel phase refused => exact (equips.unopened refused).log _
  | isRefused phase executed =>
      rw [held, phase] at equips
      exact (equips.refused executed).log _
  | reports phase handed =>
      rcases handed with handed | ⟨_, rfl⟩
      · exact equips.drop.aloof (Stage.steady_hand handed).toAloof
      · exact equips.drop
  | forwards phase fanIn forwarded | leaves phase fanIn forwarded =>
      exact equips.drop.aloof (Forward.steady_step forwarded).toAloof
  | removes phase removed =>
      rw [held, phase] at equips
      exact ((equips_remove equips removed).2 rfl).log _
  | retries phase removed | givesUp phase removed =>
      rw [held, phase] at equips
      exact (equips_remove equips removed).1.log _
  | departs phase departed =>
      rename_i departure
      cases departure with
      | pause =>
          cases departed
          exact equips.drop.aloof (Stage.aloof_stopReadings s run.consumers)
      | leave action =>
          cases departed
          exact equips.drop
  | waits phase steady => exact equips.aloof steady.toAloof
  | resumes phase steady => exact equips.drop.aloof steady.toAloof
  | stops phase ended => exact equips.drop

end TapRun

namespace SubscribeRun

variable {queue : String} {run next : SubscribeRun} {s t : Stage}

private theorem equips_refused {e : BrokerError} (equips : s.Equips none)
    (refused : run.refused queue e s = (next, t)) : t.Equips next.held := by
  unfold SubscribeRun.refused at refused
  split at refused <;> cases refused <;> exact equips.log _

private theorem equips_step (equips : s.Equips run.held) (stepped : run.step queue s = some (next, t)) :
    t.Equips next.held := by
  cases phase : run.phase with
  | opening =>
      simp only [step, phase] at stepped
      split at stepped <;> rename_i opened <;> cases stepped
      · exact (equips.unopened opened).log _
      · exact equips.opened opened
  | consuming channel =>
      rw [held, phase] at equips
      have minted := equips.aloof (Stage.steady_mint s).toAloof
      simp only [step, phase] at stepped
      split at stepped <;> rename_i executed
      · exact equips_refused (minted.refused executed) (Option.some.inj stepped)
      · cases stepped
        exact (minted.executed executed).drop.log _
  | reporting error =>
      simp only [step, phase] at stepped
      split at stepped <;> rename_i handed <;> cases stepped
      · exact equips.drop
      · exact equips.drop.aloof (Stage.steady_hand handed).toAloof
  | forwarding forward =>
      simp only [step, phase] at stepped
      split at stepped
      · cases stepped
      · split at stepped <;> rename_i forwarded <;> cases stepped <;>
          exact equips.drop.aloof (Forward.steady_step forwarded).toAloof
  | stopping action =>
      simp only [step, phase] at stepped
      split at stepped <;> cases stepped
      exact equips.drop
  | finished action =>
      simp only [step, phase] at stepped
      cases stepped

end SubscribeRun

namespace PublishRun

variable {run next : PublishRun} {s t : Stage}

private theorem equips_publish {channel : Channel} {message : Outbound} (equips : s.Equips (some channel))
    (published : publish channel message s = (next, t)) : t.Equips next.held := by
  unfold publish at published
  split at published <;> rename_i executed <;> cases published
  · exact equips.executed executed
  · exact (equips.refused executed).log _

private theorem equips_ready {channel : Channel} (equips : s.Equips (some channel))
    (stepped : step ⟨.ready channel⟩ s = some (next, t)) : t.Equips next.held := by
  cases polled : s.pollControl .worker with
  | mk result after =>
      have heard := equips.aloof (Stage.steady_pollControl polled).toAloof
      simp only [step, polled] at stepped
      cases result with
      | ready answer =>
          split at stepped <;> rename_i answered <;> cases answered <;> cases stepped <;>
            exact heard.drop
      | pending =>
          simp only at stepped
          split at stepped
          · rename_i message feed _
            have fed : after.Steady ({ after with feed := feed }.cancelControl .worker) :=
              Stage.steady_of_same rfl rfl rfl rfl
            exact equips_publish (heard.aloof fed.toAloof) (Option.some.inj stepped)
          · cases stepped
            exact (heard.drop.aloof (Stage.steady_control after _).toAloof).log _
          · obtain ⟨waiting, awaited, same⟩ := Option.map_eq_some_iff.mp stepped
            cases same
            cases Stage.eq_of_awaiting awaited
            exact heard

private theorem equips_step (equips : s.Equips run.held) (stepped : run.step s = some (next, t)) :
    t.Equips next.held := by
  obtain ⟨phase⟩ := run
  cases phase with
  | opening | reopening =>
      simp only [step] at stepped
      split at stepped <;> rename_i opened <;> cases stepped
      · exact (equips.unopened opened).log _
      · first
          | exact (equips.opened opened).log _
          | exact equips.opened opened
  | ready channel => exact equips_ready equips stepped
  | finished action => cases stepped

end PublishRun

private theorem ScriptRun.equips_step {epoch : ScriptEpoch} {run next : ScriptRun} {s t : Stage}
    (equips : s.Equips none) (stepped : run.step epoch s = some (next, t)) : t.Equips none := by
  have noted : ∀ {u : Stage} (text : String), u.Equips none → (u.record (.noted text)).Equips none :=
    fun _ equips => equips.aloof (Stage.steady_record _ rfl).toAloof
  obtain ⟨phase⟩ := run
  cases phase with
  | starting =>
      cases stepped
      exact noted _ equips
  | waiting signals =>
      cases signals with
      | zero =>
          cases stepped
          exact equips
      | succ more =>
          simp only [step] at stepped
          split at stepped <;> rename_i polled <;>
            have heard := equips.aloof (Stage.steady_pollControl polled).toAloof
          · cases stepped
            exact noted _ heard
          · obtain ⟨waiting, awaited, same⟩ := Option.map_eq_some_iff.mp stepped
            cases same
            cases Stage.eq_of_awaiting awaited
            exact heard
  | opening channels =>
      cases channels with
      | zero =>
          cases stepped
          exact equips
      | succ more =>
          simp only [step] at stepped
          split at stepped <;> rename_i opened <;> cases stepped
          · exact noted _ (equips.opened opened).drop
          · exact noted _ (equips.unopened opened)
  | sleeping until_ =>
      simp only [step] at stepped
      split at stepped <;> cases stepped
      exact equips
  | finished action => cases stepped

namespace Run

variable {run next : Run} {s t : Stage}

private theorem equips_step {pick : Pick} (equips : s.Equips run.held)
    (stepped : run.step pick s = some (next, t)) : t.Equips next.held := by
  cases run with
  | tap setupRetry run =>
      obtain ⟨⟨after, stage⟩, moved, same⟩ := Option.map_eq_some_iff.mp stepped
      cases same
      exact TapRun.equips_step equips moved
  | subscribe queue run =>
      obtain ⟨⟨after, stage⟩, moved, same⟩ := Option.map_eq_some_iff.mp stepped
      cases same
      exact SubscribeRun.equips_step equips moved
  | publish run =>
      obtain ⟨⟨after, stage⟩, moved, same⟩ := Option.map_eq_some_iff.mp stepped
      cases same
      exact PublishRun.equips_step equips moved
  | script epoch run =>
      obtain ⟨⟨after, stage⟩, moved, same⟩ := Option.map_eq_some_iff.mp stepped
      cases same
      exact ScriptRun.equips_step equips moved

private theorem equips_mergeStep (equips : s.Equips run.held)
    (stepped : run.mergeStep s = some (next, t)) : t.Equips next.held := by
  cases run with
  | tap setupRetry run =>
      obtain ⟨fanIn, _, advancing⟩ := Option.bind_eq_some_iff.mp stepped
      obtain ⟨⟨after, stage⟩, advanced, same⟩ := Option.map_eq_some_iff.mp advancing
      cases same
      exact equips.aloof (FanIn.aloof_advance advanced)
  | subscribe queue run =>
      obtain ⟨fanIn, _, advancing⟩ := Option.bind_eq_some_iff.mp stepped
      obtain ⟨⟨after, stage⟩, advanced, same⟩ := Option.map_eq_some_iff.mp advancing
      cases same
      exact equips.aloof (FanIn.aloof_advance advanced)
  | publish run => cases stepped
  | script epoch run => cases stepped

@[simp] private theorem held_start (worker : Worker) (number : Nat) :
    (worker.start number).held = none := by
  cases worker <;> rfl

end Run

namespace Career

variable {c next : Career}

def Equipped (c : Career) : Prop :=
  c.stage.Equips (c.run.bind Run.held)

theorem equipped_start (worker : Worker) (stage : Stage) : (start worker stage).Equipped :=
  ⟨Journal.sparesFailed_nil, fun _ failed => (nomatch failed), fun _ present => nomatch present⟩

theorem Equipped.take {turn : Turn} (equipped : c.Equipped) (taken : take turn c = some next) :
    next.Equipped := by
  cases turn with
  | begins =>
      simp only [Career.take] at taken
      split at taken <;> cases taken
      rw [Equipped, Option.bind_some, Run.held_start]
      exact equipped.drop
  | worker pick =>
      obtain ⟨run, after, stage, present, stepped, rfl⟩ := goOn_eq_some taken
      rw [Equipped, present] at equipped
      exact Run.equips_step equipped stepped
  | merge =>
      obtain ⟨run, after, stage, present, stepped, rfl⟩ := goOn_eq_some taken
      rw [Equipped, present] at equipped
      exact Run.equips_mergeStep equipped stepped
  | ends =>
      obtain ⟨_, _, _, _, rfl⟩ := ends_eq_some taken
      exact equipped.drop
  | hangUp =>
      simp only [Career.take] at taken
      split at taken <;> cases taken
      exact equipped.told (.refl _) rfl
  | deliver chosen item =>
      cases taken
      exact equipped.aloof (c.stage.steady_deliver chosen item).toAloof
  | elsewhere stage told =>
      cases taken
      exact equipped.aloof (c.steady_surrounded stage told).toAloof

end Career

end ExchangeTap
