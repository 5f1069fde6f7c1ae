import ExchangeTap.Proofs.Worker.Ledger

namespace ExchangeTap

namespace Stage

variable {P : Event → Prop} {s t : Stage}

theorem journal_of_execute {channel after : Channel} {op : Operation}
    {result : Except BrokerError Unit} (isOpen : channel.closed = false)
    (executed : s.execute channel op = (result, after, t)) :
    t.journal = .executed channel.number op result :: s.journal := by
  unfold execute at executed
  rw [if_neg (by simp [isOpen])] at executed
  cases executed
  rfl

theorem open_of_execute_ok {channel after : Channel} {op : Operation}
    (executed : s.execute channel op = (.ok (), after, t)) :
    channel.closed = false ∧ after = channel := by
  unfold execute at executed
  split at executed
  · cases executed
  · rename_i notClosed
    obtain ⟨answered, left, _⟩ := Prod.mk.inj executed |>.imp_right Prod.mk.inj
    rw [answered] at left
    exact ⟨by simpa using notClosed, left.symm⟩

private theorem open_after_execute_ok {channel after : Channel} {op : Operation}
    (executed : s.execute channel op = (.ok (), after, t)) : after.closed = false := by
  obtain ⟨isOpen, rfl⟩ := open_of_execute_ok executed
  exact isOpen

private theorem journal_of_execute_ok {channel after : Channel} {op : Operation}
    (executed : s.execute channel op = (.ok (), after, t)) :
    t.journal = .executed channel.number op (.ok ()) :: s.journal :=
  journal_of_execute (open_of_execute_ok executed).1 executed

theorem journal_of_openChannel_ok {channel : Channel}
    (opened : s.openChannel = (.ok channel, t)) :
    t.journal = .channelOpened channel.number :: s.journal ∧ channel.closed = false := by
  unfold openChannel Broker.openChannel at opened
  split at opened <;> rename_i answer <;> cases opened
  split at answer <;> cases answer
  exact ⟨rfl, rfl⟩

private theorem journal_of_openChannel_error {e : BrokerError}
    (opened : s.openChannel = (.error e, t)) :
    t.journal = .channelRefused e :: s.journal := by
  unfold openChannel at opened
  split at opened <;> cases opened
  rfl

end Stage

private theorem Forward.tells_step {P : Event → Prop} (logged : ∀ entry, P (.logged entry))
    (handedOver : ∀ input envelope, P (.handedOver input envelope)) {forward : Forward}
    {fanIn after : FanIn Item} {outcome : Outcome} {s t : Stage}
    (stepped : forward.step fanIn s = some (outcome, after, t)) : s.Tells P t := by
  cases forward with
  | waiting =>
      simp only [step] at stepped
      split at stepped
      · cases stepped
      · cases stepped
        exact .refl s
      · rename_i input item _ _
        cases stepped
        cases item with
        | delivery result =>
            cases result with
            | ok delivery => exact .refl s
            | error e => exact Stage.tells_record s (logged _)
        | signal value => cases value <;> exact Stage.tells_record s (logged _)
  | sending input message =>
      simp only [step] at stepped
      split at stepped <;> rename_i handed <;> cases stepped
      · exact Stage.tells_record s (logged _)
      · exact Stage.tells_hand (handedOver _ _) handed

namespace TapRun

/-- What is made and not yet tried to be removed. -/
def pending (run : TapRun) : List Resource :=
  match run.phase with
  | .removing left _ _ _ => left
  | _ => run.ledger

def Settled (run : TapRun) : Prop :=
  match run.phase with
  | .removing _ (some channel) _ _ => channel.closed = false
  | .pausing _ | .stopping _ | .finished _ => run.ledger = []
  | _ => True

/-- Since the epoch began, the ledger has been kept. -/
structure Kept (base : Journal) (run : TapRun) (s : Stage) : Prop where
  ledgered : ∃ events, s.journal = events ++ base ∧ Journal.Ledgered events run.pending
  settled : run.Settled

variable {base : Journal} {run next : TapRun} {s t : Stage}

private theorem kept_start (bindings : List Binding) (s : Stage) :
    Kept s.journal (start bindings) s :=
  ⟨⟨[], rfl, Journal.ledgered_nil⟩, trivial⟩

theorem Kept.idle (kept : Kept base run s) (told : s.Tells Event.Idle t)
    (same : ∀ r, r ∈ next.pending ↔ r ∈ run.pending) (settled : next.Settled) :
    Kept base next t := by
  obtain ⟨events, journal, ledgered⟩ := kept.ledgered
  obtain ⟨block, added, idle⟩ := told
  refine ⟨⟨block ++ events, ?_, (ledgered.idle idle).congr same⟩, settled⟩
  rw [added, journal, List.append_assoc]

private theorem idle_logged (entry : LogEntry) : (Event.logged entry).Idle :=
  ⟨rfl, rfl⟩

private theorem idle_signalTaken (reader : Reader) (signal : Signal) :
    (Event.signalTaken signal reader).Idle :=
  ⟨rfl, rfl⟩

theorem tells_openChannel {result : Except BrokerError Channel}
    (opened : s.openChannel = (result, t)) : s.Tells Event.Idle t :=
  Stage.tells_openChannel (fun _ => ⟨rfl, rfl⟩) (fun _ => ⟨rfl, rfl⟩) opened

theorem Kept.fail {binding : Binding} {e : BrokerError} (kept : Kept base run s)
    (told : s.Tells Event.Idle t) (setup : run.pending = run.ledger) :
    Kept base (run.fail binding e t).1 (run.fail binding e t).2 := by
  refine kept.idle (told.trans (Stage.tells_record t (idle_logged _))) ?_ trivial
  intro r
  rw [setup]
  rfl

theorem Kept.tearDown {departure : Departure} (kept : Kept base run s)
    (told : s.Tells Event.Idle t) (setup : run.pending = run.ledger) :
    Kept base (run.tearDown departure) t := by
  refine kept.idle told ?_ trivial
  intro r
  rw [setup]
  exact Resource.mem_teardownOrder

private theorem remove_spec {channel after : Option Channel} {resource : Resource}
    {result : Except BrokerError Unit}
    (isOpen : ∀ c, channel = some c → c.closed = false)
    (removed : remove s channel resource = (result, after, t)) :
    (∃ number opening,
      t.journal = .executed number resource.removal result :: opening ++ s.journal ∧
        (∀ e ∈ opening, e.Idle) ∧
        (result = .ok () → ∀ c, after = some c → c.closed = false)) ∨
    ∃ e, result = .error e ∧ t.journal = .channelRefused e :: s.journal := by
  unfold remove at removed
  split at removed
  · rename_i c
    cases executed : s.execute c resource.removal with
    | mk answer u =>
        rw [executed] at removed
        cases removed
        refine .inl ⟨c.number, [], Stage.journal_of_execute (isOpen c rfl) executed,
          fun _ member => (nomatch member), ?_⟩
        rintro rfl _ ⟨⟩
        exact Stage.open_after_execute_ok executed
  · split at removed <;> rename_i opened
    · cases removed
      exact .inr ⟨_, rfl, Stage.journal_of_openChannel_error opened⟩
    · rename_i c stage
      obtain ⟨told, fresh⟩ := Stage.journal_of_openChannel_ok opened
      cases executed : stage.execute c resource.removal with
      | mk answer u =>
          rw [executed] at removed
          cases removed
          refine .inl ⟨c.number, [.channelOpened c.number], ?_, ?_, ?_⟩
          · rw [Stage.journal_of_execute fresh executed, told]
            rfl
          · intro e member
            cases List.mem_singleton.mp member
            exact ⟨rfl, rfl⟩
          · rintro rfl _ ⟨⟩
            exact Stage.open_after_execute_ok executed

/-- One step of the teardown is a trial of the first resource that is left; the resource stays only
for a second one. -/
private theorem removeStep_spec {resource : Resource} {left : List Resource} {channel : Option Channel}
    {retried : Bool} {departure : Departure}
    (isOpen : ∀ c, channel = some c → c.closed = false)
    (removed : run.removeStep s resource left channel retried departure = (next, t)) :
    (∃ block, t.journal = block ++ s.journal ∧ Journal.Trial resource block) ∧
    (next.pending = left ∨ next.pending = resource :: left) ∧ next.Settled := by
  unfold removeStep at removed
  cases answer : remove s channel resource with
  | mk result rest =>
      obtain ⟨after, stage⟩ := rest
      have spec := remove_spec isOpen answer
      rw [answer] at removed
      -- an entry that follows the attempt at once
      have trial : ∀ entry,
          (∀ e, result = .error e → entry = .reopeningChannel resource ∨
            entry = removalEntry resource (.error e)) →
          ∃ block, (stage.log entry).journal = block ++ s.journal ∧
            Journal.Trial resource block := by
        intro entry told
        rcases spec with ⟨number, opening, journal, idle, _⟩ | ⟨e, failed, journal⟩
        · refine ⟨_, ?_, Journal.trial_executed resource entry number result idle⟩
          simp [journal]
        · refine ⟨_, ?_, Journal.trial_refused (told e failed)⟩
          simp [journal]
      cases result with
      | ok _ =>
          cases removed
          refine ⟨trial _ fun _ failed => (nomatch failed), .inl rfl, ?_⟩
          cases after with
          | none => trivial
          | some c =>
              rcases spec with ⟨_, _, _, _, stillOpen⟩ | ⟨_, failed, _⟩
              · exact stillOpen rfl c rfl
              · cases failed
      | error e =>
          simp only at removed
          split at removed <;> cases removed
          · exact ⟨trial _ fun _ _ => .inl rfl, .inr rfl, trivial⟩
          · refine ⟨trial _ ?_, .inl rfl, trivial⟩
            rintro _ ⟨⟩
            exact .inr rfl

theorem Kept.removeStep {resource : Resource} {left : List Resource} {channel : Option Channel}
    {retried : Bool} {departure : Departure} (kept : Kept base run s)
    (phase : run.phase = .removing (resource :: left) channel retried departure)
    (removed : run.removeStep s resource left channel retried departure = (next, t)) :
    Kept base next t := by
  obtain ⟨events, journal, ledgered⟩ := kept.ledgered
  have pending : run.pending = resource :: left := by simp [TapRun.pending, phase]
  have isOpen : ∀ c, channel = some c → c.closed = false := by
    rintro c rfl
    simpa [Settled, phase] using kept.settled
  rw [pending] at ledgered
  obtain ⟨⟨block, told, trial⟩, either, settled⟩ := removeStep_spec isOpen removed
  refine ⟨⟨block ++ events, ?_, ledgered.attempt trial either⟩, settled⟩
  rw [told, journal, List.append_assoc]

theorem Kept.depart {setupRetry : Nat} {departure : Departure} {channel : Option Channel}
    {retried : Bool} (kept : Kept base run s)
    (phase : run.phase = .removing [] channel retried departure)
    (departed : run.depart setupRetry s departure = (next, t)) : Kept base next t := by
  have pending : run.pending = [] := by simp [TapRun.pending, phase]
  cases departure with
  | pause =>
      cases departed
      refine kept.idle (Stage.tells_stopReadings s run.consumers) ?_ rfl
      rw [pending]
      exact fun _ => .rfl
  | leave action =>
      cases departed
      refine kept.idle (.refl s) ?_ rfl
      rw [pending]
      exact fun _ => .rfl

theorem Kept.pausing {setupRetry until_ : Nat} {pick : Pick} (kept : Kept base run s)
    (phase : run.phase = .pausing until_)
    (stepped : run.step setupRetry pick s = some (next, t)) : Kept base next t := by
  obtain ⟨_, ledger, consumers, fanIn, channels⟩ := run
  cases phase
  have concluded : ∀ {action after}, s.Tells Event.Idle after →
      Kept base ⟨.finished action, ledger, consumers, fanIn, channels⟩ after :=
    fun told => kept.idle told (fun _ => .rfl) kept.settled
  simp only [step] at stepped
  split at stepped
  · cases stepped
    exact concluded (Stage.tells_of_journal rfl)
  · cases polled : s.pollControl .worker with
    | mk result after =>
        have told := Stage.tells_pollControl (idle_signalTaken .worker) polled
        rw [polled] at stepped
        cases result with
        | ready answer =>
            split at stepped <;> rename_i answered <;> cases answered <;> cases stepped <;>
              exact concluded told
        | pending =>
            simp only at stepped
            split at stepped
            · cases stepped
              exact concluded (told.trans (Stage.tells_of_journal rfl))
            · obtain ⟨waiting, awaited, same⟩ := Option.map_eq_some_iff.mp stepped
              cases same
              unfold Stage.awaiting at awaited
              split at awaited <;> cases awaited
              exact kept.idle told (fun _ => .rfl) kept.settled

theorem Kept.step {setupRetry : Nat} {pick : Pick} (kept : Kept base run s)
    (stepped : run.step setupRetry pick s = some (next, t)) : Kept base next t := by
  obtain ⟨phase, ledger, consumers, fanIn, channels⟩ := run
  cases phase with
  | opening left =>
      cases left with
      | nil =>
          cases stepped
          exact kept.idle (Stage.tells_record s (idle_logged _)) (fun _ => .rfl) trivial
      | cons binding left =>
          simp only [TapRun.step] at stepped
          split at stepped <;> rename_i opened <;> cases stepped <;>
            have told := tells_openChannel opened
          · exact kept.fail told rfl
          · exact kept.idle (told.trans (Stage.tells_of_journal rfl)) (fun _ => .rfl) trivial
  | creating plan channel lacking left =>
      cases lacking with
      | nil =>
          have consumes :
              ∀ result, (Event.executed channel.number plan.consumption result).Idle := by
            rintro (e | _) <;> exact ⟨rfl, rfl⟩
          simp only [TapRun.step] at stepped
          split at stepped <;> rename_i executed <;> cases stepped <;>
            have told := Stage.tells_execute (consumes _) ⟨rfl, rfl⟩ executed
          · exact kept.fail told rfl
          · exact kept.idle (told.trans (Stage.tells_record _ (idle_logged _))) (fun _ => .rfl)
              trivial
      | cons resource lacking =>
          simp only [TapRun.step] at stepped
          split at stepped <;> rename_i executed <;> cases stepped
          · have creates := resource.removes_creation
            exact kept.fail (Stage.tells_execute (Event.idle_of_refused creates)
              (Event.idle_of_rebuffed creates) executed) rfl
          · obtain ⟨events, journal, ledgered⟩ := kept.ledgered
            refine ⟨⟨_, ?_, ledgered.create channel.number resource⟩, trivial⟩
            rw [Stage.journal_of_execute_ok executed, journal]
            rfl
  | reporting error =>
      simp only [TapRun.step] at stepped
      split at stepped <;> rename_i handed <;> cases stepped
      · exact kept.tearDown (.refl _) rfl
      · exact kept.tearDown (Stage.tells_hand ⟨rfl, rfl⟩ handed) rfl
  | forwarding forward =>
      cases fanIn with
      | none => cases stepped
      | some fanIn =>
          simp only [TapRun.step] at stepped
          split at stepped <;> rename_i forwarded <;> cases stepped <;>
            have told := Forward.tells_step (P := Event.Idle) idle_logged
              (fun _ _ => ⟨rfl, rfl⟩) forwarded
          · exact kept.idle told (fun _ => .rfl) trivial
          · exact kept.idle told (fun _ => Resource.mem_teardownOrder) trivial
  | removing left channel retried departure =>
      cases left with
      | cons resource left => exact kept.removeStep rfl (Option.some.inj stepped)
      | nil => exact kept.depart rfl (Option.some.inj stepped)
  | pausing until_ => exact kept.pausing rfl stepped
  | stopping action =>
      simp only [TapRun.step] at stepped
      split at stepped <;> cases stepped
      exact kept.idle (.refl _) (fun _ => .rfl) kept.settled
  | finished action => cases stepped

end TapRun

namespace Run

variable {base : Journal} {setupRetry : Nat} {run : TapRun} {s t : Stage} {next : Run}

private theorem kept_take {turn : Turn} (kept : TapRun.Kept base run s)
    (taken : take turn (.tap setupRetry run, s) = some (next, t)) :
    ∃ after, next = .tap setupRetry after ∧ TapRun.Kept base after t := by
  cases turn with
  | worker pick =>
      obtain ⟨⟨after, stage⟩, stepped, same⟩ := Option.map_eq_some_iff.mp taken
      cases same
      exact ⟨after, rfl, kept.step stepped⟩
  | merge =>
      obtain ⟨fanIn, _, advancing⟩ := Option.bind_eq_some_iff.mp taken
      obtain ⟨⟨after, stage⟩, advanced, same⟩ := Option.map_eq_some_iff.mp advancing
      cases same
      have told := FanIn.tells_advance (TapRun.idle_signalTaken .merge) advanced
      exact ⟨_, rfl, kept.idle told (fun _ => .rfl) kept.settled⟩
  | elsewhere stage told =>
      cases taken
      refine ⟨run, rfl, kept.idle ⟨_, rfl, ?_⟩ (fun _ => .rfl) kept.settled⟩
      intro e member
      apply Event.idle_of_not_onChannel
      simpa using (List.mem_filter.mp member).2

private theorem kept_course {turns : List Turn} (kept : TapRun.Kept base run s)
    (played : play take turns (.tap setupRetry run, s) = some (next, t)) :
    ∃ after, next = .tap setupRetry after ∧ TapRun.Kept base after t := by
  refine play_preserves (P := fun state =>
    ∃ after, state.1 = .tap setupRetry after ∧ TapRun.Kept base after state.2) ?_
    ⟨run, rfl, kept⟩ played
  rintro turn ⟨_, stage⟩ ⟨following, after⟩ ⟨current, rfl, kept⟩ taken
  exact kept_take kept taken

/-- When a tapping worker returns, it has tried to remove whatever the broker has made for it in
this epoch, and it has removed nothing else. -/
theorem cleanedUp_of_returned {bindings : List Binding} {number : Nat} {turns : List Turn}
    {action : Action}
    (played : play take turns ((Worker.tap bindings setupRetry).start number, s) = some (next, t))
    (returned : next.result? = some action) :
    ∃ events, t.journal = events ++ s.journal ∧ Journal.CleanedUp events := by
  obtain ⟨after, rfl, kept⟩ := kept_course (TapRun.kept_start bindings s) played
  obtain ⟨phase, ledger, consumers, fanIn, channels⟩ := after
  cases phase with
  | finished action =>
      obtain ⟨events, journal, ledgered⟩ := kept.ledgered
      have empty : ledger = [] := kept.settled
      rw [TapRun.pending, empty] at ledgered
      exact ⟨events, journal, ledgered.cleanedUp⟩
  | _ => cases returned

/-- The broker refuses the last binding of a tap, and then the channel for its removal. -/
theorem cleanedUp_of_refused_binding :
    let broker := { Broker.initial with
      refusals := [⟨some .bindQueue, none, 0, 1, .operation "refused"⟩]
      refusedChannels := [none, some Broker.channelClosed] }
    let s := Stage.initial broker 1 fun _ => "suffix"
    ∃ next t, play take (.replicate 12 (.worker .second))
        ((Worker.tap [⟨"orders", "#"⟩] 0).start 0, s) = some (next, t) ∧
      next.result? = some .reconnect ∧ t.journal.length = 16 ∧
      ∃ events, t.journal = events ++ s.journal ∧ Journal.CleanedUp events := by
  intro broker s
  have finished : (play take (.replicate 12 (.worker .second))
      ((Worker.tap [⟨"orders", "#"⟩] 0).start 0, s)).map
        (fun state => (state.1.result?, state.2.journal.length)) = some (some .reconnect, 16) :=
    rfl
  obtain ⟨⟨next, t⟩, played, same⟩ := Option.map_eq_some_iff.mp finished
  have returned : next.result? = some .reconnect := congrArg Prod.fst same
  have told : t.journal.length = 16 := congrArg Prod.snd same
  exact ⟨next, t, played, returned, told, cleanedUp_of_returned played returned⟩

end Run

end ExchangeTap
