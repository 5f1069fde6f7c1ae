import ExchangeTap.Proofs.Worker.Channels
import ExchangeTap.Proofs.Worker.Course

namespace ExchangeTap

/-- What channels were used for, in the order in which it happened. -/
def Journal.onChannel (journal : Journal) : List Event :=
  (journal.filter Event.isOnChannel).reverse

namespace Stage

variable {s t u : Stage} {e : Event} {told more : List Event}

def Uses (s : Stage) (told : List Event) (t : Stage) : Prop :=
  Journal.onChannel t.journal = Journal.onChannel s.journal ++ told

theorem uses_nothing (tells : s.Tells (·.isOnChannel = false) t) : s.Uses [] t := by
  obtain ⟨events, journal, others⟩ := tells
  have nothing : events.filter Event.isOnChannel = [] :=
    List.filter_eq_nil_iff.mpr fun e member => by simp [others e member]
  rw [Uses, journal, Journal.onChannel, List.filter_append, nothing]
  simp [Journal.onChannel]

private theorem uses_of_cons (journal : t.journal = e :: s.journal) (used : e.isOnChannel = true) :
    s.Uses [e] t := by
  rw [Uses, journal, Journal.onChannel, List.filter_cons_of_pos used]
  simp [Journal.onChannel]

theorem Uses.trans (first : s.Uses told t) (second : t.Uses more u) : s.Uses (told ++ more) u := by
  rw [Uses, second, first, List.append_assoc]

theorem Uses.eq (uses : s.Uses told t) (other : s.Uses more t) : told = more :=
  List.append_cancel_left (uses.symm.trans other)

theorem Uses.tells (uses : s.Uses told t) (tells : t.Tells (·.isOnChannel = false) u) :
    s.Uses told u := by
  rw [← List.append_nil told]
  exact uses.trans (uses_nothing tells)

theorem Uses.aloof (uses : s.Uses told t) (aloof : t.Aloof u) : s.Uses told u :=
  uses.tells aloof.tells

theorem uses_of_aloof (aloof : s.Aloof t) : s.Uses [] t :=
  uses_nothing aloof.tells

theorem Uses.log (uses : s.Uses told t) (entry : LogEntry) : s.Uses told (t.log entry) :=
  uses.aloof (steady_log t entry).toAloof

theorem uses_opened {channel : Channel} (opened : s.openChannel = (.ok channel, t)) :
    s.Uses [.channelOpened channel.number] t ∧ channel.closed = false := by
  obtain ⟨rfl, _, rfl⟩ := openChannel_ok opened
  exact ⟨uses_of_cons rfl rfl, rfl⟩

theorem uses_unopened {error : BrokerError} (refused : s.openChannel = (.error error, t)) :
    s.Uses [.channelRefused error] t := by
  obtain ⟨_, rfl⟩ := openChannel_error refused
  exact uses_of_cons rfl rfl

theorem uses_executed {channel after : Channel} {op : Operation} {result : Except BrokerError Unit}
    (isOpen : channel.closed = false) (executed : s.execute channel op = (result, after, t)) :
    s.Uses [.executed channel.number op result] t := by
  cases result with
  | ok _ =>
      obtain ⟨_, _, _, rfl⟩ := execute_ok executed
      exact uses_of_cons rfl rfl
  | error error =>
      obtain ⟨closed, _⟩ | ⟨_, rfl⟩ := execute_error executed
      · cases isOpen.symm.trans closed
      · exact uses_of_cons rfl rfl

end Stage

namespace Resource

def kept (number : Nat) : Except BrokerError Unit → Option Nat
  | .ok () => some number
  | .error _ => none

/-- An attempt to remove a resource, with the channel before it, if there is one, and after it. -/
inductive Attempt (resource : Resource) :
    Option Nat → Except BrokerError Unit → List Event → Option Nat → Prop where
  | unopened (e : BrokerError) : Attempt resource none (.error e) [.channelRefused e] none
  | opened (number : Nat) (result : Except BrokerError Unit) :
      Attempt resource none result
        [.channelOpened number, .executed number resource.removal result] (kept number result)
  | held (number : Nat) (result : Except BrokerError Unit) :
      Attempt resource (some number) result [.executed number resource.removal result]
        (kept number result)

/-- A resource is tried once, and once more on a fresh channel if the first one was stale. -/
inductive Handling (resource : Resource) : Option Nat → List Event → Option Nat → Prop where
  | once {result : Except BrokerError Unit} (attempt : Attempt resource channel result told next)
      (final : ∀ e, result = .error e → e.isStaleChannel = false) :
      Handling resource channel told next
  | twice {e : BrokerError} {result : Except BrokerError Unit}
      (first : Attempt resource channel (.error e) told none) (stale : e.isStaleChannel = true)
      (second : Attempt resource none result more next) :
      Handling resource channel (told ++ more) next

/-- Resources are handled one after another. -/
inductive Walk : Option Nat → List Resource → List Event → Option Nat → Prop where
  | done : Walk channel [] [] channel
  | handles (handling : Handling resource channel told next) (rest : Walk next left more last) :
      Walk channel (resource :: left) (told ++ more) last

variable {resource : Resource} {resources handled left ledger : List Resource}
variable {channel next last number : Option Nat} {told more : List Event} {s t : Stage}

private theorem Attempt.of_error {e : BrokerError} (attempt : Attempt resource channel (.error e) told next) :
    next = none := by
  cases attempt <;> rfl

private theorem Walk.snoc (walk : Walk channel resources told next)
    (handling : Handling resource next more last) :
    Walk channel (resources ++ [resource]) (told ++ more) last := by
  induction walk with
  | done =>
      have single := Walk.handles handling .done
      rwa [List.append_nil] at single
  | handles first _ ih =>
      rw [List.cons_append, List.append_assoc]
      exact .handles first (ih handling)

theorem teardownOrder_eq (ledger : List Resource) :
    teardownOrder ledger =
      (ledger.filter isQueueSide).reverse ++ (ledger.filter (!isQueueSide ·)).reverse := by
  rw [teardownOrder, List.filter_reverse, List.filter_reverse]

theorem length_teardownOrder (ledger : List Resource) :
    (teardownOrder ledger).length = ledger.length :=
  ((List.filter_append_perm isQueueSide ledger.reverse).trans ledger.reverse_perm).length_eq

end Resource

open Resource (Attempt Handling Walk)

namespace TapRun

variable {setupRetry : Nat} {pick : Pick} {run next : TapRun} {s t : Stage}
variable {ledger : List Resource} {departure : Departure} {told : List Event}

private theorem attempt_of_remove {channel after : Option Channel} {resource : Resource}
    {result : Except BrokerError Unit} (isOpen : ∀ c, channel = some c → c.closed = false)
    (removed : remove s channel resource = (result, after, t)) :
    ∃ told next, s.Uses told t ∧ Attempt resource (channel.map (·.number)) result told next ∧
      (result = .ok () →
        next = after.map (·.number) ∧ ∀ c, after = some c → c.closed = false) := by
  rcases remove_cases removed with ⟨e, rfl, refused, rfl⟩ | ⟨c, left, u, tried, executed, rfl⟩
  · exact ⟨_, none, Stage.uses_unopened refused, .unopened e, nofun⟩
  · have spared : result = .ok () →
        Resource.kept c.number result = some left.number ∧
          ∀ other, some left = some other → other.closed = false := by
      rintro rfl
      obtain ⟨stillOpen, rfl, _⟩ := Stage.execute_ok executed
      exact ⟨rfl, fun _ same => Option.some.inj same ▸ stillOpen⟩
    rcases tried with ⟨rfl, rfl⟩ | ⟨rfl, opened⟩
    · exact ⟨_, _, Stage.uses_executed (isOpen c rfl) executed, .held c.number result, spared⟩
    · obtain ⟨opens, fresh⟩ := Stage.uses_opened opened
      exact ⟨_, _, opens.trans (Stage.uses_executed fresh executed), .opened c.number result, spared⟩

def removing (run : TapRun) : Bool :=
  match run.phase with
  | .removing _ _ _ _ => true
  | _ => false

def departed (run : TapRun) : Departure → Bool
  | .pause =>
    match run.phase with
    | .pausing _ | .finished _ => true
    | _ => false
  | .leave action =>
    match run.phase with
    | .stopping other | .finished other => other = action
    | _ => false

def trials (run : TapRun) : Nat :=
  match run.phase with
  | .removing left _ retried _ => 2 * left.length - retried.toNat
  | _ => 0

/-- Since the teardown of a ledger began, this is what channels were used for. -/
inductive TearsDown (ledger : List Resource) (departure : Departure) (run : TapRun) :
    List Event → Prop where
  | going {handled left : List Resource} {channel : Option Channel} {told : List Event}
      (phase : run.phase = .removing left channel false departure)
      (split : handled ++ left = Resource.teardownOrder ledger)
      (walk : Walk none handled told (channel.map (·.number)))
      (isOpen : ∀ c, channel = some c → c.closed = false) : TearsDown ledger departure run told
  | again {handled left : List Resource} {resource : Resource} {number : Option Nat}
      {e : BrokerError} {told more : List Event}
      (phase : run.phase = .removing (resource :: left) none true departure)
      (split : handled ++ resource :: left = Resource.teardownOrder ledger)
      (walk : Walk none handled told number) (first : Attempt resource number (.error e) more none)
      (stale : e.isStaleChannel = true) : TearsDown ledger departure run (told ++ more)
  | ended {last : Option Nat} {told : List Event} (departed : run.departed departure = true)
      (empty : run.ledger = []) (walk : Walk none (Resource.teardownOrder ledger) told last) :
      TearsDown ledger departure run told

theorem tearsDown_tearDown (run : TapRun) (departure : Departure) :
    TearsDown run.ledger departure (run.tearDown departure) [] :=
  .going rfl (List.nil_append _) .done nofun

theorem removing_of_phase {left : List Resource} {channel : Option Channel} {retried : Bool}
    (phase : run.phase = .removing left channel retried departure) :
    run.removing = true := by
  simp [removing, phase]

theorem removing_of_departed (gone : run.departed departure = true) : run.removing = false := by
  cases departure <;> cases phase : run.phase <;> simp_all [departed, removing]

theorem goes_on_of_removing (removing : run.removing = true) (setupRetry : Nat) (pick : Pick)
    (s : Stage) : run.step setupRetry pick s ≠ none := by
  unfold TapRun.removing at removing
  split at removing
  · rename_i left _ _ _ phase
    cases left <;> simp [step, phase]
  · cases removing

private theorem departed_step (gone : run.departed departure = true)
    (stepped : run.step setupRetry pick s = some (next, t)) :
    next.departed departure = true ∧ next.ledger = run.ledger ∧ s.Aloof t := by
  cases step_of_step stepped with
  | waits phase steady => exact ⟨gone, rfl, steady.toAloof⟩
  | resumes phase steady =>
      cases departure with
      | pause => exact ⟨rfl, rfl, steady.toAloof⟩
      | leave action => simp [departed, phase] at gone
  | stops phase =>
      cases departure with
      | pause => simp [departed, phase] at gone
      | leave action =>
          refine ⟨?_, rfl, (Stage.Steady.refl s).toAloof⟩
          simpa [departed, phase] using gone
  | establishes phase | opens phase | creates phase | consumes phase | findsNoChannel phase
  | isRefused phase | reports phase | forwards phase | leaves phase | removes phase
  | retries phase | givesUp phase | departs phase =>
      cases departure <;> simp [departed, phase] at gone

private theorem depart_spec (left : run.depart setupRetry s departure = (next, t)) :
    next.departed departure = true ∧ next.ledger = [] ∧ s.Aloof t := by
  cases departure with
  | pause =>
      cases left
      exact ⟨rfl, rfl, Stage.aloof_stopReadings s run.consumers⟩
  | leave action =>
      cases left
      exact ⟨by simp [departed], rfl, (Stage.Steady.refl s).toAloof⟩

theorem step_of_removing {left : List Resource} {channel : Option Channel} {retried : Bool}
    (phase : run.phase = .removing left channel retried departure)
    (stepped : run.step setupRetry pick s = some (next, t)) :
    (∃ resource rest, left = resource :: rest ∧
      run.removeStep s resource rest channel retried departure = (next, t)) ∨
    left = [] ∧ run.depart setupRetry s departure = (next, t) := by
  cases left with
  | nil =>
      simp only [step, phase] at stepped
      exact .inr ⟨rfl, Option.some.inj stepped⟩
  | cons resource rest =>
      simp only [step, phase] at stepped
      exact .inl ⟨resource, rest, rfl, Option.some.inj stepped⟩

theorem removeStep_cases {resource : Resource} {left : List Resource} {channel : Option Channel}
    {retried : Bool} {result : Except BrokerError Unit} {after : Option Channel} {u : Stage}
    (removed : remove s channel resource = (result, after, u))
    (stepped : run.removeStep s resource left channel retried departure = (next, t)) :
    (∃ entry, t = u.log entry) ∧
    ((result = .ok () ∧ next = { run with phase := .removing left after false departure }) ∨
      ∃ e, result = .error e ∧
        ((e.isStaleChannel = true ∧ retried = false ∧
          next = { run with phase := .removing (resource :: left) none true departure }) ∨
        ((e.isStaleChannel = false ∨ retried = true) ∧
          next = { run with phase := .removing left none false departure }))) := by
  unfold removeStep at stepped
  rw [removed] at stepped
  cases result with
  | ok _ =>
      cases stepped
      exact ⟨⟨_, rfl⟩, .inl ⟨rfl, rfl⟩⟩
  | error e =>
      cases again : e.isStaleChannel && !retried with
      | true =>
          simp only [again, if_true] at stepped
          cases stepped
          obtain ⟨stale, first⟩ := Bool.and_eq_true_iff.mp again
          exact ⟨⟨_, rfl⟩, .inr ⟨e, rfl, .inl ⟨stale, by simpa using first, rfl⟩⟩⟩
      | false =>
          simp only [again, Bool.false_eq_true, if_false] at stepped
          cases stepped
          refine ⟨⟨_, rfl⟩, .inr ⟨e, rfl, .inr ⟨?_, rfl⟩⟩⟩
          simpa using Bool.and_eq_false_iff.mp again

private theorem tearsDown_first {handled left : List Resource} {resource : Resource}
    {channel : Option Channel}
    (phase : run.phase = .removing (resource :: left) channel false departure)
    (split : handled ++ resource :: left = Resource.teardownOrder ledger)
    (walk : Walk none handled told (channel.map (·.number)))
    (isOpen : ∀ c, channel = some c → c.closed = false)
    (removed : run.removeStep s resource left channel false departure = (next, t)) :
    ∃ more, s.Uses more t ∧ TearsDown ledger departure next (told ++ more) ∧
      next.trials < run.trials := by
  cases tried : remove s channel resource with
  | mk result rest =>
      obtain ⟨after, u⟩ := rest
      obtain ⟨more, number, uses, attempt, spared⟩ := attempt_of_remove isOpen tried
      rw [List.append_cons] at split
      obtain ⟨⟨entry, rfl⟩, ⟨rfl, rfl⟩ | ⟨e, rfl, ⟨stale, _, rfl⟩ | ⟨final, rfl⟩⟩⟩ :=
        removeStep_cases tried removed
      · obtain ⟨rfl, stillOpen⟩ := spared rfl
        refine ⟨more, uses.log entry,
          .going rfl split (walk.snoc (.once attempt nofun)) stillOpen, ?_⟩
        simp [trials, phase]
      · cases attempt.of_error
        rw [← List.append_cons] at split
        refine ⟨more, uses.log entry, .again rfl split walk attempt stale, ?_⟩
        simp only [trials, phase, List.length_cons, Bool.toNat_true, Bool.toNat_false]
        omega
      · cases attempt.of_error
        have fresh : ∀ other, (.error e : Except BrokerError Unit) = .error other →
            other.isStaleChannel = false := by
          rintro _ ⟨⟩
          exact final.resolve_right Bool.false_ne_true
        refine ⟨more, uses.log entry,
          .going rfl split (walk.snoc (.once attempt fresh)) nofun, ?_⟩
        simp [trials, phase]

private theorem tearsDown_second {handled left : List Resource} {resource : Resource}
    {number : Option Nat} {e : BrokerError} {before : List Event}
    (phase : run.phase = .removing (resource :: left) none true departure)
    (split : handled ++ resource :: left = Resource.teardownOrder ledger)
    (walk : Walk none handled told number) (first : Attempt resource number (.error e) before none)
    (stale : e.isStaleChannel = true)
    (removed : run.removeStep s resource left none true departure = (next, t)) :
    ∃ more, s.Uses more t ∧ TearsDown ledger departure next (told ++ before ++ more) ∧
      next.trials < run.trials := by
  cases tried : remove s none resource with
  | mk result rest =>
      obtain ⟨after, u⟩ := rest
      have fresh : ∀ c : Channel, none = some c → c.closed = false := nofun
      obtain ⟨more, number, uses, second, spared⟩ := attempt_of_remove fresh tried
      have walked := walk.snoc (.twice first stale second)
      rw [List.append_cons] at split
      rw [← List.append_assoc] at walked
      obtain ⟨⟨entry, rfl⟩, ⟨rfl, rfl⟩ | ⟨_, rfl, ⟨_, again, _⟩ | ⟨_, rfl⟩⟩⟩ :=
        removeStep_cases tried removed
      · obtain ⟨rfl, stillOpen⟩ := spared rfl
        refine ⟨more, uses.log entry, .going rfl split walked stillOpen, ?_⟩
        simp only [trials, phase, List.length_cons, Bool.toNat_true, Bool.toNat_false]
        omega
      · cases again
      · cases second.of_error
        refine ⟨more, uses.log entry, .going rfl split walked nofun, ?_⟩
        simp only [trials, phase, List.length_cons, Bool.toNat_true, Bool.toNat_false]
        omega

theorem TearsDown.step (tearsDown : TearsDown ledger departure run told)
    (stepped : run.step setupRetry pick s = some (next, t)) :
    ∃ more, s.Uses more t ∧ TearsDown ledger departure next (told ++ more) ∧
      (next.removing = true → run.removing = true ∧ next.trials < run.trials) := by
  cases tearsDown with
  | going phase split walk isOpen =>
      have removing := removing_of_phase phase
      rcases step_of_removing phase stepped with ⟨resource, rest, rfl, removed⟩ | ⟨rfl, departs⟩
      · obtain ⟨more, uses, further, fewer⟩ := tearsDown_first phase split walk isOpen removed
        exact ⟨more, uses, further, fun _ => ⟨removing, fewer⟩⟩
      · obtain ⟨gone, empty, aloof⟩ := depart_spec departs
        rw [List.append_nil] at split
        refine ⟨[], Stage.uses_of_aloof aloof, ?_, fun still => ?_⟩
        · rw [List.append_nil]
          exact .ended gone empty (split ▸ walk)
        · cases still.symm.trans (removing_of_departed gone)
  | again phase split walk first stale =>
      have removing := removing_of_phase phase
      rcases step_of_removing phase stepped with ⟨_, _, ⟨⟩, removed⟩ | ⟨nothing, _⟩
      · obtain ⟨more, uses, further, fewer⟩ :=
          tearsDown_second phase split walk first stale removed
        exact ⟨more, uses, further, fun _ => ⟨removing, fewer⟩⟩
      · cases nothing
  | ended gone empty walk =>
      obtain ⟨goneToo, same, aloof⟩ := departed_step gone stepped
      refine ⟨[], Stage.uses_of_aloof aloof, ?_, fun still => ?_⟩
      · rw [List.append_nil]
        exact .ended goneToo (same.trans empty) walk
      · cases still.symm.trans (removing_of_departed goneToo)

theorem TearsDown.congr (tearsDown : TearsDown ledger departure run told)
    (phase : next.phase = run.phase) (same : next.ledger = run.ledger) :
    TearsDown ledger departure next told := by
  cases tearsDown with
  | going removing split walk isOpen => exact .going (phase.trans removing) split walk isOpen
  | again removing split walk first stale =>
      exact .again (phase.trans removing) split walk first stale
  | ended gone empty walk =>
      refine .ended ?_ (same.trans empty) walk
      unfold departed at gone ⊢
      rw [phase]
      exact gone

end TapRun

def Turn.isWorker : Turn → Bool
  | worker _ => true
  | merge | elsewhere _ _ => false

namespace Run

variable {setupRetry : Nat} {run : TapRun} {next : Run} {s t : Stage} {ledger : List Resource}
variable {departure : Departure} {told : List Event}

theorem tap_take {turn : Turn} (taken : take turn (.tap setupRetry run, s) = some (next, t)) :
    (∃ pick after, turn = .worker pick ∧ next = .tap setupRetry after ∧
      run.step setupRetry pick s = some (after, t)) ∨
    turn.isWorker = false ∧ s.Tells (·.isOnChannel = false) t ∧
      ∃ fanIn, next = .tap setupRetry { run with fanIn := fanIn } := by
  cases turn with
  | worker pick =>
      obtain ⟨⟨after, stage⟩, stepped, same⟩ := Option.map_eq_some_iff.mp taken
      cases same
      exact .inl ⟨pick, after, rfl, rfl, stepped⟩
  | merge =>
      obtain ⟨fanIn, _, advancing⟩ := Option.bind_eq_some_iff.mp taken
      obtain ⟨⟨after, stage⟩, advanced, same⟩ := Option.map_eq_some_iff.mp advancing
      cases same
      exact .inr ⟨rfl, (FanIn.aloof_advance advanced).tells, _, rfl⟩
  | elsewhere stage events =>
      cases taken
      refine .inr ⟨rfl, ⟨_, rfl, fun e member => ?_⟩, run.fanIn, rfl⟩
      simpa using (List.mem_filter.mp member).2

theorem tells_of_take {turn : Turn} (other : turn.isWorker = false)
    (taken : take turn (.tap setupRetry run, s) = some (next, t)) :
    s.Tells (·.isOnChannel = false) t := by
  rcases tap_take taken with ⟨_, _, rfl, _⟩ | ⟨_, tells, _⟩
  · cases other
  · exact tells

theorem tap_play {P : List Turn → TapRun → Stage → Prop} {turns : List Turn}
    (works : ∀ {done pick run s next t}, P done run s →
      run.step setupRetry pick s = some (next, t) → P (done ++ [.worker pick]) next t)
    (others : ∀ {done turn run s fanIn t}, P done run s → turn.isWorker = false →
      take turn (.tap setupRetry run, s) = some (.tap setupRetry { run with fanIn := fanIn }, t) →
      P (done ++ [turn]) { run with fanIn := fanIn } t)
    (holds : P [] run s)
    (played : play take turns (.tap setupRetry run, s) = some (next, t)) :
    ∃ after, next = .tap setupRetry after ∧ P turns after t := by
  refine play_history
    (P := fun done (state : Run × Stage) => ∃ r, state.1 = .tap setupRetry r ∧ P done r state.2)
    ?_ ⟨run, rfl, holds⟩ played
  rintro done turn ⟨_, before⟩ ⟨_, after⟩ _ ⟨r, rfl, standing⟩ taken
  rcases tap_take taken with ⟨pick, between, rfl, rfl, stepped⟩ | ⟨other, _, fanIn, rfl⟩
  · exact ⟨between, rfl, works standing stepped⟩
  · exact ⟨_, rfl, others standing other taken⟩

theorem tearsDown_play {turns : List Turn} (tearsDown : TapRun.TearsDown ledger departure run told)
    (played : play take turns (.tap setupRetry run, s) = some (next, t)) :
    ∃ after, next = .tap setupRetry after ∧ ∃ more, s.Uses more t ∧
      TapRun.TearsDown ledger departure after (told ++ more) ∧
      (after.removing = true →
        run.removing = true ∧ turns.countP Turn.isWorker + after.trials ≤ run.trials) := by
  refine tap_play (P := fun done after t => ∃ more, s.Uses more t ∧
    TapRun.TearsDown ledger departure after (told ++ more) ∧ (after.removing = true →
      run.removing = true ∧ done.countP Turn.isWorker + after.trials ≤ run.trials)) ?_ ?_ ?_ played
  · intro done pick between u following v before stepped
    obtain ⟨more, uses, standing, few⟩ := before
    obtain ⟨now, usesNow, further, fewer⟩ := standing.step stepped
    refine ⟨more ++ now, uses.trans usesNow, ?_, fun removing => ?_⟩
    · rw [← List.append_assoc]
      exact further
    · obtain ⟨before, less⟩ := fewer removing
      obtain ⟨first, count⟩ := few before
      have one : [Turn.worker pick].countP Turn.isWorker = 1 := rfl
      rw [List.countP_append]
      exact ⟨first, by omega⟩
  · intro done turn between u fanIn v before other taken
    obtain ⟨more, uses, standing, few⟩ := before
    refine ⟨more, uses.tells (tells_of_take other taken), standing.congr rfl rfl, fun removing => ?_⟩
    rw [List.countP_append, List.countP_singleton, if_neg (by simp [other])]
    exact few removing
  · refine ⟨[], Stage.uses_nothing (.refl _), ?_, fun removing => ⟨removing, ?_⟩⟩
    · rw [List.append_nil]
      exact tearsDown
    · simp

end Run

end ExchangeTap
