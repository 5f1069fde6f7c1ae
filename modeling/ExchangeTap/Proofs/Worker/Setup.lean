import ExchangeTap.Proofs.Worker.Chapters
import ExchangeTap.Proofs.Worker.Teardown

namespace ExchangeTap

/-- The broker refuses what was asked for. -/
def Event.isRefusal : Event → Bool
  | channelRefused _ | executed _ _ (.error _) | rebuffed _ _ => true
  | _ => false

def Resource.makes (number : Nat) (resources : List Resource) : List Event :=
  resources.map fun resource => .executed number resource.creation (.ok ())

/-- A tap that is established, with the number of its channel. -/
structure Tapped where
  plan : TapPlan
  channel : Nat

namespace Tapped

def told (tap : Tapped) : List Event :=
  .channelOpened tap.channel ::
    (Resource.makes tap.channel tap.plan.resources ++
      [.executed tap.channel tap.plan.consumption (.ok ())])

def bindings (taps : List Tapped) : List Binding :=
  taps.map (·.plan.binding)

def resources (taps : List Tapped) : List Resource :=
  taps.flatMap (·.plan.resources)

end Tapped

open Tapped (bindings resources)
open Resource (makes)

/-- A binding is refused, after some resources were made for it. -/
inductive Refused (binding : Binding) (e : BrokerError) : List Resource → List Event → Prop where
  | unopened : Refused binding e [] [.channelRefused e]
  | stopped (suffix : String) (number : Nat) {made lacking : List Resource}
      (split : made ++ lacking = TapPlan.resources ⟨binding, suffix⟩) :
      Refused binding e made (.channelOpened number ::
        (makes number made ++ [.executed number (TapPlan.demand ⟨binding, suffix⟩ lacking) (.error e)]))

/-- The end of a setup: either all bindings are tapped, or the first one that is not was refused. -/
inductive SetUp (all : List Binding) : Option TapError → List Resource → List Event → Prop where
  | whole {taps : List Tapped} (split : bindings taps = all) :
      SetUp all none (resources taps) (taps.flatMap Tapped.told)
  | refused {taps : List Tapped} {binding : Binding} {left : List Binding} {e : BrokerError}
      {made : List Resource} {refusal : List Event} (split : bindings taps ++ binding :: left = all)
      (refused : Refused binding e made refusal) :
      SetUp all (some (.setup binding.exchange e)) (resources taps ++ made)
        (taps.flatMap Tapped.told ++ refusal)

theorem SetUp.of_none {all : List Binding} {ledger : List Resource} {told : List Event}
    (setUp : SetUp all none ledger told) :
    ∃ taps, bindings taps = all ∧ told = taps.flatMap Tapped.told := by
  cases setUp with
  | whole split => exact ⟨_, split, rfl⟩

theorem SetUp.of_some {all : List Binding} {error : TapError} {ledger : List Resource}
    {told : List Event} (setUp : SetUp all (some error) ledger told) :
    ∃ taps binding left e made refusal, bindings taps ++ binding :: left = all ∧
      Refused binding e made refusal ∧ error = .setup binding.exchange e ∧
      ledger = resources taps ++ made ∧ told = taps.flatMap Tapped.told ++ refusal := by
  cases setUp with
  | refused split refused => exact ⟨_, _, _, _, _, _, split, refused, rfl, rfl, rfl⟩

namespace TapRun

/-- Since an epoch began, this is what channels were used for. -/
inductive Told (all : List Binding) (run : TapRun) : List Event → Prop where
  | opening {taps : List Tapped} {left : List Binding} (phase : run.phase = .opening left)
      (split : bindings taps ++ left = all) (ledger : run.ledger = resources taps) :
      Told all run (taps.flatMap Tapped.told)
  | creating {taps : List Tapped} {plan : TapPlan} {channel : Channel}
      {made lacking : List Resource} {left : List Binding}
      (phase : run.phase = .creating plan channel lacking left)
      (split : bindings taps ++ plan.binding :: left = all)
      (parts : made ++ lacking = plan.resources) (isOpen : channel.closed = false)
      (ledger : run.ledger = resources taps ++ made) :
      Told all run
        (taps.flatMap Tapped.told ++ .channelOpened channel.number :: makes channel.number made)
  | reporting {error : TapError} {told : List Event} (phase : run.phase = .reporting error)
      (setUp : SetUp all (some error) run.ledger told) : Told all run told
  | forwarding {forward : Forward} {told : List Event} (phase : run.phase = .forwarding forward)
      (setUp : SetUp all none run.ledger told) : Told all run told
  | tearing {error : Option TapError} {departure : Departure} {ledger : List Resource}
      {told removals : List Event} (setUp : SetUp all error ledger told)
      (tearsDown : TearsDown ledger departure run removals) : Told all run (told ++ removals)

variable {setupRetry : Nat} {pick : Pick} {all : List Binding} {run next : TapRun} {s t : Stage}
variable {told : List Event}

theorem told_start (all : List Binding) : Told all (start all) [] :=
  @Told.opening all (start all) [] all rfl rfl rfl

theorem Told.congr (before : Told all run told) (phase : next.phase = run.phase)
    (ledger : next.ledger = run.ledger) : Told all next told := by
  cases before with
  | opening standing split same => exact .opening (phase.trans standing) split (ledger.trans same)
  | creating standing split parts isOpen same =>
      exact .creating (phase.trans standing) split parts isOpen (ledger.trans same)
  | reporting standing setUp => exact .reporting (phase.trans standing) (ledger ▸ setUp)
  | forwarding standing setUp => exact .forwarding (phase.trans standing) (ledger ▸ setUp)
  | tearing setUp tearsDown => exact .tearing setUp (tearsDown.congr phase ledger)

private theorem told_tearDown {error : Option TapError} (departure : Departure)
    (setUp : SetUp all error run.ledger told) : Told all (run.tearDown departure) told := by
  rw [← List.append_nil told]
  exact .tearing setUp (tearsDown_tearDown run departure)

private theorem told_opening {taps : List Tapped} {left : List Binding} (phase : run.phase = .opening left)
    (split : bindings taps ++ left = all) (ledger : run.ledger = resources taps)
    (stepped : run.step setupRetry pick s = some (next, t)) :
    ∃ more, s.Uses more t ∧ Told all next (taps.flatMap Tapped.told ++ more) := by
  cases left with
  | nil =>
      simp only [step, phase] at stepped
      cases stepped
      rw [List.append_nil] at split
      refine ⟨[], Stage.uses_of_aloof (Stage.steady_log s _).toAloof, ?_⟩
      rw [List.append_nil]
      refine .forwarding rfl ?_
      rw [ledger]
      exact .whole split
  | cons binding left =>
      simp only [step, phase] at stepped
      split at stepped <;> rename_i opened <;> cases stepped
      · rename_i e _
        have refused := SetUp.refused split (@Refused.unopened binding e)
        rw [List.append_nil, ← ledger] at refused
        exact ⟨_, (Stage.uses_unopened opened).log _, .reporting rfl refused⟩
      · obtain ⟨uses, isOpen⟩ := Stage.uses_opened opened
        refine ⟨_, uses.aloof (Stage.steady_mint _).toAloof, ?_⟩
        refine @Told.creating all _ taps _ _ [] _ left rfl split rfl isOpen ?_
        rw [List.append_nil]
        exact ledger

theorem told_refused {taps : List Tapped} {plan : TapPlan} {channel after : Channel}
    {made lacking : List Resource} {left : List Binding} {e : BrokerError} {u : Stage}
    (split : bindings taps ++ plan.binding :: left = all)
    (parts : made ++ lacking = plan.resources) (isOpen : channel.closed = false)
    (ledger : run.ledger = resources taps ++ made)
    (executed : s.execute channel (plan.demand lacking) = (.error e, after, u)) :
    ∃ more, s.Uses more (run.fail plan.binding e u).2 ∧
      Told all (run.fail plan.binding e u).1 (taps.flatMap Tapped.told ++
        .channelOpened channel.number :: makes channel.number made ++ more) := by
  have refused := SetUp.refused split
    (@Refused.stopped plan.binding e plan.suffix channel.number _ lacking parts)
  rw [← ledger] at refused
  refine ⟨_, (Stage.uses_executed isOpen executed).log _, ?_⟩
  rw [List.append_assoc, List.cons_append]
  exact .reporting rfl refused

private theorem told_creating {taps : List Tapped} {plan : TapPlan} {channel : Channel}
    {made lacking : List Resource} {left : List Binding}
    (phase : run.phase = .creating plan channel lacking left)
    (split : bindings taps ++ plan.binding :: left = all)
    (parts : made ++ lacking = plan.resources) (isOpen : channel.closed = false)
    (ledger : run.ledger = resources taps ++ made)
    (stepped : run.step setupRetry pick s = some (next, t)) :
    ∃ more, s.Uses more t ∧ Told all next (taps.flatMap Tapped.told ++
      .channelOpened channel.number :: makes channel.number made ++ more) := by
  cases lacking with
  | nil =>
      simp only [step, phase] at stepped
      split at stepped <;> rename_i executed <;> cases stepped
      · exact told_refused split parts isOpen ledger executed
      · rw [List.append_nil] at parts
        -- the tap joins those that are established
        refine ⟨_, (Stage.uses_executed isOpen executed).log _, ?_⟩
        have bound : bindings (taps ++ [⟨plan, channel.number⟩]) ++ left = all := by
          simpa [Tapped.bindings] using split
        have owned : run.ledger = resources (taps ++ [⟨plan, channel.number⟩]) := by
          simpa [Tapped.resources, parts] using ledger
        have used : (taps ++ [Tapped.mk plan channel.number]).flatMap Tapped.told =
            taps.flatMap Tapped.told ++ .channelOpened channel.number ::
              makes channel.number made ++ [.executed channel.number plan.consumption (.ok ())] := by
          simp [Tapped.told, parts]
        rw [← used]
        exact .opening rfl bound owned
  | cons resource lacking =>
      simp only [step, phase] at stepped
      split at stepped <;> rename_i executed <;> cases stepped
      · exact told_refused split parts isOpen ledger executed
      · have same := (Stage.execute_ok executed).2.1
        rw [List.append_cons] at parts
        rw [same]
        refine ⟨_, Stage.uses_executed isOpen executed, ?_⟩
        rw [List.append_assoc, List.cons_append]
        have grown : makes channel.number (made ++ [resource]) = makes channel.number made ++
            [.executed channel.number resource.creation (.ok ())] := List.map_append
        rw [← grown]
        refine .creating rfl split parts isOpen ?_
        rw [← List.append_assoc, ← ledger]

theorem Told.step (before : Told all run told)
    (stepped : run.step setupRetry pick s = some (next, t)) :
    ∃ more, s.Uses more t ∧ Told all next (told ++ more) := by
  cases before with
  | opening phase split ledger => exact told_opening phase split ledger stepped
  | creating phase split parts isOpen ledger =>
      exact told_creating phase split parts isOpen ledger stepped
  | reporting phase setUp =>
      simp only [TapRun.step, phase] at stepped
      split at stepped <;> rename_i handed <;> cases stepped
      · refine ⟨[], Stage.uses_nothing (.refl s), ?_⟩
        rw [List.append_nil]
        exact told_tearDown .pause setUp
      · refine ⟨[], Stage.uses_of_aloof (Stage.steady_hand handed).toAloof, ?_⟩
        rw [List.append_nil]
        exact told_tearDown .pause setUp
  | forwarding phase setUp =>
      simp only [TapRun.step, phase] at stepped
      split at stepped
      · cases stepped
      · split at stepped <;> rename_i forwarded <;> cases stepped <;>
          have aloof := (Forward.steady_step forwarded).toAloof
        all_goals
          refine ⟨[], Stage.uses_of_aloof aloof, ?_⟩
          rw [List.append_nil]
        · exact .forwarding rfl setUp
        · exact told_tearDown _ setUp
  | tearing setUp tearsDown =>
      obtain ⟨more, uses, further, _⟩ := tearsDown.step stepped
      refine ⟨more, uses, ?_⟩
      rw [List.append_assoc]
      exact .tearing setUp further

end TapRun

/-! What reaches the broker when nothing is refused. -/

namespace Resource

variable {resource : Resource} {left : List Resource} {channel next last : Option Nat}
variable {told : List Event}

theorem Handling.operations (handling : Handling resource channel told next)
    (accepted : ∀ e ∈ told, e.isRefusal = false) :
    told.filterMap Event.operation? = [resource.removal] := by
  cases handling with
  | once attempt =>
      cases attempt with
      | unopened => cases accepted _ List.mem_cons_self
      | opened | held => rfl
  | twice first =>
      cases first with
      | unopened | held => cases accepted _ List.mem_cons_self
      | opened => cases accepted _ (List.mem_cons_of_mem _ List.mem_cons_self)

theorem Walk.operations (walk : Walk channel left told last)
    (accepted : ∀ e ∈ told, e.isRefusal = false) :
    told.filterMap Event.operation? = left.map removal := by
  induction walk with
  | done => rfl
  | handles handling _ ih =>
      obtain ⟨now, later⟩ := List.forall_mem_append.mp accepted
      rw [List.filterMap_append, handling.operations now, ih later]
      rfl

end Resource

theorem Tapped.operations (taps : List Tapped) :
    (taps.flatMap told).filterMap Event.operation? =
      (taps.map (·.plan)).flatMap fun plan =>
        plan.resources.map Resource.creation ++ [plan.consumption] := by
  induction taps with
  | nil => rfl
  | cons tap rest ih =>
      rw [List.flatMap_cons, List.filterMap_append, ih]
      rfl

theorem Refused.refusal {binding : Binding} {e : BrokerError} {made : List Resource}
    {refusal : List Event} (refused : Refused binding e made refusal) :
    ∃ event ∈ refusal, event.isRefusal = true := by
  cases refused with
  | unopened => exact ⟨_, List.mem_cons_self, rfl⟩
  | stopped suffix number =>
      refine ⟨_, List.mem_cons_of_mem _ (List.mem_append_right _ List.mem_cons_self), rfl⟩

namespace Run

variable {setupRetry : Nat} {all : List Binding} {run : TapRun} {next : Run} {s t : Stage}
variable {told : List Event}

theorem told_play {turns : List Turn} (before : TapRun.Told all run told)
    (played : play take turns (.tap setupRetry run, s) = some (next, t)) :
    ∃ after, next = .tap setupRetry after ∧ ∃ more, s.Uses more t ∧
      TapRun.Told all after (told ++ more) := by
  refine tap_play (P := fun _ after t => ∃ more, s.Uses more t ∧ TapRun.Told all after (told ++ more))
    ?_ ?_ ⟨[], Stage.uses_nothing (.refl _), ?_⟩ played
  · intro _ pick between u following v before stepped
    obtain ⟨more, uses, standing⟩ := before
    obtain ⟨now, usesNow, further⟩ := standing.step stepped
    refine ⟨more ++ now, uses.trans usesNow, ?_⟩
    rw [← List.append_assoc]
    exact further
  · intro _ turn between u fanIn v before other taken
    obtain ⟨more, uses, standing⟩ := before
    exact ⟨more, uses.tells (tells_of_take other taken), standing.congr rfl rfl⟩
  · rw [List.append_nil]
    exact before

private theorem told_of_returned {number : Nat} {turns : List Turn} {action : Action}
    (played : play take turns ((Worker.tap all setupRetry).start number, s) = some (next, t))
    (returned : next.result? = some action) :
    ∃ error ledger setup removals last, s.Uses (setup ++ removals) t ∧
      SetUp all error ledger setup ∧
      Resource.Walk none (Resource.teardownOrder ledger) removals last := by
  obtain ⟨after, rfl, told, uses, standing⟩ := told_play (TapRun.told_start all) played
  obtain ⟨phase, ledger, consumers, fanIn, channels⟩ := after
  cases phase with
  | finished _ =>
      cases standing with
      | opening other | creating other | reporting other | forwarding other => cases other
      | tearing setUp tearsDown =>
          cases tearsDown with
          | going other | again other => cases other
          | ended _ _ walk => exact ⟨_, _, _, _, _, uses, setUp, walk⟩
  | _ => cases returned

/-- The objects of a ledger are removed in their order, the queue side first and each side backwards,
with one attempt at each and a second one after a stale channel. Nothing ends that early, and it takes no
more than two turns of the worker for each object. When nothing is refused in an epoch, its teardown is
thus the mirror image of its setup. -/
theorem torn_down_in_order {setupRetry : Nat} :
    (∀ {run : TapRun} {departure s turns next t},
      play take turns (.tap setupRetry (run.tearDown departure), s) = some (next, t) →
      ∃ after, next = .tap setupRetry after ∧
        (after.removing = true → turns.countP Turn.isWorker ≤ 2 * run.ledger.length ∧
          ∀ pick, after.step setupRetry pick t ≠ none) ∧
        (after.removing = false → after.ledger = [] ∧ ∃ events last, s.Uses events t ∧
          Resource.Walk none ((run.ledger.filter Resource.isQueueSide).reverse ++
            (run.ledger.filter (!Resource.isQueueSide ·)).reverse) events last)) ∧
    ∀ {all number s turns next t action events},
      play take turns ((Worker.tap all setupRetry).start number, s) = some (next, t) →
      next.result? = some action → s.Uses events t → (∀ e ∈ events, e.isRefusal = false) →
      ∃ plans : List TapPlan, plans.map (·.binding) = all ∧
        events.filterMap Event.operation? =
          (plans.flatMap fun plan =>
            plan.resources.map Resource.creation ++ [plan.consumption]) ++
          (((plans.flatMap (·.resources)).filter Resource.isQueueSide).reverse ++
            ((plans.flatMap (·.resources)).filter (!Resource.isQueueSide ·)).reverse).map
              Resource.removal := by
  refine ⟨fun {run departure s turns next t} played => ?_,
    fun {all number s turns next t action events} played returned uses accepted => ?_⟩
  · obtain ⟨after, rfl, events, uses, tearsDown, few⟩ :=
      tearsDown_play (TapRun.tearsDown_tearDown run departure) played
    refine ⟨after, rfl, fun removing => ⟨?_, ?_⟩, fun gone => ?_⟩
    · have count := (few removing).2
      have trials : (run.tearDown departure).trials = 2 * run.ledger.length :=
        congrArg (2 * ·) (Resource.length_teardownOrder run.ledger)
      omega
    · exact fun pick => TapRun.goes_on_of_removing removing setupRetry pick t
    · cases tearsDown with
      | going phase | again phase => simp [TapRun.removing, phase] at gone
      | ended _ empty walk =>
          rw [Resource.teardownOrder_eq] at walk
          exact ⟨empty, events, _, uses, walk⟩
  · obtain ⟨error, ledger, setup, removals, last, told, setUp, walk⟩ :=
      told_of_returned played returned
    obtain rfl : setup ++ removals = events := told.eq uses
    obtain ⟨before, after⟩ := List.forall_mem_append.mp accepted
    cases setUp with
    | refused _ refused =>
        obtain ⟨event, member, refusal⟩ := refused.refusal
        cases refusal.symm.trans (before event (List.mem_append_right _ member))
    | @whole taps split =>
        have plans : resources taps = (taps.map (·.plan)).flatMap (·.resources) := by
          rw [Tapped.resources, List.flatMap_map]
        refine ⟨taps.map (·.plan), ?_, ?_⟩
        · rw [List.map_map]
          exact split
        · rw [List.filterMap_append, Tapped.operations, walk.operations after,
            Resource.teardownOrder_eq, plans]

/-- The first teardown meets a stale channel, a missing object and a channel that cannot be opened. In the
second one nothing is refused. -/
theorem torn_down_in_order_past_refusals :
    let broker := { Broker.initial with
      refusals := [⟨some .unbindQueue, none, 0, 1, Broker.channelClosed⟩,
        ⟨some .deleteQueue, none, 0, 1, .notFound "queue"⟩]
      refusedChannels := [none, none, some Broker.channelRefused] }
    let s := Stage.initial broker 1 fun _ => "suffix"
    let plan : TapPlan := ⟨⟨"orders", "#"⟩, "suffix"⟩
    let run : TapRun := ⟨.forwarding .waiting, plan.resources, [], none, []⟩
    let calm := { Stage.initial .initial 1 fun _ => "suffix" with
      control.slot := some .shutdown }
    let worker := fun n => List.replicate n (Turn.worker .first)
    (∃ after t, play take (worker 6) (.tap 0 (run.tearDown (.leave .stop)), s) =
        some (.tap 0 after, t) ∧ after.ledger = [] ∧ ∃ events last, events.length = 8 ∧
      Resource.Walk none ((run.ledger.filter Resource.isQueueSide).reverse ++
        (run.ledger.filter (!Resource.isQueueSide ·)).reverse) events last) ∧
    ∃ next t, play take (worker 7 ++ [.merge, .merge] ++ worker 6 ++ [.merge] ++ worker 1)
        ((Worker.tap [⟨"orders", "#"⟩] 0).start 0, calm) = some (next, t) ∧
      next.result? = some .stop ∧
      ∃ plans : List TapPlan, plans.map (·.binding) = [⟨"orders", "#"⟩] ∧
        (Journal.onChannel t.journal).filterMap Event.operation? =
          (plans.flatMap fun plan =>
            plan.resources.map Resource.creation ++ [plan.consumption]) ++
          (((plans.flatMap (·.resources)).filter Resource.isQueueSide).reverse ++
            ((plans.flatMap (·.resources)).filter (!Resource.isQueueSide ·)).reverse).map
              Resource.removal := by
  intro broker s plan run calm worker
  refine ⟨?_, ?_⟩
  · have ran : (play take (worker 6) (.tap 0 (run.tearDown (.leave .stop)), s)).map
        (fun state => ((Journal.onChannel state.2.journal).length, match state.1 with
          | .tap _ run => run.removing
          | _ => true)) = some (8, false) := rfl
    obtain ⟨⟨next, t⟩, played, same⟩ := Option.map_eq_some_iff.mp ran
    obtain ⟨after, rfl, _, walked⟩ := torn_down_in_order.1 played
    obtain ⟨length, gone⟩ := Prod.mk.inj same
    obtain ⟨empty, events, last, uses, walk⟩ := walked gone
    have whole : Journal.onChannel t.journal = events := uses
    exact ⟨after, t, played, empty, events, last, whole ▸ length, walk⟩
  · have ran : (play take (worker 7 ++ [.merge, .merge] ++ worker 6 ++ [.merge] ++ worker 1)
        ((Worker.tap [⟨"orders", "#"⟩] 0).start 0, calm)).map
        (fun state => (state.1.result?, (Journal.onChannel state.2.journal).all (!·.isRefusal))) =
          some (some .stop, true) := rfl
    obtain ⟨⟨next, t⟩, played, same⟩ := Option.map_eq_some_iff.mp ran
    obtain ⟨returned, calmly⟩ := Prod.mk.inj same
    have accepted : ∀ e ∈ Journal.onChannel t.journal, e.isRefusal = false := by
      simpa using calmly
    exact ⟨next, t, played, returned, torn_down_in_order.2 played returned rfl accepted⟩

end Run

end ExchangeTap
