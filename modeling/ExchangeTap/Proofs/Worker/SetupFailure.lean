import ExchangeTap.Proofs.Worker.Attendance
import ExchangeTap.Proofs.Worker.Forwarding
import ExchangeTap.Proofs.Worker.Setup
import ExchangeTap.Proofs.Worker.Silence

namespace ExchangeTap

/-- Something is refused before all bindings are tapped. -/
def Journal.FailsSetup (all : List Binding) (events : List Event) : Prop :=
  ∃ before e after, events = before ++ e :: after ∧ e.isRefusal = true ∧
    (Journal.consumed before).length < all.length

section Refusals

open Tapped (bindings resources)

variable {all : List Binding} {taps : List Tapped} {events : List Event}

private theorem accepted_makes (number : Nat) (made : List Resource) :
    ∀ e ∈ Resource.makes number made, e.isRefusal = false := by
  intro e member
  obtain ⟨_, _, rfl⟩ := List.mem_map.mp member
  rfl

private theorem accepted_told (taps : List Tapped) :
    ∀ e ∈ taps.flatMap Tapped.told, e.isRefusal = false := by
  intro e member
  obtain ⟨tap, _, among⟩ := List.mem_flatMap.mp member
  rcases List.mem_cons.mp among with rfl | later
  · rfl
  · rcases List.mem_append.mp later with made | last
    · exact accepted_makes _ _ e made
    · cases List.mem_singleton.mp last
      rfl

private theorem consumed_told (taps : List Tapped) :
    (Journal.consumed (taps.flatMap Tapped.told)).length = taps.length := by
  induction taps with
  | nil => rfl
  | cons tap rest ih =>
      rw [List.flatMap_cons, Journal.consumed_append, List.length_append, ih]
      exact Nat.add_comm 1 _

private theorem accepted_not_fails (accepted : ∀ e ∈ events, e.isRefusal = false) :
    ¬Journal.FailsSetup all events := by
  rintro ⟨before, e, after, rfl, refusal, _⟩
  cases refusal.symm.trans (accepted e (List.mem_append_right _ List.mem_cons_self))

private theorem whole_not_fails (split : bindings taps = all) :
    ¬Journal.FailsSetup all (taps.flatMap Tapped.told ++ events) := by
  rintro ⟨before, e, after, same, refusal, early⟩
  have complete : taps.length = all.length := by
    rw [← split, Tapped.bindings, List.length_map]
  have inside : ∃ more, before = taps.flatMap Tapped.told ++ more := by
    rcases List.append_eq_append_iff.mp same with ⟨more, longer, _⟩ | ⟨more, shorter, rest⟩
    · exact ⟨more, longer⟩
    · cases more with
      | nil => exact ⟨[], by rw [List.append_nil, shorter, List.append_nil]⟩
      | cons first more =>
          cases (List.cons.inj rest).1
          have member : e ∈ taps.flatMap Tapped.told := by simp [shorter]
          cases refusal.symm.trans (accepted_told taps e member)
  obtain ⟨more, rfl⟩ := inside
  rw [Journal.consumed_append, List.length_append, consumed_told] at early
  omega

end Refusals

namespace Run

variable {setupRetry : Nat} {run last : TapRun} {next : Run} {s t : Stage} {turns : List Turn}

/-- A turn that the worker of a tap has in the course of other turns. -/
structure Moment (setupRetry : Nat) (start : Run × Stage) (turns : List Turn) where
  first : List Turn
  pick : Pick
  rest : List Turn
  run : TapRun
  stage : Stage
  split : turns = first ++ .worker pick :: rest
  reached : play take first start = some (.tap setupRetry run, stage)

namespace Moment

variable {start following : Run × Stage}

def after {turn : Turn} (m : Moment setupRetry following turns)
    (taken : take turn start = some following) : Moment setupRetry start (turn :: turns) :=
  ⟨turn :: m.first, m.pick, m.rest, m.run, m.stage, congrArg (turn :: ·) m.split, by
    rw [play_cons, taken]
    exact m.reached⟩

def later (m : Moment setupRetry start turns) {u : Stage}
    (stepped : m.run.step setupRetry m.pick m.stage = some (run, u))
    (further : Moment setupRetry (.tap setupRetry run, u) m.rest) :
    Moment setupRetry start turns :=
  ⟨m.first ++ .worker m.pick :: further.first, further.pick, further.rest, further.run,
    further.stage, by
      rw [List.append_assoc, List.cons_append, ← further.split]
      exact m.split, by
      have taken : take (.worker m.pick) (.tap setupRetry m.run, m.stage) =
          some (.tap setupRetry run, u) := Option.map_eq_some_iff.mpr ⟨_, stepped, rfl⟩
      rw [play_append, m.reached, Option.bind_some, play_cons, taken]
      exact further.reached⟩

private theorem exists_of_change {P : TapRun → Prop}
    (merging : ∀ {run : TapRun} {fanIn}, P { run with fanIn := fanIn } → P run) (before : ¬P run)
    (holds : P last)
    (played : play take turns (.tap setupRetry run, s) = some (.tap setupRetry last, t)) :
    ∃ (m : Moment setupRetry (.tap setupRetry run, s) turns) (next : TapRun) (u : Stage),
      ¬P m.run ∧ m.run.step setupRetry m.pick m.stage = some (next, u) ∧ P next ∧
      play take m.rest (.tap setupRetry next, u) = some (.tap setupRetry last, t) := by
  induction turns generalizing run s with
  | nil =>
      cases played
      exact absurd holds before
  | cons turn rest ih =>
      obtain ⟨⟨following, u⟩, taken, further⟩ := Option.bind_eq_some_iff.mp played
      rcases tap_take taken with ⟨pick, between, rfl, rfl, stepped⟩ | ⟨_, _, fanIn, rfl⟩
      · by_cases comes : P between
        · exact ⟨⟨[], pick, rest, run, s, rfl, rfl⟩, between, u, before, stepped, comes, further⟩
        · obtain ⟨m, next, v, found⟩ := ih comes further
          exact ⟨m.after taken, next, v, found⟩
      · obtain ⟨m, next, v, found⟩ := ih (fun holds => before (merging holds)) further
        exact ⟨m.after taken, next, v, found⟩

private theorem first_of_lt {m n : Moment setupRetry start turns} (sooner : m.first.length < n.first.length) :
    ∃ between, n.first = m.first ++ .worker m.pick :: between := by
  have same := m.split.symm.trans n.split
  rcases List.append_eq_append_iff.mp same with ⟨between, longer, rest⟩ | ⟨between, longer, _⟩
  · cases between with
    | nil => exact absurd sooner (by simp [longer])
    | cons turn between =>
        cases (List.cons.inj rest).1
        exact ⟨between, longer⟩
  · rw [longer, List.length_append] at sooner
    omega

end Moment

/-! The course of a setup that fails. -/

variable {all : List Binding} {events : List Event} {ledger : List Resource}

private theorem closing_of_tearsDown {departure : Departure} {told : List Event}
    (tearsDown : TapRun.TearsDown ledger departure run told) : run.closing = true := by
  cases tearsDown with
  | going phase | again phase => simp [TapRun.closing, phase]
  | ended gone => cases departure <;> cases phase : run.phase <;> simp_all [TapRun.closing, TapRun.departed]

private theorem reporting_of_fails (standing : TapRun.Told all run events)
    (fails : Journal.FailsSetup all events) (before : run.closing = false) :
    ∃ error, run.phase = .reporting error ∧ SetUp all (some error) run.ledger events := by
  cases standing with
  | opening => exact absurd fails (accepted_not_fails (accepted_told _))
  | creating =>
      refine absurd fails (accepted_not_fails ?_)
      refine List.forall_mem_append.mpr ⟨accepted_told _, List.forall_mem_cons.mpr ⟨rfl, ?_⟩⟩
      exact accepted_makes _ _
  | reporting phase setUp => exact ⟨_, phase, setUp⟩
  | forwarding _ setUp =>
      obtain ⟨taps, _, rfl⟩ := setUp.of_none
      exact absurd fails (accepted_not_fails (accepted_told taps))
  | tearing _ tearsDown => cases before.symm.trans (closing_of_tearsDown tearsDown)

private theorem exists_report
    (played : play take turns (.tap setupRetry (.start all), s) = some (.tap setupRetry last, t))
    (uses : s.Uses events t) (fails : Journal.FailsSetup all events) (closing : last.closing = true) :
    ∃ (report : Moment setupRetry (.tap setupRetry (.start all), s) turns) (error : TapError)
      (setup : List Event) (u : Stage),
      report.run.phase = .reporting error ∧ SetUp all (some error) report.run.ledger setup ∧
      s.Uses setup u ∧
      report.run.step setupRetry report.pick report.stage =
        some (report.run.tearDown .pause, u) ∧
      play take report.rest (.tap setupRetry (report.run.tearDown .pause), u) =
        some (.tap setupRetry last, t) := by
  have fresh : ¬(TapRun.start all).closing = true := Bool.false_ne_true
  obtain ⟨report, next, u, before, stepped, after, further⟩ :=
    Moment.exists_of_change (P := fun run => run.closing = true) id fresh closing played
  obtain ⟨_, ⟨⟩, told, usedBefore, standing⟩ := told_play (TapRun.told_start all) report.reached
  obtain ⟨more, usesNow, ahead⟩ := standing.step stepped
  have early : report.run.closing = false := Bool.eq_false_iff.mpr before
  cases TapRun.step_of_step stepped with
  | reports phase handed =>
      have usedAfter : s.Uses told u := by
        rcases handed with handed | ⟨_, rfl⟩
        · exact usedBefore.aloof (Stage.steady_hand handed).toAloof
        · exact usedBefore
      cases standing with
      | reporting same setUp =>
          cases phase.symm.trans same
          exact ⟨report, _, told, u, phase, setUp, usedAfter, stepped, further⟩
      | opening other | creating other | forwarding other => cases phase.symm.trans other
      | tearing _ tearsDown => cases early.symm.trans (closing_of_tearsDown tearsDown)
  | leaves phase =>
      -- all bindings are tapped already
      cases standing with
      | forwarding _ setUp =>
          obtain ⟨taps, split, rfl⟩ := setUp.of_none
          obtain ⟨_, ⟨⟩, rest, usesLater, _⟩ := told_play ahead further
          obtain rfl := ((usedBefore.trans usesNow).trans usesLater).eq uses
          rw [List.append_assoc] at fails
          exact absurd fails (whole_not_fails split)
      | opening other | creating other | reporting other => cases phase.symm.trans other
      | tearing _ tearsDown => cases early.symm.trans (closing_of_tearsDown tearsDown)
  | establishes | opens | creates | consumes | findsNoChannel | isRefused | forwards => cases after
  | removes phase | retries phase | givesUp phase | departs phase | waits phase | resumes phase
  | stops phase => simp [TapRun.closing, phase] at early

private theorem journal_of_report {error : TapError} {pick : Pick} {after : TapRun}
    (phase : run.phase = .reporting error)
    (stepped : run.step setupRetry pick s = some (after, t)) :
    t.journal = (if s.output.receiving then [.handedOver none (.failed error)] else []) ++
      s.journal := by
  simp only [TapRun.step, phase] at stepped
  split at stepped <;> rename_i handed <;> cases stepped
  · rw [Stage.closed_of_hand handed]
    rfl
  · cases open_ : s.output.receiving with
    | false => simp [Stage.hand, Pipe.send, open_] at handed
    | true =>
        unfold Stage.hand at handed
        split at handed <;> cases handed
        rfl

private theorem removing_removeStep (run : TapRun) (s : Stage) (resource : Resource) (left : List Resource)
    (channel : Option Channel) (retried : Bool) (departure : Departure) :
    (run.removeStep s resource left channel retried departure).1.removing = true := by
  unfold TapRun.removeStep
  split
  · rfl
  · split <;> rfl

private theorem phase_play {P : TapPhase → Prop}
    (kept : ∀ {run next : TapRun} {pick s t}, P run.phase →
      run.step setupRetry pick s = some (next, t) → P next.phase)
    (holds : P run.phase)
    (played : play take turns (.tap setupRetry run, s) = some (.tap setupRetry last, t)) :
    P last.phase := by
  obtain ⟨_, ⟨⟩, after⟩ :=
    tap_play (P := fun _ after _ => P after.phase) kept (fun holds _ _ => holds) holds played
  exact after

theorem finished_play {action : Action} (finished : run.phase = .finished action)
    (played : play take turns (.tap setupRetry run, s) = some (.tap setupRetry last, t)) :
    last.phase = .finished action := by
  refine phase_play (P := (· = .finished action)) (fun phase stepped => ?_) finished played
  simp only [TapRun.step, phase] at stepped
  cases stepped

private theorem pausing_play {until_ : Nat} (pausing : run.phase = .pausing until_)
    (played : play take turns (.tap setupRetry run, s) = some (.tap setupRetry last, t)) :
    last.phase = .pausing until_ ∨ ∃ action, last.phase = .finished action := by
  refine phase_play (P := fun phase => phase = .pausing until_ ∨ ∃ action, phase = .finished action)
    ?_ (.inl pausing) played
  rintro run next pick s t (phase | ⟨action, phase⟩) stepped
  · rcases TapRun.pausing_cases phase setupRetry pick s with ⟨_, stays⟩ | ⟨action, u, returned, _⟩
    · cases stays _ _ stepped
      exact .inl phase
    · cases returned.symm.trans stepped
      exact .inr ⟨action, rfl⟩
  · simp only [TapRun.step, phase] at stepped
    cases stepped

private theorem exists_departure {told : List Event}
    (tearsDown : TapRun.TearsDown ledger .pause run told) (removing : run.removing = true)
    (gone : last.departed .pause = true)
    (played : play take turns (.tap setupRetry run, s) = some (.tap setupRetry last, t)) :
    ∃ (departure : Moment setupRetry (.tap setupRetry run, s) turns) (channel : Option Channel)
      (next : TapRun) (u : Stage),
      departure.run.phase = .removing [] channel false .pause ∧
      departure.run.step setupRetry departure.pick departure.stage = some (next, u) ∧
      next.phase = .pausing (departure.stage.now + setupRetry) ∧
      play take departure.rest (.tap setupRetry next, u) = some (.tap setupRetry last, t) := by
  have before : ¬run.departed .pause = true := fun gone => by
    cases removing.symm.trans (TapRun.removing_of_departed gone)
  obtain ⟨departure, next, u, early, stepped, comes, further⟩ :=
    Moment.exists_of_change (P := fun run => run.departed .pause = true) id before gone played
  have on : ∀ {resource rest channel retried}, departure.run.removeStep departure.stage resource rest
      channel retried .pause ≠ (next, u) := by
    intro resource rest channel retried removed
    have still := removing_removeStep departure.run departure.stage resource rest channel retried .pause
    rw [removed] at still
    cases still.symm.trans (TapRun.removing_of_departed comes)
  obtain ⟨_, ⟨⟩, more, _, standing, _⟩ := tearsDown_play tearsDown departure.reached
  generalize told ++ more = sofar at standing
  cases standing with
  | ended other => exact absurd other early
  | again phase =>
      rcases TapRun.step_of_removing phase stepped with ⟨_, _, _, removed⟩ | ⟨nothing, _⟩
      · exact absurd removed on
      · cases nothing
  | going phase =>
      rcases TapRun.step_of_removing phase stepped with ⟨_, _, _, removed⟩ | ⟨rfl, departs⟩
      · exact absurd removed on
      · cases departs
        exact ⟨departure, _, _, _, phase, stepped, rfl, further⟩

private theorem exists_return {until_ : Nat} {action : Action} (pausing : run.phase = .pausing until_)
    (returned : last.phase = .finished action)
    (played : play take turns (.tap setupRetry run, s) = some (.tap setupRetry last, t)) :
    ∃ ending : Moment setupRetry (.tap setupRetry run, s) turns,
      ending.run.phase = .pausing until_ ∧ PauseEnds until_ ending.stage action := by
  have before : ¬∃ other, run.phase = .finished other := by simp [pausing]
  obtain ⟨ending, next, u, early, stepped, ⟨other, comes⟩, further⟩ :=
    Moment.exists_of_change (P := fun run => ∃ other, run.phase = .finished other) id before
      ⟨action, returned⟩ played
  have phase := (pausing_play pausing ending.reached).resolve_right early
  rcases TapRun.pausing_cases phase setupRetry ending.pick ending.stage with
    ⟨_, stays⟩ | ⟨_, u, answered, ends⟩
  · cases stays _ _ stepped
    exact absurd ⟨other, comes⟩ early
  · cases answered.symm.trans stepped
    cases (finished_play rfl further).symm.trans returned
    exact ⟨ending, phase, ends⟩

private theorem Moment.uneventful {start : Run × Stage} {m n : Moment setupRetry start turns} {until_ : Nat}
    (phase : m.run.phase = .pausing until_) (still : n.run.phase = .pausing until_)
    (sooner : m.first.length < n.first.length) : m.stage.Uneventful until_ := by
  obtain ⟨between, split⟩ := first_of_lt sooner
  have reached := n.reached
  rw [split, play_append, m.reached, Option.bind_some, play_cons] at reached
  obtain ⟨⟨following, u⟩, taken, further⟩ := Option.bind_eq_some_iff.mp reached
  rcases TapRun.pausing_cases phase setupRetry m.pick m.stage with
    ⟨quiet, _⟩ | ⟨_, _, returned, _⟩
  · exact quiet
  · obtain ⟨_, stepped, same⟩ := Option.map_eq_some_iff.mp taken
    cases returned.symm.trans stepped
    cases same
    cases (finished_play rfl further).symm.trans still

private theorem envelopes_of_silent (silent : s.Tells (·.isEnvelope = false) t) :
    t.journal.filter Event.isEnvelope = s.journal.filter Event.isEnvelope := by
  obtain ⟨told, journal, others⟩ := silent
  have nothing : told.filter Event.isEnvelope = [] :=
    List.filter_eq_nil_iff.mpr fun e member => by simp [others e member]
  rw [journal, List.filter_append, nothing, List.nil_append]

private theorem envelopes_of_report {start : TapRun} {error : TapError} {u : Stage} (apart : Apart turns)
    (report : Moment setupRetry (.tap setupRetry start, s) turns)
    (phase : report.run.phase = .reporting error)
    (stepped : report.run.step setupRetry report.pick report.stage = some (run, u))
    (closing : run.closing = true)
    (further : play take report.rest (.tap setupRetry run, u) = some (next, t)) :
    t.journal.filter Event.isEnvelope =
      (if report.stage.output.receiving then [.handedOver none (.failed error)] else []) ++
        s.journal.filter Event.isEnvelope := by
  rw [report.split, List.append_cons] at apart
  obtain ⟨⟨before, _⟩, after⟩ := apart.append.imp_left Apart.append
  have settingUp : report.run.settingUp = true := by simp [TapRun.settingUp, phase]
  have early := envelopes_of_silent (silent_of_settingUp before report.reached settingUp).2
  have late := envelopes_of_silent (silent_of_closing after closing further)
  rw [late, journal_of_report phase stepped, List.filter_append, early]
  cases report.stage.output.receiving <;> rfl

private theorem finished_of_result {action : Action} (returned : (tap setupRetry run).result? = some action) :
    run.phase = .finished action := by
  obtain ⟨phase, _, _, _, _⟩ := run
  cases phase <;> cases returned
  rfl

private theorem stuck_of_fails {pick : Pick} {told : List Event}
    (tearsDown : TapRun.TearsDown ledger .pause run told) (unreturned : (tap setupRetry run).result? = none)
    (stuck : run.step setupRetry pick s = none) :
    ∃ until_, run.phase = .pausing until_ ∧ s.Uneventful until_ := by
  have gone : run.departed .pause = true := by
    cases tearsDown with
    | going phase | again phase =>
        exact absurd stuck
          (TapRun.goes_on_of_removing (TapRun.removing_of_phase phase) setupRetry pick s)
    | ended gone => exact gone
  cases phase : run.phase with
  | pausing until_ =>
      rcases TapRun.pausing_cases phase setupRetry pick s with ⟨quiet, _⟩ | ⟨_, _, returned, _⟩
      · exact ⟨until_, rfl, quiet⟩
      · cases returned.symm.trans stuck
  | finished action =>
      obtain ⟨_, _, _, _, _⟩ := run
      cases phase
      cases unreturned
  | opening | creating | reporting | forwarding | removing | stopping =>
      simp [TapRun.departed, phase] at gone

/-- A setup that is refused is reported once, if somebody listens, with the first binding that could not
be tapped and what was said to that; there is nothing else for the output. What was made is removed, and
no binding after that one is touched. The worker returns from the pause that follows as soon as it has a
reason to: a signal, the end of the control path, or the end of the pause. -/
theorem failed_setup_reported {number : Nat}
    (played : play take turns ((Worker.tap all setupRetry).start number, s) = some (next, t))
    (apart : Apart turns) (uses : s.Uses events t) (fails : Journal.FailsSetup all events) :
    ∃ taps binding left e made refusal,
      Tapped.bindings taps ++ binding :: left = all ∧ Refused binding e made refusal ∧
      (next.result? = none → ∀ pick, next.step pick t = none →
        ∃ run, next = .tap setupRetry run ∧
          (run.phase = .reporting (.setup binding.exchange e) ∧
              t.hand none (.failed (.setup binding.exchange e)) = .full ∨
            ∃ until_, run.phase = .pausing until_ ∧ t.Uneventful until_)) ∧
      ∀ action, next.result? = some action →
        (∃ removals last, events = taps.flatMap Tapped.told ++ refusal ++ removals ∧
          Resource.Walk none (Resource.teardownOrder (Tapped.resources taps ++ made)) removals
            last) ∧
        ∃ (report departure ending :
            Moment setupRetry ((Worker.tap all setupRetry).start number, s) turns)
          (channel : Option Channel),
          report.run.phase = .reporting (.setup binding.exchange e) ∧
          t.journal.filter Event.isEnvelope =
            (if report.stage.output.receiving then
              [.handedOver none (.failed (.setup binding.exchange e))] else []) ++
              s.journal.filter Event.isEnvelope ∧
          departure.run.phase = .removing [] channel false .pause ∧
          ending.run.phase = .pausing (departure.stage.now + setupRetry) ∧
          PauseEnds (departure.stage.now + setupRetry) ending.stage action ∧
          report.first.length < departure.first.length ∧
          departure.first.length < ending.first.length ∧
          ∀ m : Moment setupRetry ((Worker.tap all setupRetry).start number, s) turns,
            m.run.phase = .pausing (departure.stage.now + setupRetry) →
            m.first.length < ending.first.length →
            m.stage.Uneventful (departure.stage.now + setupRetry) := by
  obtain ⟨last, rfl, told, usedAll, standing⟩ := told_play (TapRun.told_start all) played
  obtain rfl := usedAll.eq uses
  cases closing : last.closing with
  | false =>
      obtain ⟨error, phase, setUp⟩ := reporting_of_fails standing fails closing
      obtain ⟨taps, binding, left, e, made, refusal, split, refused, rfl, _⟩ := setUp.of_some
      refine ⟨taps, binding, left, e, made, refusal, split, refused, fun _ pick stuck => ?_,
        fun action returned => ?_⟩
      · refine ⟨last, rfl, .inl ⟨phase, ?_⟩⟩
        have held : last.step setupRetry pick t = none := by simpa [Run.step] using stuck
        simp only [TapRun.step, phase] at held
        split at held <;> first | assumption | cases held
      · cases (finished_of_result returned).symm.trans phase
  | true =>
      obtain ⟨report, error, setup, u, phase, setUp, used, stepped, further⟩ :=
        exists_report played uses fails closing
      obtain ⟨taps, binding, left, e, made, refusal, split, refused, rfl, ledger, rfl⟩ :=
        setUp.of_some
      have begun := TapRun.tearsDown_tearDown report.run .pause
      obtain ⟨_, ⟨⟩, removals, removed, tearsDown, _⟩ := tearsDown_play begun further
      obtain rfl := (used.trans removed).eq uses
      rw [List.nil_append] at tearsDown
      refine ⟨taps, binding, left, e, made, refusal, split, refused, fun unreturned pick stuck => ?_,
        fun action returned => ?_⟩
      · have held : last.step setupRetry pick t = none := by simpa [Run.step] using stuck
        exact ⟨last, rfl, .inr (stuck_of_fails tearsDown unreturned held)⟩
      · have finished := finished_of_result returned
        have gone : last.departed .pause = true := by simp [TapRun.departed, finished]
        obtain ⟨departure, channel, paused, v, torn, left, pausing, onward⟩ :=
          exists_departure begun rfl gone further
        obtain ⟨ending, still, ends⟩ := exists_return pausing finished onward
        refine ⟨?_, report, report.later stepped departure,
          report.later stepped (departure.later left ending), channel, phase,
          envelopes_of_report apart report phase stepped rfl further, torn, still, ends, ?_, ?_,
          fun m waits sooner => m.uneventful waits still sooner⟩
        · rw [ledger] at tearsDown
          cases tearsDown with
          | going other | again other => cases finished.symm.trans other
          | ended _ _ walk => exact ⟨_, _, rfl, walk⟩
        · simp only [Moment.later, List.length_append, List.length_cons]
          omega
        · simp only [Moment.later, List.length_append, List.length_cons]
          omega

/-- The queue of the second tap is refused, while a delivery waits already at the consumer of the
first one. -/
theorem failed_setup_reported_of_second_binding :
    let all : List Binding := [⟨"orders", "#"⟩, ⟨"billing", "#"⟩]
    let s := Stage.initial .initial 1 fun _ => "suffix"
    let busy := Stage.initial { Broker.initial with
      consumers := [⟨"queue", [.ok default], true, true⟩]
      refusals := [⟨some .declareQueue, none, 0, 1, .operation "refused"⟩] } 1 fun _ => "suffix"
    let turns := .replicate 6 (.worker .first) ++ .elsewhere busy [] :: .replicate 13 (.worker .second)
    ∃ next t, play take turns ((Worker.tap all 0).start 0, s) = some (next, t) ∧
      next.result? = some .reconnect ∧ Journal.FailsSetup all (Journal.onChannel t.journal) ∧
      ∃ taps binding left e made refusal removals last,
        Tapped.bindings taps ++ binding :: left = all ∧ Refused binding e made refusal ∧
        Journal.onChannel t.journal = taps.flatMap Tapped.told ++ refusal ++ removals ∧
        Resource.Walk none (Resource.teardownOrder (Tapped.resources taps ++ made)) removals last ∧
        t.journal.filter Event.isEnvelope =
          [.handedOver none (.failed (.setup binding.exchange e))] := by
  intro all s busy turns
  have ran : (play take turns ((Worker.tap all 0).start 0, s)).map (fun state =>
      (state.1.result?, ((Journal.onChannel state.2.journal)[9]?).map Event.isRefusal,
        (Journal.consumed ((Journal.onChannel state.2.journal).take 9)).length,
        (state.2.journal.filter Event.isEnvelope).length)) =
      some (some .reconnect, some true, 1, 1) := rfl
  obtain ⟨⟨next, t⟩, played, same⟩ := Option.map_eq_some_iff.mp ran
  simp only [Prod.mk.injEq] at same
  obtain ⟨returned, tenth, consumed, single⟩ := same
  obtain ⟨e, found, refusal⟩ := Option.map_eq_some_iff.mp tenth
  obtain ⟨inside, rfl⟩ := List.getElem?_eq_some_iff.mp found
  have fails : Journal.FailsSetup all (Journal.onChannel t.journal) := by
    refine ⟨_, _, (Journal.onChannel t.journal).drop 10, ?_, refusal, consumed ▸ Nat.one_lt_two⟩
    rw [← List.drop_eq_getElem_cons inside, List.take_append_drop]
  have apart : Apart turns := by
    intro stage told member e among
    simp only [turns, List.mem_append, List.mem_replicate, List.mem_cons, reduceCtorEq, and_false,
      false_or, or_false, Turn.elsewhere.injEq] at member
    obtain ⟨_, rfl⟩ := member
    cases among
  obtain ⟨taps, binding, left, error, made, refused, split, refuses, _, ended⟩ :=
    failed_setup_reported played apart rfl fails
  obtain ⟨⟨removals, last, used, walk⟩, report, _, _, _, _, envelopes, _⟩ := ended _ returned
  refine ⟨next, t, played, returned, fails, taps, binding, left, error, made, refused, removals,
    last, split, refuses, used, walk, ?_⟩
  rw [envelopes] at single ⊢
  cases listening : report.stage.output.receiving with
  | true => rfl
  | false =>
      rw [listening] at single
      cases single

end Run

end ExchangeTap
