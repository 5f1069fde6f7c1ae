import ExchangeTap.Proofs.FanIn.Waiting
import ExchangeTap.Proofs.Worker.Merging
import ExchangeTap.Proofs.Worker.Takings

namespace ExchangeTap.Item

/-- A signal waits, and nobody is about to take it but the merge. -/
structure Signalled (s : Stage) : Prop where
  waits : s.control.slot.isSome = true
  used : s.control.UsedBy (some .merge)

variable {consumers : List Nat}

private theorem standing_signal (consumers : List Nat) :
    (inputs consumers).Standing (consumers.length + 1) Signalled consumers.length := by
  -- all inputs before the control path are consumers
  have present : ∀ {other}, other < consumers.length + 1 → other ≠ consumers.length →
      ∃ index, consumers[other]? = some index := fun known elsewhere =>
    ⟨_, List.getElem?_eq_getElem (by omega)⟩
  refine ⟨?_, ?_, ?_⟩
  · intro s signalled
    obtain ⟨signal, waits⟩ := Option.isSome_iff_exists.mp signalled.waits
    refine ⟨.signal signal, (s.pollControl .merge).2, ?_⟩
    simp [inputs, Stage.pollControl, ControlPath.poll_of_usedBy signalled.used, waits]
  · intro s t other glance signalled known elsewhere looked
    obtain ⟨index, found⟩ := present known elsewhere
    cases look_cases looked with
    | reads | waits | misses => exact ⟨signalled.waits, signalled.used⟩
    | hears absent | listens absent | ends absent => cases absent.symm.trans found
  · intro s other signalled known elsewhere
    obtain ⟨index, found⟩ := present known elsewhere
    simp only [inputs, found]
    exact ⟨signalled.waits, signalled.used⟩

/-- No input starves, whatever the inputs are; and so deliveries cannot keep a worker from a signal. -/
theorem served_in_turn :
    (∀ {σ T : Type} {inputs : Inputs σ T} {count input : Nat} {ready : σ → Prop},
      inputs.Standing count ready input → inputs.ServesInTurn count ready input) ∧
    ∀ consumers, (inputs consumers).ServesInTurn (consumers.length + 1) Signalled consumers.length :=
  ⟨Inputs.Standing.servesInTurn, fun consumers => (standing_signal consumers).servesInTurn⟩

/-- One consumer is busy and another one is gone: a signal waits for as many rounds as it ever can, and
is taken in the next one. -/
theorem served_in_turn_behind_busy_consumer :
    let delivery : Except BrokerError Delivery := .ok default
    let broker := { Broker.initial with
      consumers := [⟨"busy", [delivery, delivery, delivery], true, true⟩, ⟨"gone", [], false, true⟩] }
    let stage := { Stage.initial broker 1 fun _ => "" with
      control.slot := some .shutdown }
    let more : List (FanIn.Turn Stage) := [.merge, .merge, .merge, .receive, .merge, .merge]
    (inputs [0, 1]).Standing 3 Signalled 2 ∧ Signalled stage ∧
    ∃ g t done, play (FanIn.take (inputs [0, 1])) more (.start 3, stage, []) = some (g, t, done) ∧
      g.Going ∧ done = [.takes 0, .releases 1, .closes 1, .takes 0] ∧
      Deed.rounds done ≤ 3 * (3 - 1) / 2 ∧ 3 * (3 - 1) / 2 ≤ Deed.rounds done ∧
      ∃ next, FanIn.take (inputs [0, 1]) .merge (g, t, done) = some next ∧
        next.2.2 = .takes 2 :: done := by
  intro delivery broker stage more
  have standing : (inputs [0, 1]).Standing 3 Signalled 2 := standing_signal [0, 1]
  have signalled : Signalled stage := ⟨rfl, rfl, .inl rfl⟩
  have ran : (play (FanIn.take (inputs [0, 1])) more (.start 3, stage, [])).map
      (fun last => (last.1.stopRequested, last.1.merge.isRunning, last.2.2,
        (FanIn.take (inputs [0, 1]) .merge last).map (·.2.2))) =
      some (false, true, [.takes 0, .releases 1, .closes 1, .takes 0],
        some [.takes 2, .takes 0, .releases 1, .closes 1, .takes 0]) := by
    decide +kernel
  obtain ⟨⟨g, t, done⟩, played, same⟩ := Option.map_eq_some_iff.mp ran
  simp only [Prod.mk.injEq] at same
  obtain ⟨unstopped, running, rfl, following⟩ := same
  obtain ⟨next, taken, record⟩ := Option.map_eq_some_iff.mp following
  have begun : play (FanIn.take (inputs [0, 1])) [] (.start 3, stage, []) =
      some (.start 3, stage, []) := rfl
  have undisturbed : ∀ state, .elsewhere state ∈ more → Signalled state := by
    intro state member
    simp [more] at member
  obtain ⟨few, _⟩ := served_in_turn.1 standing begun (by decide) signalled played undisturbed
    (by decide) (by decide)
  exact ⟨standing, signalled, g, t, _, played, ⟨unstopped, running⟩, rfl, few, by decide, next, taken,
    record⟩

end ExchangeTap.Item
