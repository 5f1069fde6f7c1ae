import ExchangeTap.Proofs.FanIn.Giving
import ExchangeTap.Proofs.FanIn.Listening
import ExchangeTap.Proofs.FanIn.Rounds
import Mathlib.Data.List.Count

namespace ExchangeTap

/-- Inputs that do not fail, whatever is taken from them. -/
def Inputs.Sound (inputs : Inputs σ T) (valid : σ → Prop) : Prop :=
  inputs.Booked valid fun _ _ _ => True

variable {inputs : Inputs σ T} {valid : σ → Prop} {s t : σ} {count input : Nat}

private theorem Inputs.Booked.sound_inputs {taken : σ → List (Nat × T) → σ → Prop}
    (booked : inputs.Booked valid taken) : inputs.Sound valid :=
  ⟨trivial, fun _ _ => trivial, fun ok looked => ⟨(booked.item ok looked).1, trivial⟩,
    fun ok looked => ⟨(booked.nothing ok looked).1, trivial⟩,
    fun ok looked => ⟨(booked.closed ok looked).1, trivial⟩, booked.sound⟩

private theorem Inputs.look_of_recorded {state after : σ × List Deed} {glance : Glance T}
    (looked : inputs.recorded.look state input = (glance, after)) :
    inputs.look state.1 input = (glance, after.1) := by
  cases looked
  rfl

theorem Inputs.Sound.recorded (sound : inputs.Sound valid) :
    inputs.recorded.Sound fun state => valid state.1 :=
  ⟨trivial, fun _ _ => trivial,
    fun ok looked => ⟨(sound.item ok (look_of_recorded looked)).1, trivial⟩,
    fun ok looked => ⟨(sound.nothing ok (look_of_recorded looked)).1, trivial⟩,
    fun ok looked => ⟨(sound.closed ok (look_of_recorded looked)).1, trivial⟩,
    fun ok looked => sound.sound ok (look_of_recorded looked)⟩

namespace Deed

variable {deeds : List Deed}

private theorem count_releases (opened : List Nat) (deeds : List Deed) (input : Nat) :
    (opened.reverse.map releases ++ deeds).count (releases input) =
      opened.count input + deeds.count (releases input) := by
  have apart : Function.Injective releases := fun _ _ same => releases.inj same
  rw [List.count_append, List.count_map_of_injective _ _ apart, List.count_reverse]

private theorem count_round (found : Option (Nat × Glance T)) (deeds : List Deed) (input : Nat) :
    (found.elim [] (fun result => result.2.deeds result.1) ++ deeds).count (releases input) =
      deeds.count (releases input) := by
  rw [List.count_append, Nat.add_eq_right]
  rcases found with _ | ⟨other, glance⟩
  · rfl
  · cases glance <;> simp [Glance.deeds]

end Deed

namespace FanIn

variable {f g : FanIn T} {deeds after : List Deed} {turn : Turn σ}

theorem Going.take (sound : inputs.Sound valid) (ok : valid s) (going : f.Going)
    (steady : ∀ state, turn = .elsewhere state → valid state) (unstopped : turn ≠ .stop)
    (taken : take inputs turn (f, s, deeds) = some (g, t, after)) : g.Going ∧ valid t := by
  cases turn with
  | stop => exact absurd rfl unstopped
  | receive =>
      cases taken
      exact ⟨going.receive rfl, ok⟩
  | elsewhere state =>
      cases taken
      exact ⟨going, steady t rfl⟩
  | merge =>
      obtain ⟨still, goingOn, _⟩ := going.advance sound.recorded ok taken
      exact ⟨goingOn, still⟩

theorem Going.play (sound : inputs.Sound valid) {turns : List (Turn σ)} (ok : valid s)
    (going : f.Going) (steady : ∀ state, .elsewhere state ∈ turns → valid state)
    (unstopped : .stop ∉ turns)
    (played : play (FanIn.take inputs) turns (f, s, deeds) = some (g, t, after)) : g.Going := by
  induction turns generalizing f s deeds with
  | nil =>
      cases played
      exact going
  | cons turn rest ih =>
      obtain ⟨⟨next, u, record⟩, taken, further⟩ := Option.bind_eq_some_iff.mp played
      obtain ⟨goingNext, okNext⟩ := going.take sound ok
        (fun state same => steady state (same ▸ List.mem_cons_self))
        (fun same => unstopped (same ▸ List.mem_cons_self)) taken
      exact ih okNext goingNext (fun state member => steady state (List.mem_cons_of_mem _ member))
        (fun member => unstopped (List.mem_cons_of_mem _ member)) further

structure Stopped (f : FanIn T) : Prop where
  requested : f.stopRequested = true
  empty : f.outlet = none

private theorem stopped_stop (f : FanIn T) : f.stop.Stopped :=
  ⟨rfl, rfl⟩

theorem Stopped.stop (stopped : f.Stopped) : f.stop = f := by
  obtain ⟨merge, outlet, requested⟩ := f
  cases stopped.requested
  cases stopped.empty
  rfl

theorem Stopped.receive (stopped : f.Stopped) : f.receive = (.ready none, f) := by
  simp [FanIn.receive, stopped.requested, stopped.empty]

theorem Stopped.advance (stopped : f.Stopped) (advanced : f.advance inputs s = some (g, t)) :
    g.Stopped ∧ g.alive = false := by
  cases advances_of_advance advanced with
  | finishes => exact ⟨⟨stopped.requested, stopped.empty⟩, rfl⟩
  | waits _ unstopped | takes _ unstopped | closes _ unstopped | crashes _ unstopped
  | gives _ unstopped => cases unstopped.symm.trans stopped.requested

theorem Stopped.take (stopped : f.Stopped)
    (taken : take inputs turn (f, s, deeds) = some (g, t, after)) : g.Stopped := by
  cases turn with
  | merge => exact (stopped.advance taken).1
  | receive =>
      cases taken
      rw [stopped.receive]
      exact stopped
  | stop =>
      cases taken
      exact stopped_stop f
  | elsewhere state =>
      cases taken
      exact stopped

structure Accounted (count : Nat) (f : FanIn T) (deeds : List Deed) : Prop where
  regular : f.Regular count
  account : ∀ input, f.merge.openInputs.count input + deeds.count (.releases input) =
    (List.range count).count input
  ended : f.merge.isRunning = false → f.merge.openInputs = []

private theorem accounted_start (count : Nat) : Accounted count (start count : FanIn T) [] :=
  ⟨regular_start count, fun _ => rfl, nofun⟩

private theorem Accounted.count_eq_one (accounted : Accounted count f deeds)
    (isOpen : input ∈ f.merge.openInputs) : f.merge.openInputs.count input = 1 := by
  have account := accounted.account input
  have once := List.nodup_iff_count_le_one.mp (List.nodup_range (n := count)) input
  have listed := List.count_pos_iff.mpr isOpen
  omega

theorem Accounted.advance {u : σ × List Deed} (accounted : Accounted count f deeds)
    (advanced : f.advance inputs.recorded (s, deeds) = some (g, u)) : Accounted count g u.2 := by
  refine ⟨accounted.regular.advance advanced, fun input => ?_, ?_⟩
  · have account := accounted.account input
    cases advances_of_advance advanced with
    | finishes =>
        rw [finish, Merge.releaseAll_recorded, Deed.count_releases, ← account]
        simp
    | waits _ _ scanned | takes _ _ scanned =>
        obtain ⟨_, record⟩ := Merge.scan_recorded scanned
        rw [record, Deed.count_round]
        exact account
    | @closes _ other _ between phase _ scanned =>
        obtain ⟨plain, record⟩ := Merge.scan_recorded scanned
        rw [accounted.regular.rota phase] at plain
        have single := accounted.count_eq_one (Merge.mem_rota.mp (Merge.mem_of_scan plain))
        simp only [Inputs.recorded, record, List.count_cons, Deed.count_round]
        by_cases same : other = input
        · subst same
          have gone : (f.merge.openInputs.filter (· ≠ other)).count other = 0 :=
            List.count_eq_zero.mpr (by simp)
          rw [gone, ← account, single]
          simp [Nat.add_comm]
        · rw [List.count_filter (by simpa using Ne.symm same)]
          simpa [same] using account
    | @crashes _ other _ between _ _ scanned =>
        obtain ⟨_, record⟩ := Merge.scan_recorded scanned
        rw [show between = (between.1, between.2) from rfl, Merge.releaseAll_recorded, record,
          Deed.count_releases, Deed.count_round, ← account]
        simp
    | gives => exact account
  · cases advances_of_advance advanced with
    | finishes | crashes => exact fun _ => rfl
    | waits | takes | closes | gives =>
        intro still
        cases still

theorem Accounted.take (accounted : Accounted count f deeds)
    (taken : take inputs turn (f, s, deeds) = some (g, t, after)) : Accounted count g after := by
  have regular := accounted.regular.take taken
  cases turn with
  | merge => exact accounted.advance taken
  | receive =>
      cases taken
      have merge : f.receive.2.merge = f.merge := merge_receive rfl
      refine ⟨regular, ?_, ?_⟩
      · rw [merge]
        exact accounted.account
      · rw [merge]
        exact accounted.ended
  | stop | elsewhere =>
      cases taken
      exact ⟨regular, accounted.account, accounted.ended⟩

theorem Accounted.released (accounted : Accounted count f deeds) (ended : f.alive = false)
    (input : Nat) : deeds.count (.releases input) = if input < count then 1 else 0 := by
  have account := accounted.account input
  rw [accounted.ended ended, List.count_nil, Nat.zero_add] at account
  rw [account]
  split <;> rename_i known
  · exact List.count_eq_one_of_mem List.nodup_range (List.mem_range.mpr known)
  · exact List.count_eq_zero.mpr (mt List.mem_range.mp known)

/-- Unless an input fails, a merge goes on until it is stopped. Once it is stopped, in whatever state,
nothing is received any more, to stop it again changes nothing, and its next step is its last; after
that each of its inputs has been let go of, once. -/
theorem ends_by_stop {turns : List (Turn σ)} {begin : σ}
    (played : play (take inputs) turns (start count, begin, []) = some (f, s, deeds)) :
    (∀ valid, inputs.Sound valid → valid begin → (∀ state, .elsewhere state ∈ turns → valid state) →
      .stop ∉ turns → f.alive = true) ∧
    ∀ more g t done, play (take inputs) more (f.stop, s, deeds) = some (g, t, done) →
      g.receive = (.ready none, g) ∧ g.stop = g ∧
      (g.alive = true →
        ∃ last, take inputs .merge (g, t, done) = some last ∧ last.1.alive = false) ∧
      (g.alive = false → take inputs .merge (g, t, done) = none ∧
        ∀ input, done.count (.releases input) = if input < count then 1 else 0) := by
  refine ⟨fun valid sound ok steady unstopped => ?_, fun more g t done further => ?_⟩
  · exact ((going_start count).play sound ok steady unstopped played).running
  · have whole : play (take inputs) (turns ++ .stop :: more) (start count, begin, []) =
        some (g, t, done) := by
      rw [play_append, played]
      exact further
    have accounted : Accounted count g done :=
      play_preserves (P := fun state : FanIn T × σ × List Deed => Accounted count state.1 state.2.2)
        (fun accounted taken => accounted.take taken) (accounted_start count) whole
    have stopped : g.Stopped :=
      play_preserves (P := fun state : FanIn T × σ × List Deed => state.1.Stopped)
        (fun stopped taken => stopped.take taken) (stopped_stop f) further
    refine ⟨stopped.receive, stopped.stop, fun running => ?_,
      fun ended => ⟨?_, accounted.released ended⟩⟩
    · obtain ⟨last, advanced⟩ := Option.ne_none_iff_exists'.mp
        (advance_of_stopped (s := (t, done)) stopped.requested running)
      exact ⟨last, advanced, (stopped.advance advanced).2⟩
    · exact Option.eq_none_iff_forall_ne_some.mpr fun last advanced =>
        absurd (running_of_advance advanced) (Bool.eq_false_iff.mp ended)

/-- All inputs of the first merge have closed; the second one was ended by a failure. -/
theorem ends_by_stop_after_failure :
    let quiet : List (Source Nat) := [.channel [] false true, .fixed []]
    let broken : List (Source Nat) := [.fixed [1], .failing []]
    (∃ f s deeds, play (take Source.inputs) [.merge, .merge] (start 2, quiet, []) =
        some (f, s, deeds) ∧ f.merge.openInputs = [] ∧ f.alive = true) ∧
    ∃ f s deeds, play (take Source.inputs) [.merge, .merge, .merge] (start 2, broken, []) =
        some (f, s, deeds) ∧ f.merge.phase = .crashed ∧ f.outlet = some (0, 1) ∧
      f.stop.receive = (.ready none, f.stop) ∧
      ∀ input, deeds.count (.releases input) = if input < 2 then 1 else 0 := by
  intro quiet broken
  refine ⟨?_, ?_⟩
  · have ran : (play (take Source.inputs) [.merge, .merge] (start 2, quiet, [])).map
        (·.1.merge.openInputs) = some [] := by
      decide +kernel
    obtain ⟨⟨f, s, deeds⟩, played, empty⟩ := Option.map_eq_some_iff.mp ran
    have reliable : Source.Reliable quiet := Source.reliable_of_all (by decide)
    exact ⟨f, s, deeds, played, empty,
      (ends_by_stop played).1 Source.Reliable Source.booked_inputs.sound_inputs reliable (by simp)
        (by simp)⟩
  · have ran : (play (take Source.inputs) [.merge, .merge, .merge] (start 2, broken, [])).map
        (fun last => (last.1.merge.phase, last.1.outlet)) = some (.crashed, some (0, 1)) := by
      decide +kernel
    obtain ⟨⟨f, s, deeds⟩, played, same⟩ := Option.map_eq_some_iff.mp ran
    simp only [Prod.mk.injEq] at same
    obtain ⟨phase, outlet⟩ := same
    obtain ⟨received, _, _, spent⟩ := (ends_by_stop played).2 [] f.stop s deeds rfl
    obtain ⟨_, released⟩ := spent (by simp [alive, stop, Merge.isRunning, phase])
    exact ⟨f, s, deeds, played, phase, outlet, received, released⟩

end FanIn

end ExchangeTap
