import ExchangeTap.Proofs.FanIn.Held

namespace ExchangeTap

variable {inputs : Inputs σ T} {valid : σ → Prop} {s t : σ} {input : Nat}

/-- An input that never closes. What holds of the state does so whatever is looked at, and nothing
fails. -/
structure Inputs.Lasting (inputs : Inputs σ T) (valid : σ → Prop) (input : Nat) : Prop where
  steady : ∀ {s t other glance}, valid s → inputs.look s other = (glance, t) → valid t
  lasts : ∀ {s t}, valid s → inputs.look s input ≠ (.closed, t)
  sound : ∀ {s t other}, valid s → inputs.look s other ≠ (.failure, t)

theorem Inputs.Lasting.scan (lasting : inputs.Lasting valid input) (ok : valid s)
    {order : List Nat} {other : Nat} {glance : Glance T}
    (scanned : Merge.scan inputs s order = (some (other, glance), t)) :
    glance ≠ .failure ∧ (other = input → ∃ value, glance = .item value) := by
  induction order generalizing s with
  | nil => cases scanned
  | cons first rest ih =>
      cases looked : inputs.look s first with
      | mk seen after =>
          rw [Merge.scan, looked] at scanned
          cases seen with
          | nothing => exact ih (lasting.steady ok looked) scanned
          | failure => cases lasting.sound ok looked
          | item value =>
              cases scanned
              exact ⟨by simp, fun _ => ⟨value, rfl⟩⟩
          | closed =>
              cases scanned
              refine ⟨by simp, ?_⟩
              rintro rfl
              cases lasting.lasts ok looked

namespace FanIn

variable {f g : FanIn T}

/-- The input is open, and no round that is under way leaves it out. -/
structure Hears (f : FanIn T) (input : Nat) : Prop where
  isOpen : input ∈ f.merge.openInputs
  kept : ∀ order, f.merge.phase = .choosing (some order) → input ∈ order

theorem hears_start {count : Nat} (inside : input < count) : (start count : FanIn T).Hears input :=
  ⟨List.mem_range.mpr inside, fun _ kept => nomatch kept⟩

theorem Hears.congr (hears : f.Hears input) (same : g.merge = f.merge) : g.Hears input := by
  refine ⟨?_, ?_⟩
  · rw [same]
    exact hears.isOpen
  · rw [same]
    exact hears.kept

private theorem Hears.mem_round (hears : f.Hears input) {kept : Option (List Nat)}
    (phase : f.merge.phase = .choosing kept) : input ∈ kept.getD f.merge.order := by
  cases kept with
  | none => exact Merge.mem_order.mpr hears.isOpen
  | some order => exact hears.kept order phase

theorem Hears.advance (hears : f.Hears input) (lasting : inputs.Lasting valid input)
    (ok : valid s) (going : f.Going) (advanced : f.advance inputs s = some (g, t)) :
    g.Hears input := by
  cases advances_of_advance advanced with
  | finishes _ stopped => cases going.unstopped.symm.trans stopped
  | waits =>
      refine ⟨hears.isOpen, ?_⟩
      rintro order ⟨⟩
      exact Merge.mem_order.mpr hears.isOpen
  | takes | gives => exact ⟨hears.isOpen, fun _ kept => nomatch kept⟩
  | closes _ _ scanned =>
      -- the input that has closed is another one
      obtain ⟨_, itself⟩ := lasting.scan ok scanned
      refine ⟨List.mem_filter.mpr ⟨hears.isOpen, decide_eq_true ?_⟩, fun _ kept => nomatch kept⟩
      rintro rfl
      obtain ⟨value, same⟩ := itself rfl
      cases same
  | crashes _ _ scanned =>
      obtain ⟨sound, _⟩ := lasting.scan ok scanned
      cases sound rfl

theorem Hears.stuck (hears : f.Hears input) (going : f.Going) (stuck : f.advance inputs s = none) :
    f.outlet.isSome = true ∨
      f.merge.phase.inHand = [] ∧
        ∃ order t, input ∈ order ∧ Merge.scan inputs s order = (none, t) := by
  cases phase : f.merge.phase with
  | ended | crashed =>
      have running := going.running
      simp [Merge.isRunning, phase] at running
  | sending other item =>
      simp only [FanIn.advance, phase, going.unstopped, Bool.false_eq_true, if_false] at stuck
      split at stuck
      · rename_i outlet
        exact .inl (by simp [outlet])
      · cases stuck
  | choosing kept =>
      have member := hears.mem_round phase
      have nonempty : f.merge.openInputs.isEmpty = false :=
        List.isEmpty_eq_false_iff.mpr (List.ne_nil_of_mem hears.isOpen)
      refine .inr ⟨by simp, kept.getD f.merge.order, ?_⟩
      cases scanned : Merge.scan inputs s (kept.getD f.merge.order) with
      | mk found after =>
          simp only [FanIn.advance, phase, going.unstopped, nonempty, scanned, Bool.false_eq_true,
            if_false] at stuck
          cases found with
          | none => exact ⟨after, member, rfl⟩
          | some result =>
              obtain ⟨other, glance⟩ := result
              cases glance <;> cases stuck

theorem advance_of_stopped (stopped : f.stopRequested = true) (running : f.merge.isRunning = true) :
    f.advance inputs s ≠ none := by
  cases phase : f.merge.phase with
  | ended | crashed => simp [Merge.isRunning, phase] at running
  | sending | choosing => simp [FanIn.advance, phase, stopped]

end FanIn

end ExchangeTap
