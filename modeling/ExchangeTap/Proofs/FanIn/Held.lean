import ExchangeTap.Proofs.FanIn.Advancing

/-! Until it is stopped, a merge holds all that it has taken from its inputs and that was not
received yet, in order; so an account of what the inputs give away is one of what is received. -/

namespace ExchangeTap

def ofInput (input : Nat) (items : List (Nat × α)) : List α :=
  items.filterMap fun item => if item.1 = input then some item.2 else none

@[simp] theorem ofInput_nil (input : Nat) : ofInput input ([] : List (Nat × α)) = [] := rfl

@[simp] theorem ofInput_cons (input : Nat) (item : Nat × α) (rest : List (Nat × α)) :
    ofInput input (item :: rest) =
      (if item.1 = input then [item.2] else []) ++ ofInput input rest := by
  by_cases same : item.1 = input <;> simp [ofInput, same]

@[simp] theorem ofInput_append (input : Nat) (first second : List (Nat × α)) :
    ofInput input (first ++ second) = ofInput input first ++ ofInput input second :=
  List.filterMap_append

theorem ofInput_map_mk (input other : Nat) (items : List α) :
    ofInput input (items.map (other, ·)) = if other = input then items else [] := by
  induction items with
  | nil => simp
  | cons item rest ih =>
      rw [List.map_cons, ofInput_cons, ih]
      split <;> rfl

/-- An account of what inputs give away. Nothing but a look at an input takes an item from it, and an
input that has closed can be let go of without a loss. -/
structure Inputs.Booked (inputs : Inputs σ T) (valid : σ → Prop)
    (taken : σ → List (Nat × T) → σ → Prop) : Prop where
  refl : ∀ {s}, taken s [] s
  trans : ∀ {s t u items}, taken s [] t → taken t items u → taken s items u
  item : ∀ {s t input value}, valid s → inputs.look s input = (.item value, t) →
    valid t ∧ taken s [(input, value)] t
  nothing : ∀ {s t input}, valid s → inputs.look s input = (.nothing, t) → valid t ∧ taken s [] t
  closed : ∀ {s t input}, valid s → inputs.look s input = (.closed, t) →
    valid (inputs.release t input) ∧ taken s [] (inputs.release t input)
  sound : ∀ {s t input}, valid s → inputs.look s input ≠ (.failure, t)

variable {inputs : Inputs σ T} {valid : σ → Prop} {taken : σ → List (Nat × T) → σ → Prop}
variable {s t : σ}

theorem Inputs.Booked.scan (booked : inputs.Booked valid taken) (ok : valid s) {order : List Nat}
    {found : Option (Nat × Glance T)} (scanned : Merge.scan inputs s order = (found, t)) :
    match found with
    | none => valid t ∧ taken s [] t
    | some (input, .item value) => valid t ∧ taken s [(input, value)] t
    | some (input, .closed) =>
      valid (inputs.release t input) ∧ taken s [] (inputs.release t input)
    | some (_, .nothing) | some (_, .failure) => False := by
  induction order generalizing s with
  | nil =>
      cases scanned
      exact ⟨ok, booked.refl⟩
  | cons input rest ih =>
      cases looked : inputs.look s input with
      | mk glance after =>
          rw [Merge.scan, looked] at scanned
          cases glance with
          | item value =>
              cases scanned
              exact booked.item ok looked
          | closed =>
              cases scanned
              exact booked.closed ok looked
          | failure => exact absurd looked (booked.sound ok)
          | nothing =>
              -- the inputs after this one are looked at from where it leaves the state
              obtain ⟨okAfter, passed⟩ := booked.nothing ok looked
              have later := ih okAfter scanned
              rcases found with _ | ⟨other, value | _ | _ | _⟩
              · exact ⟨later.1, booked.trans passed later.2⟩
              · exact ⟨later.1, booked.trans passed later.2⟩
              · exact ⟨later.1, booked.trans passed later.2⟩
              · exact later
              · exact later

namespace MergePhase

def inHand : MergePhase T → List (Nat × T)
  | .sending input item => [(input, item)]
  | .choosing _ | .ended | .crashed => []

@[simp] theorem inHand_choosing (kept : Option (List Nat)) :
    (choosing kept : MergePhase T).inHand = [] := rfl

@[simp] theorem inHand_sending (input : Nat) (item : T) :
    (sending input item).inHand = [(input, item)] := rfl

theorem length_inHand_le (phase : MergePhase T) : phase.inHand.length ≤ 1 := by
  cases phase <;> simp [inHand]

end MergePhase

namespace FanIn

/-- What was taken from the inputs and not yet received, the oldest first. -/
def held (f : FanIn T) : List (Nat × T) :=
  f.outlet.toList ++ f.merge.phase.inHand

structure Going (f : FanIn T) : Prop where
  unstopped : f.stopRequested = false
  running : f.merge.isRunning = true

variable {f g : FanIn T}

theorem going_start (count : Nat) : (start count : FanIn T).Going :=
  ⟨rfl, rfl⟩

theorem length_held_le (f : FanIn T) : f.held.length ≤ 2 := by
  have few := f.merge.phase.length_inHand_le
  cases outlet : f.outlet <;> simp [held, outlet] <;> omega

theorem held_of_receive {item : Nat × T} (received : f.receive = (.ready (some item), g)) :
    f.held = item :: g.held := by
  cases receives_of_receive received with
  | gives outlet => simp [held, outlet]

theorem eq_of_receive_pending (received : f.receive = (.pending, g)) : g = f := by
  cases receives_of_receive received with
  | waits => rfl

theorem Going.receive_ne_end (going : f.Going) : f.receive ≠ (.ready none, g) := by
  intro received
  cases receives_of_receive received with
  | ends _ ending => simp [going.unstopped, going.running] at ending

theorem Going.receive {result : Poll (Option (Nat × T))} (going : f.Going)
    (received : f.receive = (result, g)) : g.Going := by
  cases receives_of_receive received with
  | gives => exact ⟨going.unstopped, going.running⟩
  | ends | waits => exact going

theorem Going.advance (booked : inputs.Booked valid taken) (ok : valid s) (going : f.Going)
    (advanced : f.advance inputs s = some (g, t)) :
    valid t ∧ g.Going ∧ ∃ items, taken s items t ∧ g.held = f.held ++ items := by
  cases advances_of_advance advanced with
  | finishes _ stopped => cases going.unstopped.symm.trans stopped
  | waits phase _ scanned =>
      obtain ⟨okAfter, took⟩ := booked.scan ok scanned
      exact ⟨okAfter, ⟨going.unstopped, rfl⟩, [], took, by simp [held, phase]⟩
  | takes phase _ scanned =>
      obtain ⟨okAfter, took⟩ := booked.scan ok scanned
      exact ⟨okAfter, ⟨going.unstopped, rfl⟩, _, took, by simp [held, phase]⟩
  | closes phase _ scanned =>
      obtain ⟨okAfter, took⟩ := booked.scan ok scanned
      exact ⟨okAfter, ⟨going.unstopped, rfl⟩, [], took, by simp [held, phase]⟩
  | crashes _ _ scanned => cases booked.scan ok scanned
  | gives phase _ room =>
      exact ⟨ok, ⟨going.unstopped, rfl⟩, [], booked.refl, by simp [held, room, phase]⟩

end FanIn

end ExchangeTap
