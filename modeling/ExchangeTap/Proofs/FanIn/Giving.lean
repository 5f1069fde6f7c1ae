import ExchangeTap.FanIn.Sources
import ExchangeTap.Proofs.FanIn.Held

namespace ExchangeTap

namespace Source

def waiting : Source T → List T
  | channel items _ _ | fixed items | failing items => items

def isOpen : Source T → Bool
  | channel _ opened _ => opened
  | fixed _ | failing _ => false

/-- The source does not fail, and somebody listens as long as more can be put into it. -/
def isReliable : Source T → Bool
  | channel _ opened listening => listening || !opened
  | fixed _ => true
  | failing _ => false

def ofSources (sources : List (Source T)) (input : Nat) : Source T :=
  sources[input]?.getD (fixed [])

theorem ofSources_set (change : Source T → Source T) (absent : change (fixed []) = fixed [])
    (sources : List (Source T)) (input other : Nat) :
    ofSources (sources.set input (change (ofSources sources input))) other =
      if input = other then change (ofSources sources other) else ofSources sources other := by
  by_cases same : input = other
  · subst same
    by_cases inside : input < sources.length
    · simp [ofSources, inside]
    · have outside : sources.length ≤ input := Nat.le_of_not_lt inside
      simp [ofSources, outside, absent]
  · simp [ofSources, same]

private theorem inputs_look (sources : List (Source T)) (input : Nat) :
    inputs.look sources input =
      ((ofSources sources input).look.1, sources.set input (ofSources sources input).look.2) := by
  cases found : sources[input]? with
  | some source => simp [inputs, ofSources, found]
  | none =>
      have outside := List.getElem?_eq_none_iff.mp found
      simp [inputs, ofSources, found, look, List.set_eq_of_length_le outside]

@[simp] private theorem inputs_release (sources : List (Source T)) (input : Nat) :
    inputs.release sources input = sources.set input (ofSources sources input).release := by
  cases found : sources[input]? with
  | some source => simp [inputs, ofSources, found]
  | none =>
      have outside := List.getElem?_eq_none_iff.mp found
      simp [inputs, found, List.set_eq_of_length_le outside]

theorem look_cases {source : Source T} (reliable : source.isReliable = true) :
    (∃ item, source.look.1 = .item item ∧ source.waiting = item :: source.look.2.waiting ∧
      source.look.2.isOpen = source.isOpen ∧ source.look.2.isReliable = true) ∨
    (source.look.1 = .nothing ∧ source.look.2 = source) ∨
    source.look.1 = .closed ∧ source.look.2 = source ∧ source.waiting = [] ∧
      source.isOpen = false := by
  cases source with
  | channel items opened listening =>
      cases items with
      | cons item rest => exact .inl ⟨item, rfl, rfl, rfl, reliable⟩
      | nil =>
          cases opened with
          | true => exact .inr (.inl ⟨rfl, rfl⟩)
          | false => exact .inr (.inr ⟨rfl, rfl, rfl, rfl⟩)
  | fixed items =>
      cases items with
      | cons item rest => exact .inl ⟨item, rfl, rfl, rfl, rfl⟩
      | nil => exact .inr (.inr ⟨rfl, rfl, rfl, rfl⟩)
  | failing items => cases reliable

theorem push_spec {source : Source T} {item : T} (reliable : source.isReliable = true) :
    (source.push item).2.waiting = source.waiting ++ (if source.isOpen then [item] else []) ∧
      (source.push item).2.isOpen = source.isOpen ∧ (source.push item).2.isReliable = true := by
  cases source with
  | channel items opened listening =>
      cases opened with
      | false => simp [push, waiting, isOpen, isReliable]
      | true =>
          cases listening with
          | false => cases reliable
          | true => simp [push, waiting, isOpen, isReliable]
  | fixed items => simp [push, waiting, isOpen, isReliable]
  | failing items => cases reliable

theorem close_spec (source : Source T) :
    source.close.2.waiting = source.waiting ∧ source.close.2.isOpen = false := by
  cases source with
  | channel items opened listening => cases opened <;> exact ⟨rfl, rfl⟩
  | fixed items | failing items => exact ⟨rfl, rfl⟩

theorem isReliable_close {source : Source T} (reliable : source.isReliable = true) :
    source.close.2.isReliable = true := by
  cases source with
  | channel items opened listening =>
      cases opened with
      | false => exact reliable
      | true => simp [close, isReliable]
  | fixed items => rfl
  | failing items => cases reliable

private theorem release_of_closed {source : Source T} (reliable : source.isReliable = true)
    (closed : source.isOpen = false) :
    source.release.waiting = [] ∧ source.release.isOpen = false ∧
      source.release.isReliable = true := by
  cases source with
  | channel items opened listening =>
      cases closed
      exact ⟨rfl, rfl, rfl⟩
  | fixed items => exact ⟨rfl, rfl, rfl⟩
  | failing items => cases reliable

def Reliable (sources : List (Source T)) : Prop :=
  ∀ input, (ofSources sources input).isReliable = true

theorem reliable_of_all {sources : List (Source T)}
    (all : ∀ source ∈ sources, source.isReliable = true) : Reliable sources := by
  intro input
  cases found : sources[input]? with
  | some source => simpa [ofSources, found] using all source (List.mem_of_getElem? found)
  | none => simp [ofSources, found, isReliable]

theorem Reliable.set (change : Source T → Source T) (absent : change (fixed []) = fixed [])
    {sources : List (Source T)} (reliable : Reliable sources) {input : Nat}
    (stays : (change (ofSources sources input)).isReliable = true) :
    Reliable (sources.set input (change (ofSources sources input))) := by
  intro other
  rw [ofSources_set change absent]
  split
  · rename_i here
    rw [← here]
    exact stays
  · exact reliable other

def Gave (before : List (Source T)) (items : List (Nat × T)) (after : List (Source T)) : Prop :=
  ∀ input,
    (ofSources before input).waiting = ofInput input items ++ (ofSources after input).waiting ∧
    (ofSources after input).isOpen = (ofSources before input).isOpen

theorem Gave.refl (sources : List (Source T)) : Gave sources [] sources :=
  fun _ => ⟨rfl, rfl⟩

theorem Gave.trans {s t u : List (Source T)} {items : List (Nat × T)} (first : Gave s [] t)
    (second : Gave t items u) : Gave s items u := by
  intro input
  obtain ⟨nothing, same⟩ := first input
  obtain ⟨took, still⟩ := second input
  exact ⟨nothing.trans took, still.trans same⟩

private theorem gave_of_set (change : Source T → Source T) (absent : change (fixed []) = fixed [])
    {sources : List (Source T)} (reliable : Reliable sources) {input : Nat} (items : List T)
    (stays : (change (ofSources sources input)).isReliable = true)
    (waiting : (ofSources sources input).waiting =
      items ++ (change (ofSources sources input)).waiting)
    (isOpen : (change (ofSources sources input)).isOpen = (ofSources sources input).isOpen) :
    Reliable (sources.set input (change (ofSources sources input))) ∧
      Gave sources (items.map (input, ·))
        (sources.set input (change (ofSources sources input))) := by
  refine ⟨reliable.set change absent stays, fun other => ?_⟩
  rw [ofSources_set change absent, ofInput_map_mk]
  split
  · rename_i here
    rw [← here]
    exact ⟨waiting, isOpen⟩
  · exact ⟨rfl, rfl⟩

private theorem gave_of_idle_look {sources : List (Source T)} (reliable : Reliable sources) {input : Nat}
    (same : (ofSources sources input).look.2 = ofSources sources input) :
    Reliable (sources.set input (ofSources sources input).look.2) ∧
      Gave sources [] (sources.set input (ofSources sources input).look.2) :=
  gave_of_set (fun source => source.look.2) rfl reliable []
    (by rw [same]; exact reliable input) (by rw [same]; rfl) (by rw [same])

theorem booked_inputs : (inputs : Inputs (List (Source T)) T).Booked Reliable Gave := by
  refine ⟨fun {s} => Gave.refl s, Gave.trans, ?_, ?_, ?_, ?_⟩
  · intro s t input value reliable looked
    rw [inputs_look] at looked
    obtain ⟨seen, rfl⟩ := Prod.mk.inj looked
    rcases look_cases (reliable input) with
      ⟨item, found, waiting, isOpen, stays⟩ | ⟨found, _⟩ | ⟨found, _⟩
    · cases found.symm.trans seen
      exact gave_of_set (fun source => source.look.2) rfl reliable [value]
        stays waiting isOpen
    · cases found.symm.trans seen
    · cases found.symm.trans seen
  · intro s t input reliable looked
    rw [inputs_look] at looked
    obtain ⟨seen, rfl⟩ := Prod.mk.inj looked
    rcases look_cases (reliable input) with ⟨_, found, _⟩ | ⟨_, same⟩ | ⟨found, _⟩
    · cases found.symm.trans seen
    · exact gave_of_idle_look reliable same
    · cases found.symm.trans seen
  · intro s t input reliable looked
    rw [inputs_look] at looked
    obtain ⟨seen, rfl⟩ := Prod.mk.inj looked
    rcases look_cases (reliable input) with ⟨_, found, _⟩ | ⟨found, _⟩ | ⟨_, same, empty, closed⟩
    · cases found.symm.trans seen
    · cases found.symm.trans seen
    · obtain ⟨still, looking⟩ := gave_of_idle_look reliable same
      obtain ⟨nothing, shut⟩ := looking input
      have emptyAfter := nothing.symm.trans empty
      have closedAfter := shut.trans closed
      obtain ⟨released, unopened, stays⟩ := release_of_closed (still input) closedAfter
      rw [inputs_release]
      obtain ⟨reliableLast, releasing⟩ := gave_of_set release rfl still []
        stays (by rw [released]; exact emptyAfter) (unopened.trans closedAfter.symm)
      exact ⟨reliableLast, looking.trans releasing⟩
  · intro s t input reliable looked
    rw [inputs_look] at looked
    obtain ⟨seen, _⟩ := Prod.mk.inj looked
    rcases look_cases (reliable input) with ⟨_, found, _⟩ | ⟨found, _⟩ | ⟨found, _⟩ <;>
      cases found.symm.trans seen

end Source

end ExchangeTap
