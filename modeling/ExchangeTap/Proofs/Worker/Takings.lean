import ExchangeTap.Proofs.FanIn.Held
import ExchangeTap.Proofs.Worker.Idle

namespace ExchangeTap.Item

def result? : Item → Option (Except BrokerError Delivery)
  | delivery result => some result
  | signal _ => none

def signal? : Item → Option Signal
  | delivery _ => none
  | signal value => some value

def results (items : List (Nat × Item)) : List (Nat × Except BrokerError Delivery) :=
  items.filterMap fun item => item.2.result?.map (item.1, ·)

def signals (items : List (Nat × Item)) : List Signal :=
  items.filterMap fun item => item.2.signal?

@[simp] theorem results_nil : results [] = [] := rfl

@[simp] theorem signals_nil : signals [] = [] := rfl

@[simp] theorem results_delivery (input : Nat) (result : Except BrokerError Delivery)
    (rest : List (Nat × Item)) :
    results ((input, delivery result) :: rest) = (input, result) :: results rest := rfl

@[simp] theorem results_signal (input : Nat) (value : Signal) (rest : List (Nat × Item)) :
    results ((input, signal value) :: rest) = results rest := rfl

@[simp] theorem signals_delivery (input : Nat) (result : Except BrokerError Delivery)
    (rest : List (Nat × Item)) : signals ((input, delivery result) :: rest) = signals rest := rfl

@[simp] theorem signals_signal (input : Nat) (value : Signal) (rest : List (Nat × Item)) :
    signals ((input, signal value) :: rest) = value :: signals rest := rfl

@[simp] theorem results_append (first second : List (Nat × Item)) :
    results (first ++ second) = results first ++ results second :=
  List.filterMap_append

@[simp] theorem signals_append (first second : List (Nat × Item)) :
    signals (first ++ second) = signals first ++ signals second :=
  List.filterMap_append

variable {consumers : List Nat} {s t u : Stage} {items : List (Nat × Item)} {input : Nat}

inductive Look (consumers : List Nat) (s : Stage) (input : Nat) : Glance Item → Stage → Prop where
  | reads (present : consumers[input]? = some index)
      (found : s.broker.consumers[index]? = some consumer)
      (inbox : consumer.inbox = result :: rest) :
      Look consumers s input (.item (.delivery result)) { s with
        broker.consumers := s.broker.consumers.set index { consumer with inbox := rest } }
  | waits (present : consumers[input]? = some index) : Look consumers s input .nothing s
  | misses (present : consumers[input]? = some index) (empty : s.broker.inbox index = []) :
      Look consumers s input .closed s
  | hears (absent : consumers[input]? = none)
      (polled : s.pollControl .merge = (.ready (some value), after)) :
      Look consumers s input (.item (.signal value)) after
  | listens (absent : consumers[input]? = none)
      (polled : s.pollControl .merge = (.pending, after)) :
      Look consumers s input .nothing after
  | ends (absent : consumers[input]? = none)
      (polled : s.pollControl .merge = (.ready none, after)) :
      Look consumers s input .closed after

theorem look_cases {glance : Glance Item} (looked : (inputs consumers).look s input = (glance, t)) :
    Look consumers s input glance t := by
  simp only [inputs] at looked
  split at looked
  · rename_i index present
    split at looked
    · rename_i found
      cases looked
      exact .misses present (by simp [Broker.inbox, found])
    · rename_i consumer found
      split at looked
      · rename_i inbox
        cases looked
        exact .reads present found inbox
      · rename_i inbox
        cases attached : consumer.attached with
        | true =>
            simp only [attached, if_true] at looked
            cases looked
            exact .waits present
        | false =>
            simp only [attached, Bool.false_eq_true, if_false] at looked
            cases looked
            exact .misses present (by simp [Broker.inbox, found, inbox])
  · rename_i absent
    split at looked <;> rename_i polled <;> cases looked
    · exact .hears absent polled
    · exact .ends absent polled
    · exact .listens absent polled

private theorem idle_ending (absent : consumers[input]? = none)
    (polled : s.pollControl .merge = (.ready none, t)) :
    s.Idle ((inputs consumers).release t input) := by
  have released : (inputs consumers).release t input = t.cancelControl .merge := by
    simp [inputs, absent]
  rw [released]
  rcases Stage.pollControl_eq polled with ⟨_, _, same, _⟩ | ⟨control, _, rfl⟩
  · cases same
  · exact (Stage.idle_control s control).trans (Stage.idle_control _ _)

/-! What consumers give away. -/

/-- Between two stages these items were taken. -/
structure Took (consumers : List Nat) (before : Stage) (items : List (Nat × Item))
    (after : Stage) : Prop extends before.Mute after where
  inbox : ∀ {input index}, consumers[input]? = some index →
    before.broker.inbox index = ofInput input (results items) ++ after.broker.inbox index
  known : ∀ {input}, consumers[input]? = none → ofInput input (results items) = []

private theorem took_of_idle (idle : s.Idle t) : Took consumers s [] t :=
  ⟨idle.toMute, fun _ => (idle.inbox _).symm, fun _ => rfl⟩

theorem Took.trans (first : Took consumers s [] t) (second : Took consumers t items u) :
    Took consumers s items u :=
  ⟨first.toMute.trans second.toMute,
    fun present => (first.inbox present).trans (second.inbox present), second.known⟩

private theorem took_result {index : Nat} {consumer : Consumer} {result : Except BrokerError Delivery}
    {rest : List (Except BrokerError Delivery)} (distinct : consumers.Nodup)
    (present : consumers[input]? = some index)
    (found : s.broker.consumers[index]? = some consumer) (inbox : consumer.inbox = result :: rest) :
    Took consumers s [(input, .delivery result)]
      { s with broker.consumers :=
          s.broker.consumers.set index { consumer with inbox := rest } } := by
  obtain ⟨inside, rfl⟩ := List.getElem?_eq_some_iff.mp found
  refine ⟨⟨rfl, rfl, by simp⟩, ?_, ?_⟩
  · intro other place reads
    by_cases same : index = place
    · -- no other input reads this consumer
      subst same
      obtain ⟨reading, _⟩ := List.getElem?_eq_some_iff.mp present
      cases (List.getElem?_inj reading distinct).mp (present.trans reads.symm)
      simp [Broker.inbox, inbox, inside]
    · have elsewhere : input ≠ other := by
        rintro rfl
        exact same (Option.some.inj (present.symm.trans reads))
      simp [Broker.inbox, same, elsewhere]
  · intro other absent
    have elsewhere : input ≠ other := by
      rintro rfl
      cases present.symm.trans absent
    simp [elsewhere]

private theorem took_release {index : Nat} (present : consumers[input]? = some index)
    (empty : s.broker.inbox index = []) :
    Took consumers s [] ((inputs consumers).release s input) := by
  have released : (inputs consumers).release s input = s.stopReading index := by
    simp [inputs, present]
  rw [released]
  refine took_of_idle ⟨Stage.unhearing_stopReading s index, fun other => ?_⟩
  rw [Stage.inbox_stopReading]
  split
  · rename_i same
    rw [← same, empty]
  · rfl

theorem booked_inputs (distinct : consumers.Nodup) :
    (inputs consumers).Booked (fun _ => True) (Took consumers) := by
  refine ⟨fun {s} => took_of_idle (.refl s), Took.trans, ?_, ?_, ?_, ?_⟩
  · intro s t input value _ looked
    refine ⟨trivial, ?_⟩
    cases look_cases looked with
    | reads present found inbox => exact took_result distinct present found inbox
    | hears absent polled =>
        refine ⟨Stage.mute_pollControl polled, fun _ => ?_, fun _ => rfl⟩
        rw [Stage.broker_pollControl polled]
        rfl
  · intro s t input _ looked
    refine ⟨trivial, ?_⟩
    cases look_cases looked with
    | waits => exact took_of_idle (.refl s)
    | listens absent polled => exact took_of_idle (Stage.idle_pollControl polled)
  · intro s t input _ looked
    refine ⟨trivial, ?_⟩
    cases look_cases looked with
    | misses present empty => exact took_release present empty
    | ends absent polled => exact took_of_idle (idle_ending absent polled)
  · intro s t input _ looked
    cases look_cases looked

private theorem mute_look {glance : Glance Item} (looked : (inputs consumers).look s input = (glance, t)) :
    s.Mute t := by
  cases look_cases looked with
  | reads => exact ⟨rfl, rfl, by simp⟩
  | waits | misses => exact (Stage.Idle.refl s).toMute
  | hears _ polled | listens _ polled | ends _ polled => exact Stage.mute_pollControl polled

private theorem unhearing_release (s : Stage) (input : Nat) :
    s.Unhearing ((inputs consumers).release s input) := by
  simp only [inputs]
  split
  · exact Stage.unhearing_stopReading s _
  · exact (Stage.idle_control s _).toUnhearing

theorem mute_advance {f g : FanIn Item} (advanced : f.advance (inputs consumers) s = some (g, t)) :
    s.Mute t :=
  FanIn.advance_keeps (fun held looked => held.trans (mute_look looked))
    (fun held => held.trans (unhearing_release _ _).toMute) (Stage.Idle.refl s).toMute advanced

/-! What the control path gives away. -/

def Heard (before : Stage) (items : List (Nat × Item)) (after : Stage) : Prop :=
  Journal.taken after.journal = Journal.taken before.journal ++ signals items

private theorem heard_of_unhearing (unhearing : s.Unhearing t) : Heard s [] t := by
  rw [Heard, unhearing.taken, signals_nil, List.append_nil]

theorem Heard.trans (first : Heard s [] t) (second : Heard t items u) : Heard s items u := by
  rw [Heard, second, first, signals_nil, List.append_nil]

private theorem heard_signal {value : Signal}
    (polled : s.pollControl .merge = (.ready (some value), t)) :
    Heard s [(input, .signal value)] t := by
  rcases Stage.pollControl_eq polled with ⟨other, control, same, rfl⟩ | ⟨control, unheard, rfl⟩
  · cases same
    simp [Heard, Event.taken?]
  · exact absurd rfl (unheard value)

theorem booked_signals (consumers : List Nat) :
    (inputs consumers).Booked (fun _ => True) Heard := by
  refine ⟨fun {s} => heard_of_unhearing (Stage.Idle.refl s).toUnhearing, Heard.trans, ?_, ?_, ?_,
    ?_⟩
  · intro s t input value _ looked
    refine ⟨trivial, ?_⟩
    cases look_cases looked with
    | reads present found inbox => simp [Heard]
    | hears absent polled => exact heard_signal polled
  · intro s t input _ looked
    refine ⟨trivial, ?_⟩
    cases look_cases looked with
    | waits => exact heard_of_unhearing (Stage.Idle.refl s).toUnhearing
    | listens absent polled => exact heard_of_unhearing (Stage.idle_pollControl polled).toUnhearing
  · intro s t input _ looked
    refine ⟨trivial, ?_⟩
    cases look_cases looked with
    | misses present empty => exact heard_of_unhearing (unhearing_release s input)
    | ends absent polled => exact heard_of_unhearing (idle_ending absent polled).toUnhearing
  · intro s t input _ looked
    cases look_cases looked

end ExchangeTap.Item
