import ExchangeTap.Proofs.Worker.Intake
import ExchangeTap.Proofs.Worker.Merging
import ExchangeTap.Proofs.Worker.Takings

/-! What was delivered to a consumer is read by the merge, held by it, received by the worker and
handed to the output; at each of these places the order is kept, and only errors are left out. -/

namespace ExchangeTap

def deliveries (results : List (Nat × Except BrokerError Delivery)) : List (Nat × Delivery) :=
  results.filterMap fun result => result.2.toOption.map (result.1, ·)

def successes (results : List (Except BrokerError Delivery)) : List Delivery :=
  results.filterMap Except.toOption

@[simp] theorem deliveries_append (first second : List (Nat × Except BrokerError Delivery)) :
    deliveries (first ++ second) = deliveries first ++ deliveries second :=
  List.filterMap_append

@[simp] theorem successes_append (first second : List (Except BrokerError Delivery)) :
    successes (first ++ second) = successes first ++ successes second :=
  List.filterMap_append

@[simp] theorem deliveries_ok (input : Nat) (delivery : Delivery)
    (rest : List (Nat × Except BrokerError Delivery)) :
    deliveries ((input, .ok delivery) :: rest) = (input, delivery) :: deliveries rest := rfl

@[simp] theorem deliveries_error (input : Nat) (e : BrokerError)
    (rest : List (Nat × Except BrokerError Delivery)) :
    deliveries ((input, .error e) :: rest) = deliveries rest := rfl

private theorem ofInput_deliveries (input : Nat) (results : List (Nat × Except BrokerError Delivery)) :
    ofInput input (deliveries results) = successes (ofInput input results) := by
  induction results with
  | nil => rfl
  | cons result rest ih =>
      obtain ⟨other, result⟩ := result
      rw [ofInput_cons, successes_append, ← ih]
      cases result with
      | ok delivery =>
          rw [deliveries_ok, ofInput_cons]
          split <;> rfl
      | error e =>
          rw [deliveries_error]
          split <;> rfl

private theorem length_deliveries_le (results : List (Nat × Except BrokerError Delivery)) :
    (deliveries results).length ≤ results.length :=
  List.length_filterMap_le _ _

theorem Stage.closed_of_hand {s : Stage} {input : Option Nat} {envelope : Envelope Received}
    (handed : s.hand input envelope = .closed) : s.output.receiving = false := by
  unfold hand Pipe.send at handed
  cases receiving : s.output.receiving with
  | false => rfl
  | true =>
      simp only [receiving, Bool.not_true, Bool.false_eq_true, if_false] at handed
      split at handed
      · cases handed
      · cases handed
      · rename_i sent
        split at sent <;> cases sent

namespace Forward

def inHand : Forward → List (Nat × Delivery)
  | waiting => []
  | sending input message => [(input, message.delivery)]

theorem length_inHand_le (forward : Forward) : forward.inHand.length ≤ 1 := by
  cases forward <;> simp [inHand]

/-- What the worker and its merge have between the consumers and the output. -/
def inFlight (forward : Forward) (f : FanIn Item) : List (Nat × Delivery) :=
  forward.inHand ++ deliveries (Item.results f.held)

theorem length_inFlight_le (forward : Forward) (f : FanIn Item) :
    (forward.inFlight f).length ≤ 3 := by
  have own := forward.length_inHand_le
  have merged := f.length_held_le
  have few : (Item.results f.held).length ≤ f.held.length := List.length_filterMap_le _ _
  have fewer := length_deliveries_le (Item.results f.held)
  rw [inFlight, List.length_append]
  omega

variable {forward next : Forward} {f g : FanIn Item} {s t : Stage}

/-- While the forwarding goes on nothing is lost between the fan-in and the output. -/
structure Carries (forward : Forward) (f : FanIn Item) (s : Stage) (next : Forward)
    (g : FanIn Item) (t : Stage) : Prop where
  going : g.Going
  merge : g.merge = f.merge
  broker : t.broker = s.broker
  receiving : t.output.receiving = s.output.receiving
  taken : Journal.taken t.journal = Journal.taken s.journal
  signals : Item.signals g.held = Item.signals f.held
  unsignalled : forward = waiting → ∀ input signal, f.outlet ≠ some (input, .signal signal)
  emitted : Journal.forwarded t.journal ++ next.inFlight g =
    Journal.forwarded s.journal ++ forward.inFlight f

private theorem carries_waiting {received : FanIn Item} {input : Nat} {item : Item} (going : f.Going)
    (got : f.receive = (.ready (some (input, item)), received))
    (accepted : accept input item s = (.continue next, t)) :
    waiting.Carries f s next received t := by
  have still := going.receive got
  have merge := FanIn.merge_receive got
  have held := FanIn.held_of_receive got
  have outlet := FanIn.outlet_of_receive got
  cases item with
  | signal value => cases value <;> cases accepted
  | delivery result =>
      have unsignalled : ∀ other signal, f.outlet ≠ some (other, .signal signal) := by
        intro other signal same
        cases outlet.symm.trans same
      cases result with
      | ok delivery =>
          cases accepted
          refine ⟨still, merge, rfl, rfl, rfl, by simp [held], fun _ => unsignalled, ?_⟩
          simp [inFlight, inHand, held]
      | error e =>
          cases accepted
          refine ⟨still, merge, rfl, rfl, ?_, by simp [held], fun _ => unsignalled, ?_⟩
          · simp [Event.taken?]
          · simp [inFlight, inHand, held, Event.forwarded?]

private theorem carries_sending {input : Nat} {message : Received} (going : f.Going)
    (handed : s.hand (some input) (.delivered message) = .done t) :
    (sending input message).Carries f s waiting f t := by
  unfold Stage.hand at handed
  split at handed <;> rename_i output sent <;> cases handed
  refine ⟨going, rfl, rfl, Pipe.receiving_of_send sent, ?_, rfl, fun same => (nomatch same), ?_⟩
  · simp [Event.taken?]
  · simp [inFlight, inHand, Event.forwarded?]

theorem carries_of_step (going : f.Going)
    (stepped : forward.step f s = some (.continue next, g, t)) : forward.Carries f s next g t := by
  cases forward with
  | waiting =>
      simp only [step] at stepped
      split at stepped
      · cases stepped
      · cases stepped
      · rename_i got
        simp only [Option.some.injEq, Prod.mk.injEq] at stepped
        obtain ⟨accepted, rfl, rfl⟩ := stepped
        exact carries_waiting going got (Prod.ext accepted rfl)
  | sending input message =>
      simp only [step] at stepped
      split at stepped <;> rename_i handed <;> cases stepped
      exact carries_sending going handed

/-- Why the forwarding ends: for a signal, or for an output that is closed. -/
inductive Parts (forward : Forward) (f : FanIn Item) (s : Stage) : Action → Prop where
  | signalled {input : Nat} {signal : Signal} {action : Action} (waits : forward = waiting)
      (received : f.outlet = some (input, .signal signal))
      (answers : action = .reconnect ↔ signal = .reconnect) : Parts forward f s action
  | unwanted {input : Nat} {message : Received} (sends : forward = sending input message)
      (closed : s.output.receiving = false) : Parts forward f s .stop

variable {action : Action}

private theorem mute_accept (input : Nat) (item : Item) (s : Stage) :
    s.Mute (accept input item s).2 := by
  cases item with
  | delivery result =>
      cases result with
      | ok delivery => exact (Stage.Idle.refl s).toMute
      | error e => exact (Stage.idle_log s _).toMute
  | signal value => cases value <;> exact (Stage.idle_log s _).toMute

theorem output_accept (input : Nat) (item : Item) (s : Stage) :
    (accept input item s).2.output = s.output := by
  cases item with
  | delivery result => cases result <;> rfl
  | signal value => cases value <;> rfl

private theorem parts_waiting {received : FanIn Item} {input : Nat} {item : Item}
    (got : f.receive = (.ready (some (input, item)), received))
    (left : (accept input item s).1 = .leave action) : waiting.Parts f s action := by
  have outlet := FanIn.outlet_of_receive got
  cases item with
  | signal value =>
      cases value <;> cases left
      · exact .signalled rfl outlet (by simp)
      · exact .signalled rfl outlet (by simp)
  | delivery result => cases result <;> cases left

theorem parts_of_step (going : f.Going)
    (stepped : forward.step f s = some (.leave action, g, t)) :
    s.Mute t ∧ forward.Parts f s action := by
  cases forward with
  | waiting =>
      simp only [step] at stepped
      split at stepped
      · cases stepped
      · rename_i ended
        cases going.receive_ne_end ended
      · rename_i got
        simp only [Option.some.injEq, Prod.mk.injEq] at stepped
        obtain ⟨left, rfl, rfl⟩ := stepped
        exact ⟨mute_accept _ _ s, parts_waiting got left⟩
  | sending input message =>
      simp only [step] at stepped
      split at stepped <;> rename_i handed <;> cases stepped
      exact ⟨(Stage.idle_log s _).toMute, .unwanted rfl (Stage.closed_of_hand handed)⟩

theorem output_of_step {outcome : Outcome} (stepped : forward.step f s = some (outcome, g, t)) :
    ∃ more : List (Nat × Received),
      Journal.forwarded t.journal =
        Journal.forwarded s.journal ++ more.map (fun item => (item.1, item.2.delivery)) ∧
      t.output.items = s.output.items ++ more.map fun item => .delivered item.2 := by
  cases forward with
  | waiting =>
      simp only [step] at stepped
      split at stepped
      · cases stepped
      · cases stepped
        exact ⟨[], by simp, by simp⟩
      · cases stepped
        refine ⟨[], ?_, ?_⟩
        · rw [(mute_accept _ _ s).forwarded, List.map_nil, List.append_nil]
        · rw [output_accept, List.map_nil, List.append_nil]
  | sending input message =>
      simp only [step] at stepped
      split at stepped
      · cases stepped
      · cases stepped
        exact ⟨[], by simp [Event.forwarded?],
          by simp⟩
      · rename_i handed
        cases stepped
        unfold Stage.hand at handed
        split at handed <;> rename_i output sent <;> cases handed
        refine ⟨[(input, message)], ?_, Pipe.items_of_send sent⟩
        simp [Event.forwarded?]

end Forward

/-- What consumers were sent is accounted for: some of it was emitted, and the rest still waits. -/
structure Balanced (own : List Nat) (emitted : List (Nat × Delivery))
    (pushed : Nat → List (Except BrokerError Delivery)) (b : Broker) : Prop where
  distinct : own.Nodup
  known : ∀ index ∈ own, index < b.consumers.length
  unknown : ∀ index, b.consumers.length ≤ index → pushed index = []
  kept : ∀ {input index}, own[input]? = some index →
    ofInput input emitted ++ successes (b.inbox index) = successes (pushed index)
  nothing : ∀ {input}, own[input]? = none → ofInput input emitted = []

namespace Balanced

variable {own later : List Nat} {emitted : List (Nat × Delivery)} {s t : Stage}
variable {pushed : Nat → List (Except BrokerError Delivery)}

theorem same {b c : Broker} (balanced : Balanced own emitted pushed b)
    (count : b.consumers.length ≤ c.consumers.length)
    (inbox : ∀ index, c.inbox index = b.inbox index) : Balanced own emitted pushed c := by
  refine ⟨balanced.distinct, ?_, ?_, ?_, balanced.nothing⟩
  · exact fun index member => Nat.lt_of_lt_of_le (balanced.known index member) count
  · exact fun index beyond => balanced.unknown index (Nat.le_trans count beyond)
  · intro input index reads
    rw [inbox]
    exact balanced.kept reads

theorem grows (balanced : Balanced own [] pushed s.broker) (idle : s.Idle t)
    (grows : Intake.Grows s t own later) : Balanced later [] pushed t.broker := by
  rcases grows with rfl | ⟨rfl, added⟩
  · exact balanced.same idle.count idle.inbox
  · have before := balanced.same idle.count idle.inbox
    refine ⟨?_, ?_, before.unknown, ?_, fun _ => rfl⟩
    · refine List.nodup_append.mpr ⟨balanced.distinct, by simp, ?_⟩
      rintro index member _ last rfl
      have small := balanced.known index member
      cases List.mem_singleton.mp last
      omega
    · intro index member
      rcases List.mem_append.mp member with old | new
      · exact before.known index old
      · cases List.mem_singleton.mp new
        exact added
    · intro input index reads
      rw [List.getElem?_append] at reads
      split at reads
      · exact before.kept reads
      · -- the new consumer has the next number, and nothing was pushed to it yet
        rw [List.getElem?_singleton] at reads
        split at reads <;> cases reads
        rw [idle.inbox, Broker.inbox_of_length_le (Nat.le_refl _),
          balanced.unknown _ (Nat.le_refl _)]
        rfl

theorem took {items : List (Nat × Item)} (balanced : Balanced own emitted pushed s.broker)
    (took : Item.Took own s items t) :
    Balanced own (emitted ++ deliveries (Item.results items)) pushed t.broker := by
  refine ⟨balanced.distinct, ?_, ?_, ?_, ?_⟩
  · exact fun index member => Nat.lt_of_lt_of_le (balanced.known index member) took.count
  · exact fun index beyond => balanced.unknown index (Nat.le_trans took.count beyond)
  · intro input index reads
    rw [← balanced.kept reads, took.inbox reads, successes_append, ofInput_append,
      ofInput_deliveries, List.append_assoc]
  · intro input absent
    rw [ofInput_append, ofInput_deliveries, balanced.nothing absent, took.known absent]
    rfl

end Balanced

end ExchangeTap
