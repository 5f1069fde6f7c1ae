import ExchangeTap.Proofs.Worker.Telling

namespace ExchangeTap

/-- A delivery that has gone to the output, with the number of its input. -/
def Event.forwarded? : Event → Option (Nat × Delivery)
  | handedOver (some input) (.delivered message) => some (input, message.delivery)
  | _ => none

namespace Journal

/-- The deliveries that have gone to the output, in order. -/
def forwarded (journal : Journal) : List (Nat × Delivery) :=
  (journal.filterMap Event.forwarded?).reverse

@[simp] theorem forwarded_nil : forwarded [] = [] := rfl

@[simp] theorem forwarded_cons (e : Event) (journal : Journal) :
    forwarded (e :: journal) = forwarded journal ++ e.forwarded?.toList := by
  cases forwarded : e.forwarded? <;> simp [Journal.forwarded, forwarded]

@[simp] theorem forwarded_append (events journal : Journal) :
    forwarded (events ++ journal) = forwarded journal ++ forwarded events := by
  simp [forwarded]

end Journal

namespace Pipe

variable {pipe after : Pipe α} {item : α}

theorem eq_of_send (sent : pipe.send item = .sent after) :
    after = { pipe with items := pipe.items ++ [item] } := by
  unfold send at sent
  split at sent
  · cases sent
  · split at sent <;> cases sent
    rfl

theorem receiving_of_send (sent : pipe.send item = .sent after) :
    after.receiving = pipe.receiving := by
  rw [eq_of_send sent]

theorem items_of_send (sent : pipe.send item = .sent after) :
    after.items = pipe.items ++ [item] := by
  rw [eq_of_send sent]

end Pipe

namespace Broker

/-- What was delivered to a consumer and not yet read. -/
def inbox (b : Broker) (index : Nat) : List (Except BrokerError Delivery) :=
  match b.consumers[index]? with
  | some consumer => consumer.inbox
  | none => []

theorem inbox_of_length_le {b : Broker} {index : Nat} (absent : b.consumers.length ≤ index) :
    b.inbox index = [] := by
  simp [inbox, List.getElem?_eq_none absent]

theorem inbox_map {b c : Broker} {change : Consumer → Consumer}
    (kept : ∀ consumer, (change consumer).inbox = consumer.inbox)
    (consumers : c.consumers = b.consumers.map change) (index : Nat) :
    c.inbox index = b.inbox index := by
  rw [inbox, inbox, consumers, List.getElem?_map]
  cases b.consumers[index]? with
  | none => rfl
  | some consumer => exact kept consumer

private theorem inbox_detach (queue : String) (consumer : Consumer) :
    (detach queue consumer).inbox = consumer.inbox := by
  unfold detach
  split <;> rfl

private theorem inbox_apply (b : Broker) (op : Operation) (index : Nat) :
    (b.apply op).inbox index = b.inbox index := by
  cases op with
  | deleteQueue name => exact inbox_map (inbox_detach name) rfl index
  | consume queue tag =>
      by_cases inside : index < b.consumers.length
      · simp [inbox, apply, List.getElem?_append_left inside]
      · rw [inbox_of_length_le (Nat.le_of_not_lt inside)]
        rw [inbox, apply, List.getElem?_append_right (Nat.le_of_not_lt inside)]
        cases index - b.consumers.length <;> rfl
  | _ => rfl

private theorem length_consumers_apply (b : Broker) (op : Operation) :
    b.consumers.length ≤ (b.apply op).consumers.length := by
  cases op <;> simp [apply]

end Broker

namespace Stage

structure Mute (before after : Stage) : Prop where
  forwarded : Journal.forwarded after.journal = Journal.forwarded before.journal
  receiving : after.output.receiving = before.output.receiving
  count : before.broker.consumers.length ≤ after.broker.consumers.length

structure Unhearing (before after : Stage) : Prop extends Mute before after where
  taken : Journal.taken after.journal = Journal.taken before.journal

/-- Nothing happens to what the consumers have. -/
structure Idle (before after : Stage) : Prop extends Unhearing before after where
  inbox : ∀ index, after.broker.inbox index = before.broker.inbox index

variable {s t u : Stage}

theorem Mute.trans (first : s.Mute t) (second : t.Mute u) : s.Mute u :=
  ⟨second.forwarded.trans first.forwarded, second.receiving.trans first.receiving,
    Nat.le_trans first.count second.count⟩

theorem Unhearing.trans (first : s.Unhearing t) (second : t.Unhearing u) : s.Unhearing u :=
  ⟨first.toMute.trans second.toMute, second.taken.trans first.taken⟩

theorem Idle.refl (s : Stage) : s.Idle s :=
  ⟨⟨⟨rfl, rfl, Nat.le_refl _⟩, rfl⟩, fun _ => rfl⟩

theorem Idle.trans (first : s.Idle t) (second : t.Idle u) : s.Idle u :=
  ⟨first.toUnhearing.trans second.toUnhearing,
    fun index => (second.inbox index).trans (first.inbox index)⟩

private theorem idle_record (s : Stage) {e : Event} (silent : e.forwarded? = none)
    (untaken : e.taken? = none) : s.Idle (s.record e) := by
  refine ⟨⟨⟨?_, rfl, Nat.le_refl _⟩, ?_⟩, fun _ => rfl⟩
  · simp [silent]
  · simp [untaken]

theorem idle_log (s : Stage) (entry : LogEntry) : s.Idle (s.log entry) :=
  idle_record s rfl rfl

theorem idle_mint (s : Stage) : s.Idle s.mint.2 :=
  ⟨⟨⟨rfl, rfl, Nat.le_refl _⟩, rfl⟩, fun _ => rfl⟩

theorem idle_control (s : Stage) (control : ControlPath Reader) :
    s.Idle { s with control := control } :=
  ⟨⟨⟨rfl, rfl, Nat.le_refl _⟩, rfl⟩, fun _ => rfl⟩

theorem idle_feed (s : Stage) (feed : Pipe Outbound) : s.Idle { s with feed := feed } :=
  ⟨⟨⟨rfl, rfl, Nat.le_refl _⟩, rfl⟩, fun _ => rfl⟩

private theorem idle_broker (s : Stage) {broker : Broker}
    (inbox : ∀ index, broker.inbox index = s.broker.inbox index)
    (consumers : s.broker.consumers.length ≤ broker.consumers.length) :
    s.Idle { s with broker := broker } :=
  ⟨⟨⟨rfl, rfl, consumers⟩, rfl⟩, inbox⟩

theorem idle_openChannel {result : Except BrokerError Channel}
    (opened : s.openChannel = (result, t)) : s.Idle t := by
  have kept : ∀ answer broker, s.broker.openChannel = (answer, broker) →
      broker.consumers = s.broker.consumers := by
    intro answer broker asked
    unfold Broker.openChannel at asked
    split at asked <;> cases asked <;> rfl
  unfold openChannel at opened
  split at opened <;> rename_i broker asked <;> cases opened <;>
    have same := kept _ _ asked <;>
    refine .trans (idle_broker s ?_ (Nat.le_of_eq (by rw [same]))) (idle_record _ rfl rfl) <;>
    exact fun index => by rw [Broker.inbox, same, Broker.inbox]

private theorem kept_execute (b : Broker) (op : Operation) :
    (∀ index, (b.execute op).2.inbox index = b.inbox index) ∧
      b.consumers.length ≤ (b.execute op).2.consumers.length := by
  simp only [Broker.execute]
  split
  · exact ⟨fun _ => rfl, Nat.le_refl _⟩
  · exact ⟨Broker.inbox_apply _ op,
      Broker.length_consumers_apply { b with refusals := (Refusal.answer op b.refusals).2 } op⟩

theorem idle_execute {channel after : Channel} {op : Operation}
    {result : Except BrokerError Unit} (executed : s.execute channel op = (result, after, t)) :
    s.Idle t := by
  unfold execute at executed
  split at executed <;> cases executed
  · exact idle_record s rfl rfl
  · obtain ⟨inbox, consumers⟩ := kept_execute s.broker op
    exact (idle_broker s inbox consumers).trans (idle_record _ rfl rfl)

theorem idle_hand {error : TapError} (handed : s.hand none (.failed error) = .done t) :
    s.Idle t := by
  unfold hand at handed
  split at handed <;> rename_i output sent <;> cases handed
  have receiving := Pipe.receiving_of_send sent
  have given : s.Idle { s with output := output } :=
    ⟨⟨⟨rfl, receiving, Nat.le_refl _⟩, rfl⟩, fun _ => rfl⟩
  exact given.trans (idle_record _ rfl rfl)

theorem pollControl_eq {r : Reader} {result : Poll (Option Signal)}
    (polled : s.pollControl r = (result, t)) :
    (∃ signal control, result = .ready (some signal) ∧
      t = { s with control := control }.record (.signalTaken signal r)) ∨
    (∃ control, (∀ signal, result ≠ .ready (some signal)) ∧ t = { s with control := control }) := by
  unfold pollControl at polled
  cases answer : s.control.poll r with
  | mk outcome control =>
      rw [answer] at polled
      cases outcome with
      | pending =>
          cases polled
          exact .inr ⟨control, fun _ same => (nomatch same), rfl⟩
      | ready value =>
          cases value with
          | none =>
              cases polled
              exact .inr ⟨control, fun _ same => (nomatch same), rfl⟩
          | some signal =>
              cases polled
              exact .inl ⟨signal, control, rfl, rfl⟩

theorem mute_pollControl {r : Reader} {result : Poll (Option Signal)}
    (polled : s.pollControl r = (result, t)) : s.Mute t := by
  rcases pollControl_eq polled with ⟨signal, control, rfl, rfl⟩ | ⟨control, _, rfl⟩
  · exact ⟨by simp [Event.forwarded?], rfl, Nat.le_refl _⟩
  · exact (idle_control s control).toMute

theorem broker_pollControl {r : Reader} {result : Poll (Option Signal)}
    (polled : s.pollControl r = (result, t)) : t.broker = s.broker := by
  rcases pollControl_eq polled with ⟨_, _, _, rfl⟩ | ⟨_, _, rfl⟩ <;> rfl

theorem idle_pollControl {r : Reader} (polled : s.pollControl r = (.pending, t)) : s.Idle t := by
  rcases pollControl_eq polled with ⟨signal, control, same, rfl⟩ | ⟨control, _, rfl⟩
  · cases same
  · exact idle_control s control

theorem inbox_stopReading (s : Stage) (index other : Nat) :
    (s.stopReading index).broker.inbox other =
      if index = other then [] else s.broker.inbox other := by
  simp only [stopReading, Broker.inbox, List.getElem?_modify]
  cases s.broker.consumers[other]? with
  | none => simp
  | some consumer =>
      by_cases same : index = other <;> simp [same]

theorem unhearing_stopReading (s : Stage) (index : Nat) : s.Unhearing (s.stopReading index) :=
  ⟨⟨rfl, rfl, by simp [stopReading]⟩, rfl⟩

theorem unhearing_stopReadings (s : Stage) (indices : List Nat) :
    s.Unhearing (indices.foldl stopReading s) := by
  induction indices generalizing s with
  | nil => exact (Idle.refl s).toUnhearing
  | cons index rest ih => exact (unhearing_stopReading s index).trans (ih (s.stopReading index))

end Stage

end ExchangeTap
