import ExchangeTap.Proofs.Control.Lock
import ExchangeTap.Proofs.Worker.Journal
import ExchangeTap.Proofs.Worker.Telling

/-! A worker takes signals from the control path and puts none there, it does not touch the fate of
the connection, and it tells in the journal only what is its own to tell. -/

namespace ExchangeTap.Stage

/-- The worker does something that has nothing to do with the control path. -/
structure Quiet (before after : Stage) : Prop where
  control : after.control = before.control
  loss : after.broker.loss = before.broker.loss
  tells : before.Tells (fun e => e.byWorker = true ∧ e.taken? = none) after

structure Worked (before after : Stage) : Prop where
  reserved : after.control.reserved = before.control.reserved
  senderAlive : after.control.senderAlive = before.control.senderAlive
  loss : after.broker.loss = before.broker.loss
  tells : before.Tells (·.byWorker = true) after
  balance :
    Journal.taken after.journal ++ after.control.slot.toList =
      Journal.taken before.journal ++ before.control.slot.toList

variable {s t u : Stage}

theorem Worked.directs (worked : s.Worked t) : s.Tells (·.directs = false) t :=
  worked.tells.mono fun _ => Event.directs_of_byWorker

theorem Worked.connects (worked : s.Worked t) : s.Tells (·.connects = false) t :=
  worked.directs.mono fun _ => Event.connects_of_directs

theorem Quiet.refl (s : Stage) : s.Quiet s :=
  ⟨rfl, rfl, .refl s⟩

theorem Quiet.trans (first : s.Quiet t) (second : t.Quiet u) : s.Quiet u :=
  ⟨second.control.trans first.control, second.loss.trans first.loss,
    first.tells.trans second.tells⟩

theorem Worked.refl (s : Stage) : s.Worked s :=
  ⟨rfl, rfl, rfl, .refl s, rfl⟩

theorem Worked.trans (first : s.Worked t) (second : t.Worked u) : s.Worked u :=
  ⟨second.reserved.trans first.reserved, second.senderAlive.trans first.senderAlive,
    second.loss.trans first.loss, first.tells.trans second.tells,
    second.balance.trans first.balance⟩

theorem Quiet.worked (quiet : s.Quiet t) : s.Worked t := by
  obtain ⟨events, journal, own⟩ := quiet.tells
  have nothingTaken : Journal.taken events = [] := by
    rw [Journal.taken, List.reverse_eq_nil_iff, List.filterMap_eq_nil_iff]
    exact fun e member => (own e member).2
  refine ⟨by rw [quiet.control], by rw [quiet.control], quiet.loss,
    quiet.tells.mono fun _ both => both.1, ?_⟩
  rw [journal, Journal.taken_append, nothingTaken, quiet.control, List.append_nil]

theorem Quiet.usedBy {user : Option Reader} (quiet : s.Quiet t) (used : s.control.UsedBy user) :
    t.control.UsedBy user := by
  rw [quiet.control]
  exact used

/-! The operations of a stage, one after another. -/

theorem quiet_record (s : Stage) {e : Event} (own : e.byWorker = true)
    (nothing : e.taken? = none) : s.Quiet (s.record e) :=
  ⟨rfl, rfl, tells_record s ⟨own, nothing⟩⟩

theorem quiet_log (s : Stage) (entry : LogEntry) : s.Quiet (s.log entry) :=
  quiet_record s rfl rfl

theorem quiet_mint (s : Stage) : s.Quiet s.mint.2 :=
  ⟨rfl, rfl, tells_of_journal rfl⟩

theorem quiet_broker (s : Stage) {broker : Broker} (loss : broker.loss = s.broker.loss) :
    s.Quiet { s with broker := broker } :=
  ⟨rfl, loss, tells_of_journal rfl⟩

theorem quiet_stopReading (s : Stage) (index : Nat) : s.Quiet (s.stopReading index) :=
  quiet_broker s rfl

theorem quiet_stopReadings (s : Stage) (indices : List Nat) :
    s.Quiet (indices.foldl stopReading s) := by
  induction indices generalizing s with
  | nil => exact .refl s
  | cons index rest ih => exact (quiet_stopReading s index).trans (ih (s.stopReading index))

private theorem loss_openChannel {b after : Broker} {result : Except BrokerError Channel}
    (opened : b.openChannel = (result, after)) : after.loss = b.loss := by
  unfold Broker.openChannel at opened
  split at opened <;> cases opened <;> rfl

theorem quiet_openChannel {result : Except BrokerError Channel}
    (opened : s.openChannel = (result, t)) : s.Quiet t := by
  unfold openChannel at opened
  split at opened
  · rename_i channel broker answer
    cases opened
    exact (quiet_broker s (loss_openChannel answer)).trans (quiet_record _ rfl rfl)
  · rename_i error broker answer
    cases opened
    exact (quiet_broker s (loss_openChannel answer)).trans (quiet_record _ rfl rfl)

private theorem loss_apply (b : Broker) (op : Operation) : (b.apply op).loss = b.loss := by
  cases op <;> rfl

private theorem loss_execute {b after : Broker} {op : Operation} {result : Except BrokerError Unit}
    (executed : b.execute op = (result, after)) : after.loss = b.loss := by
  simp only [Broker.execute] at executed
  split at executed
  · cases executed
    rfl
  · cases executed
    exact loss_apply _ op

theorem quiet_execute {channel after : Channel} {op : Operation}
    {result : Except BrokerError Unit} (executed : s.execute channel op = (result, after, t)) :
    s.Quiet t := by
  unfold execute at executed
  split at executed
  · cases executed
    exact quiet_record s rfl rfl
  · cases executed
    exact (quiet_broker s (loss_execute rfl)).trans (quiet_record _ rfl rfl)

theorem quiet_hand {input : Option Nat} {envelope : Envelope Received}
    (handed : s.hand input envelope = .done t) : s.Quiet t := by
  unfold hand at handed
  split at handed
  · rename_i output sent
    cases handed
    have given : s.Quiet { s with output := output } := ⟨rfl, rfl, tells_of_journal rfl⟩
    exact given.trans (quiet_record _ rfl rfl)
  · cases handed
  · cases handed

/-! Receiving from the control path, by the only user of its lock. -/

theorem pollControl_cases {r : Reader} {result : Poll (Option Signal)}
    (used : s.control.UsedBy (some r)) (polled : s.pollControl r = (result, t)) :
    (∃ signal, result = .ready (some signal) ∧ s.control.slot = some signal ∧
      t = { s with control := { s.control with slot := none, holder := none } }.record
        (.signalTaken signal r)) ∨
    (result = .pending ∧ s.control.slot = none ∧
      t = { s with control := { s.control with holder := some r } }) ∨
    (result = .ready none ∧ s.control.slot = none ∧ s.control.senderAlive = false ∧
      t = { s with control := { s.control with holder := none } }) := by
  rw [pollControl, ControlPath.poll_of_usedBy used] at polled
  cases slot : s.control.slot with
  | some signal =>
      simp only [slot] at polled
      cases polled
      exact .inl ⟨signal, rfl, rfl, rfl⟩
  | none =>
      cases alive : s.control.senderAlive with
      | true =>
          simp only [slot, alive] at polled
          cases polled
          exact .inr (.inl ⟨rfl, rfl, by simp [slot, alive]⟩)
      | false =>
          simp only [slot, alive] at polled
          cases polled
          exact .inr (.inr ⟨rfl, rfl, rfl, by simp [slot, alive]⟩)

theorem usedBy_pollControl {r : Reader} {result : Poll (Option Signal)}
    (used : s.control.UsedBy (some r)) (polled : s.pollControl r = (result, t)) :
    t.control.UsedBy (if result = .pending then some r else none) := by
  rcases pollControl_cases used polled with
    ⟨signal, rfl, slot, rfl⟩ | ⟨rfl, slot, rfl⟩ | ⟨rfl, slot, alive, rfl⟩
  · exact ⟨used.queue, .inl rfl⟩
  · exact ⟨used.queue, .inr rfl⟩
  · exact ⟨used.queue, .inl rfl⟩

theorem worked_pollControl {r : Reader} {result : Poll (Option Signal)}
    (used : s.control.UsedBy (some r)) (own : r ≠ .supervisor)
    (polled : s.pollControl r = (result, t)) : s.Worked t := by
  rcases pollControl_cases used polled with
    ⟨signal, rfl, slot, rfl⟩ | ⟨rfl, slot, rfl⟩ | ⟨rfl, slot, alive, rfl⟩
  · refine ⟨rfl, rfl, rfl, tells_record { s with control := _ } ?_, ?_⟩
    · simpa [Event.byWorker] using own
    · simp [Event.taken?, slot]
  · exact ⟨rfl, rfl, rfl, tells_of_journal rfl, rfl⟩
  · exact ⟨rfl, rfl, rfl, tells_of_journal rfl, rfl⟩

theorem eq_of_awaiting {after : Stage} (awaited : s.awaiting after = some t) : t = after := by
  unfold awaiting at awaited
  split at awaited
  · cases awaited
  · exact (Option.some.inj awaited).symm

theorem worked_cancelControl {r : Reader} (used : s.control.UsedBy (some r)) :
    s.Worked (s.cancelControl r) := by
  rw [cancelControl, ControlPath.cancel_of_usedBy used]
  exact ⟨rfl, rfl, rfl, tells_of_journal rfl, rfl⟩

end ExchangeTap.Stage
