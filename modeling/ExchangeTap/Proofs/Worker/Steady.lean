import ExchangeTap.Proofs.Worker.Course
import ExchangeTap.Proofs.Worker.Takings

/-! What a worker and its merge do without a channel: the broker opens none, and nothing is
executed. -/

namespace ExchangeTap

namespace Broker

/-- Consumers that are live stay so, and stay with their queues. -/
def Retains (before after : Broker) : Prop :=
  ∀ (index : Nat) (consumer : Consumer),
    before.consumers[index]? = some consumer → consumer.isLive = true →
    ∃ later : Consumer, after.consumers[index]? = some later ∧ later.isLive = true ∧
      later.queue = consumer.queue

variable {a b c : Broker} {queue : String}

theorem Retains.refl (b : Broker) : b.Retains b :=
  fun _ _ present live => ⟨_, present, live, rfl⟩

theorem retains_of_consumers (same : b.consumers = a.consumers) : a.Retains b :=
  fun _ _ present live => ⟨_, same ▸ present, live, rfl⟩

theorem Retains.trans (first : a.Retains b) (second : b.Retains c) : a.Retains c := by
  intro index consumer present live
  obtain ⟨next, presentNext, liveNext, named⟩ := first _ _ present live
  obtain ⟨last, presentLast, liveLast, same⟩ := second _ _ presentNext liveNext
  exact ⟨last, presentLast, liveLast, same.trans named⟩

private theorem mem_consumed : queue ∈ b.consumed ↔
    ∃ (index : Nat) (consumer : Consumer), b.consumers[index]? = some consumer ∧
      consumer.isLive = true ∧ consumer.queue = queue := by
  simp only [consumed, List.mem_map, List.mem_filter]
  constructor
  · rintro ⟨consumer, ⟨present, live⟩, named⟩
    obtain ⟨index, found⟩ := List.mem_iff_getElem?.mp present
    exact ⟨index, consumer, found, live, named⟩
  · rintro ⟨index, consumer, found, live, named⟩
    exact ⟨consumer, ⟨List.mem_of_getElem? found, live⟩, named⟩

theorem Retains.consumed (retains : a.Retains b) (consumed : queue ∈ a.consumed) :
    queue ∈ b.consumed := by
  obtain ⟨index, consumer, present, live, named⟩ := mem_consumed.mp consumed
  obtain ⟨later, presentLater, liveLater, same⟩ := retains _ _ present live
  exact mem_consumed.mpr ⟨index, later, presentLater, liveLater, same.trans named⟩

private theorem retains_of_modify {place : Nat} {change : Consumer → Consumer}
    (kept : ∀ consumer : Consumer, a.consumers[place]? = some consumer → consumer.isLive = true →
      (change consumer).isLive = true ∧ (change consumer).queue = consumer.queue)
    (same : b.consumers = a.consumers.modify place change) : a.Retains b := by
  intro index consumer present live
  rw [same, List.getElem?_modify, present]
  by_cases here : place = index
  · subst here
    obtain ⟨still, named⟩ := kept _ present live
    exact ⟨change consumer, by simp, still, named⟩
  · exact ⟨consumer, by simp [here], live, rfl⟩

private theorem retains_deliver (b : Broker) (chosen : Consumer → Bool)
    (item : Except BrokerError Delivery) : b.Retains (b.deliver chosen item).2 := by
  unfold deliver
  split
  · exact .refl b
  · refine retains_of_modify ?_ rfl
    exact fun _ _ live => ⟨live, rfl⟩

end Broker

namespace Stage

structure Aloof (before after : Stage) : Prop where
  channels : after.broker.channels = before.broker.channels
  deleted : after.broker.deletedWhileConsumed = before.broker.deletedWhileConsumed
  suffix : after.suffix = before.suffix
  used : before.suffixesUsed ≤ after.suffixesUsed
  tells : before.Tells (·.isOnChannel = false) after

/-- No consumer is given up, either. -/
structure Steady (before after : Stage) : Prop extends Aloof before after where
  retains : before.broker.Retains after.broker

variable {s t u : Stage}

theorem Aloof.trans (first : s.Aloof t) (second : t.Aloof u) : s.Aloof u :=
  ⟨second.channels.trans first.channels, second.deleted.trans first.deleted,
    second.suffix.trans first.suffix, Nat.le_trans first.used second.used,
    first.tells.trans second.tells⟩

theorem Steady.trans (first : s.Steady t) (second : t.Steady u) : s.Steady u :=
  ⟨first.toAloof.trans second.toAloof, first.retains.trans second.retains⟩

theorem steady_of_same (broker : t.broker = s.broker) (suffix : t.suffix = s.suffix)
    (used : t.suffixesUsed = s.suffixesUsed) (journal : t.journal = s.journal) : s.Steady t := by
  refine ⟨⟨?_, ?_, suffix, Nat.le_of_eq used.symm, tells_of_journal journal⟩, ?_⟩
  · rw [broker]
  · rw [broker]
  · rw [broker]
    exact .refl _

theorem Steady.refl (s : Stage) : s.Steady s :=
  steady_of_same rfl rfl rfl rfl

theorem steady_record (s : Stage) {e : Event} (beside : e.isOnChannel = false) :
    s.Steady (s.record e) :=
  ⟨⟨rfl, rfl, rfl, Nat.le_refl _, tells_record s beside⟩, .refl _⟩

theorem steady_log (s : Stage) (entry : LogEntry) : s.Steady (s.log entry) :=
  steady_record s rfl

theorem steady_mint (s : Stage) : s.Steady s.mint.2 :=
  ⟨⟨rfl, rfl, rfl, Nat.le_succ _, tells_of_journal rfl⟩, .refl _⟩

theorem steady_control (s : Stage) (control : ControlPath Reader) :
    s.Steady { s with control := control } :=
  steady_of_same rfl rfl rfl rfl

theorem steady_deliver (s : Stage) (chosen : Consumer → Bool)
    (item : Except BrokerError Delivery) :
    s.Steady { s with broker := (s.broker.deliver chosen item).2 } := by
  refine ⟨⟨?_, ?_, rfl, Nat.le_refl _, tells_of_journal rfl⟩, s.broker.retains_deliver chosen item⟩
  · simp only [Broker.deliver]
    split <;> rfl
  · simp only [Broker.deliver]
    split <;> rfl

theorem steady_hand {input : Option Nat} {envelope : Envelope Received}
    (handed : s.hand input envelope = .done t) : s.Steady t := by
  unfold hand at handed
  split at handed <;> rename_i output sent <;> cases handed
  have sends : s.Steady { s with output := output } := steady_of_same rfl rfl rfl rfl
  exact sends.trans (steady_record _ rfl)

theorem steady_pollControl {r : Reader} {result : Poll (Option Signal)}
    (polled : s.pollControl r = (result, t)) : s.Steady t := by
  rcases pollControl_eq polled with ⟨signal, control, _, rfl⟩ | ⟨control, _, rfl⟩
  · exact (steady_control s control).trans (steady_record _ rfl)
  · exact steady_control s control

private theorem aloof_stopReading (s : Stage) (index : Nat) : s.Aloof (s.stopReading index) :=
  ⟨rfl, rfl, rfl, Nat.le_refl _, tells_of_journal rfl⟩

theorem aloof_stopReadings (s : Stage) (indices : List Nat) :
    s.Aloof (indices.foldl stopReading s) := by
  induction indices generalizing s with
  | nil => exact (Steady.refl s).toAloof
  | cons index rest ih => exact (aloof_stopReading s index).trans (ih (s.stopReading index))

end Stage

namespace Forward

variable {s t : Stage}

private theorem steady_accept (input : Nat) (item : Item) (s : Stage) :
    s.Steady (accept input item s).2 := by
  cases item with
  | delivery result =>
      cases result with
      | ok delivery => exact .refl s
      | error e => exact Stage.steady_log s _
  | signal value => cases value <;> exact Stage.steady_log s _

theorem steady_step {forward : Forward} {f g : FanIn Item} {outcome : Outcome}
    (stepped : forward.step f s = some (outcome, g, t)) : s.Steady t := by
  cases forward with
  | waiting =>
      simp only [step] at stepped
      split at stepped <;> cases stepped
      · exact .refl _
      · exact steady_accept _ _ s
  | sending input message =>
      simp only [step] at stepped
      split at stepped <;> rename_i handed <;> cases stepped
      · exact Stage.steady_log s _
      · exact Stage.steady_hand handed

theorem stopRequested_step {forward : Forward} {f g : FanIn Item} {outcome : Outcome}
    (stepped : forward.step f s = some (outcome, g, t)) : g.stopRequested = f.stopRequested := by
  cases forward with
  | waiting =>
      simp only [step] at stepped
      split at stepped <;> rename_i received <;> cases stepped <;>
        cases FanIn.receives_of_receive received <;> rfl
  | sending input message =>
      simp only [step] at stepped
      split at stepped <;> cases stepped <;> rfl

end Forward

namespace Item

variable {consumers : List Nat} {s t : Stage} {input : Nat}

private theorem steady_look {glance : Glance Item}
    (looked : (inputs consumers).look s input = (glance, t)) : s.Steady t := by
  cases look_cases looked with
  | reads present found inbox =>
      refine ⟨⟨rfl, rfl, rfl, Nat.le_refl _, Stage.tells_of_journal rfl⟩, ?_⟩
      intro index other presentOther live
      rename_i place consumer _ rest
      by_cases here : place = index
      · subst here
        cases found.symm.trans presentOther
        obtain ⟨inside, _⟩ := List.getElem?_eq_some_iff.mp found
        exact ⟨{ consumer with inbox := rest }, by simp [inside], live, rfl⟩
      · exact ⟨other, by simp [here, presentOther], live, rfl⟩
  | waits | misses => exact .refl s
  | hears _ polled | listens _ polled | ends _ polled => exact Stage.steady_pollControl polled

private theorem aloof_release (s : Stage) (input : Nat) : s.Aloof ((inputs consumers).release s input) := by
  simp only [inputs]
  split
  · exact Stage.aloof_stopReading s _
  · exact (Stage.steady_control s _).toAloof

/-- An input closes when the broker has given up its consumer, so nothing more is lost with it. -/
private theorem steady_closed (looked : (inputs consumers).look s input = (.closed, t)) :
    s.Steady ((inputs consumers).release t input) := by
  have seen := steady_look looked
  simp only [inputs] at looked ⊢
  split at looked
  · rename_i index present
    split at looked
    · rename_i absent
      cases looked
      refine ⟨Stage.aloof_stopReading s index, Broker.retains_of_modify ?_ rfl⟩
      intro other found _
      cases absent.symm.trans found
    · rename_i consumer found
      split at looked
      · cases looked
      · cases attached : consumer.attached with
        | true => simp [attached] at looked
        | false =>
            simp only [attached, Bool.false_eq_true, if_false] at looked
            cases looked
            refine ⟨Stage.aloof_stopReading s index, Broker.retains_of_modify ?_ rfl⟩
            intro other again live
            cases found.symm.trans again
            simp [Consumer.isLive, attached] at live
  · rename_i absent
    exact seen.trans (Stage.steady_control t _)

private theorem booked_steady (consumers : List Nat) :
    (inputs consumers).Booked (fun _ => True) fun s _ t => s.Steady t where
  refl := .refl _
  trans := Stage.Steady.trans
  item _ looked := ⟨trivial, steady_look looked⟩
  nothing _ looked := ⟨trivial, steady_look looked⟩
  closed _ looked := ⟨trivial, steady_closed looked⟩
  sound := by
    intro s t input _ looked
    cases look_cases looked

end Item

namespace FanIn

variable {consumers : List Nat} {f g : FanIn Item} {s t : Stage}

theorem aloof_advance (advanced : f.advance (Item.inputs consumers) s = some (g, t)) : s.Aloof t :=
  advance_keeps (fun kept looked => kept.trans (Item.steady_look looked).toAloof)
    (fun kept => kept.trans (Item.aloof_release _ _)) (Stage.Steady.refl s).toAloof advanced

theorem steady_advance (unstopped : f.stopRequested = false)
    (advanced : f.advance (Item.inputs consumers) s = some (g, t)) : s.Steady t := by
  have going : f.Going := ⟨unstopped, running_of_advance advanced⟩
  obtain ⟨_, _, _, steady, _⟩ := going.advance (Item.booked_steady consumers) trivial advanced
  exact steady

end FanIn

end ExchangeTap
