import ExchangeTap.Proofs.Worker.Subscribing

namespace ExchangeTap

namespace Event

def isDial : Event → Bool
  | dialAttempted | dialSucceeded => true
  | _ => false

def operation? : Event → Option Operation
  | executed _ op _ => some op
  | _ => none

def isEnvelope : Event → Bool
  | handedOver _ _ => true
  | _ => false

/-- The error of an envelope that reports one. -/
def failure? : Event → Option TapError
  | handedOver _ (.failed error) => some error
  | _ => none

def refusal? : Event → Option BrokerError
  | executed _ _ (.error e) => some e
  | _ => none

/-- The channel of an epoch is refused, or the connection is found lost. -/
def isLoss : Event → Bool
  | channelRefused _ => true
  | executed _ _ (.error e) => e.isConnectionClosed
  | _ => false

variable {e : Event}

theorem eq_of_dial (dials : e.isDial = true) : e = .dialAttempted ∨ e = .dialSucceeded := by
  cases e <;> first | exact .inl rfl | exact .inr rfl | cases dials

theorem eq_of_failure {error : TapError} (failure : e.failure? = some error) :
    ∃ input, e = .handedOver input (.failed error) := by
  unfold failure? at failure
  split at failure <;> cases failure
  exact ⟨_, rfl⟩

private theorem isDealing_of_startsEpoch (starts : e.startsEpoch = true) : e.isDealing = true := by
  cases e <;> first | rfl | cases starts

private theorem isDealing_of_envelope (envelope : e.isEnvelope = true) : e.isDealing = true := by
  cases e <;> first | rfl | cases envelope

private theorem isDealing_of_loss (lost : e.isLoss = true) : e.isDealing = true := by
  cases e <;> first | rfl | cases lost

private theorem isEnvelope_of_loss (lost : e.isLoss = true) : e.isEnvelope = false := by
  cases e <;> first | rfl | cases lost

private theorem ne_epochEnded_of_loss (lost : e.isLoss = true) (action : Action) :
    e ≠ .epochEnded action := by
  rintro rfl
  cases lost

private theorem startsEpoch_of_delivery (delivery : e.isDelivery = true) : e.startsEpoch = false := by
  cases e <;> first | rfl | cases delivery

private theorem operation?_of_delivery (delivery : e.isDelivery = true) : e.operation? = none := by
  cases e <;> first | rfl | cases delivery

private theorem isLoss_of_delivery (delivery : e.isDelivery = true) : e.isLoss = false := by
  cases e <;> first | rfl | cases delivery

private theorem unfailed_of_delivery (delivery : e.isDelivery = true) :
    e.failure? = none ∧ e.refusal? = none := by
  unfold isDelivery at delivery
  split at delivery
  · exact ⟨rfl, rfl⟩
  · cases delivery

end Event

namespace Journal

/-- The operations that have reached the broker. -/
def operations (journal : Journal) : List Operation :=
  journal.filterMap Event.operation?

/-- The epochs, the latest first, each with what follows it until the next one begins. The last part
is what comes before them. -/
def epochs (journal : Journal) : List Journal :=
  journal.splitOnP Event.startsEpoch

variable {events journal : Journal}

@[simp] private theorem operations_cons (e : Event) (journal : Journal) :
    operations (e :: journal) = e.operation?.toList ++ operations journal := by
  cases operation : e.operation? <;> simp [operations, operation]

@[simp] private theorem operations_append (events journal : Journal) :
    operations (events ++ journal) = operations events ++ operations journal :=
  List.filterMap_append

private theorem operations_eq_nil (others : ∀ e ∈ events, e.operation? = none) : operations events = [] :=
  List.filterMap_eq_nil_iff.mpr others

private theorem operations_dealings (journal : Journal) :
    operations (dealings journal) = operations journal := by
  induction journal with
  | nil => rfl
  | cons e rest ih =>
      rw [operations_cons, ← ih]
      cases e <;> rfl

@[simp] theorem epochs_cons (e : Event) (journal : Journal) :
    epochs (e :: journal) =
      if e.startsEpoch then [] :: epochs journal else (epochs journal).modifyHead (e :: ·) :=
  List.splitOnP_cons_eq_if_modifyHead e journal

theorem epochs_append (inner : ∀ e ∈ events, e.startsEpoch = false) :
    epochs (events ++ .epochStarted :: journal) = events :: epochs journal :=
  List.splitOnP_append_cons_of_forall_mem inner _ rfl _

theorem epochs_eq (journal : Journal) :
    epochs journal = epoch journal :: (epochs journal).tail := by
  induction journal with
  | nil => rfl
  | cons e rest ih =>
      rw [epochs_cons, epoch_cons]
      cases e.startsEpoch with
      | true => rfl
      | false =>
          rw [ih]
          rfl

theorem epochs_dealings (journal : Journal) :
    epochs (dealings journal) = (epochs journal).map dealings := by
  induction journal with
  | nil => rfl
  | cons e rest ih =>
      by_cases deals : e.isDealing = true
      · rw [dealings_cons_of_dealing deals, epochs_cons, epochs_cons, ih]
        cases e.startsEpoch with
        | true => rfl
        | false =>
            rw [epochs_eq rest]
            simp [dealings_cons_of_dealing deals]
      · -- an event that begins an epoch is a dealing, so no two epochs are joined
        have beside : dealings (e :: rest) = dealings rest := List.filter_cons_of_neg deals
        have inner : e.startsEpoch = false := by
          cases starts : e.startsEpoch with
          | false => rfl
          | true => exact absurd (Event.isDealing_of_startsEpoch starts) deals
        rw [beside, ih, epochs_cons, inner, epochs_eq rest]
        simp [dealings, List.filter_cons_of_neg deals]

theorem epoch_dealings (journal : Journal) :
    epoch (dealings journal) = dealings (epoch journal) := by
  have parts := epochs_dealings journal
  rw [epochs_eq, epochs_eq journal] at parts
  exact (List.cons.inj parts).1

end Journal

variable {queue : String} {unheard heard : BrokerError → Prop}

theorem Subscription.mono {action : Action} {done : Journal}
    (wider : ∀ e, unheard e → heard e) (subscription : Subscription queue unheard action done) :
    Subscription queue heard action done := by
  cases subscription with
  | unopened e => exact .unopened e
  | lost number tag lost => exact .lost number tag lost
  | reported number tag refused => exact .reported number tag refused
  | dismissed number tag refused closed => exact .dismissed number tag refused (wider _ closed)
  | served action number tag delivered => exact .served action number tag delivered

theorem Subscription.again {done : Journal}
    (subscription : Subscription queue unheard .reconnect done) :
    Subscription queue (fun _ => False) .reconnect done := by
  cases subscription with
  | unopened e => exact .unopened e
  | lost number tag lost => exact .lost number tag lost
  | served action number tag delivered => exact .served .reconnect number tag delivered

theorem SubscribePhase.Told.mono {phase : SubscribePhase} {done : Journal}
    (wider : ∀ e, unheard e → heard e) (told : phase.Told queue unheard done) :
    phase.Told queue heard done := by
  cases told with
  | opening => exact .opening
  | consuming isOpen => exact .consuming isOpen
  | reporting number tag refused => exact .reporting number tag refused
  | forwarding forward number tag delivered => exact .forwarding forward number tag delivered
  | stopping action number tag delivered => exact .stopping action number tag delivered
  | finished subscription => exact .finished (subscription.mono wider)

/-! What is to be read from the dealings of an epoch. -/

/-- One operation at most has reached the broker. After a loss there was no envelope, and the next
epoch is asked for. -/
structure Chapter (queue : String) (returned : Option Action) (epoch : Journal) : Prop where
  operations : Journal.operations epoch = [] ∨
    ∃ tag, Journal.operations epoch = [.consume queue tag]
  losses : ∀ e ∈ epoch, e.isLoss = true → (∀ other ∈ epoch, other.isEnvelope = false) ∧
    (∀ action, .epochEnded action ∈ epoch → action = .reconnect) ∧
    (.epochEnded .reconnect ∈ epoch ∨ returned = some .reconnect)

variable {returned : Option Action} {action : Action} {journal done epoch : Journal}

theorem chapter_nil : Chapter queue returned [] :=
  ⟨.inl rfl, fun _ member => nomatch member⟩

theorem Chapter.dial {e : Event} (chapter : Chapter queue returned epoch) (dials : e.isDial = true) :
    Chapter queue returned (e :: epoch) := by
  obtain rfl | rfl := Event.eq_of_dial dials
  all_goals
    refine ⟨chapter.operations, fun loss member lost => ?_⟩
    have among : loss ∈ epoch := by
      rcases List.mem_cons.mp member with rfl | among
      · cases lost
      · exact among
    simpa [Event.isEnvelope] using chapter.losses loss among lost

/-! What is delivered after the consumption. -/

section Delivered

variable {deliveries : Journal} {number : Nat} {tag : String}

private theorem operations_delivered (delivered : ∀ e ∈ deliveries, e.isDelivery = true) :
    Journal.operations (deliveries ++ [.executed number (.consume queue tag) (.ok ())]) =
      [.consume queue tag] := by
  have nothing : Journal.operations deliveries = [] :=
    Journal.operations_eq_nil fun e member => Event.operation?_of_delivery (delivered e member)
  rw [Journal.operations_append, nothing]
  rfl

private theorem forall_delivered {P : Event → Prop} (each : ∀ {e : Event}, e.isDelivery = true → P e)
    (last : P (.executed number (.consume queue tag) (.ok ())))
    (delivered : ∀ e ∈ deliveries, e.isDelivery = true) :
    ∀ e ∈ deliveries ++ [.executed number (.consume queue tag) (.ok ())], P e :=
  List.forall_mem_append.mpr
    ⟨fun e member => each (delivered e member), List.forall_mem_singleton.mpr last⟩

private theorem isLoss_delivered (delivered : ∀ e ∈ deliveries, e.isDelivery = true) :
    ∀ e ∈ deliveries ++ [.executed number (.consume queue tag) (.ok ())], e.isLoss = false :=
  forall_delivered Event.isLoss_of_delivery rfl delivered

private theorem startsEpoch_delivered (delivered : ∀ e ∈ deliveries, e.isDelivery = true) :
    ∀ e ∈ deliveries ++ [.executed number (.consume queue tag) (.ok ())],
      e.startsEpoch = false :=
  forall_delivered Event.startsEpoch_of_delivery rfl delivered

private theorem unfailed_delivered (delivered : ∀ e ∈ deliveries, e.isDelivery = true) :
    ∀ e ∈ deliveries ++ [.executed number (.consume queue tag) (.ok ())],
      e.failure? = none ∧ e.refusal? = none :=
  forall_delivered Event.unfailed_of_delivery ⟨rfl, rfl⟩ delivered

private theorem chapter_delivered (delivered : ∀ e ∈ deliveries, e.isDelivery = true) :
    Chapter queue returned (deliveries ++ [.executed number (.consume queue tag) (.ok ())]) := by
  refine ⟨.inr ⟨tag, operations_delivered delivered⟩, fun loss member lost => ?_⟩
  cases (isLoss_delivered delivered loss member).symm.trans lost

end Delivered

namespace Subscription

theorem startsEpoch (subscription : Subscription queue unheard action done) :
    ∀ e ∈ done, e.startsEpoch = false := by
  cases subscription with
  | unopened | lost | reported | dismissed => simp [Event.startsEpoch]
  | served action number tag delivered => exact startsEpoch_delivered delivered

theorem operations (subscription : Subscription queue unheard action done) :
    Journal.operations done = [] ∨ ∃ tag, Journal.operations done = [.consume queue tag] := by
  cases subscription with
  | unopened e => exact .inl rfl
  | lost number tag | reported number tag | dismissed number tag => exact .inr ⟨tag, rfl⟩
  | served action number tag delivered => exact .inr ⟨tag, operations_delivered delivered⟩

private theorem of_loss (subscription : Subscription queue unheard action done) {loss : Event}
    (member : loss ∈ done) (lost : loss.isLoss = true) : action = .reconnect ∧ done = [loss] := by
  cases subscription with
  | unopened e =>
      cases List.mem_singleton.mp member
      exact ⟨rfl, rfl⟩
  | lost number tag closed =>
      cases List.mem_singleton.mp member
      exact ⟨rfl, rfl⟩
  | reported number tag refused =>
      simp only [List.mem_cons, List.not_mem_nil, or_false] at member
      obtain rfl | rfl := member
      · cases lost
      · cases refused.symm.trans lost
  | dismissed number tag refused closed =>
      cases List.mem_singleton.mp member
      cases refused.symm.trans lost
  | served action number tag delivered =>
      cases (isLoss_delivered delivered loss member).symm.trans lost

theorem chapter (subscription : Subscription queue unheard action done) :
    Chapter queue (some action) done := by
  refine ⟨subscription.operations, fun loss member lost => ?_⟩
  obtain ⟨rfl, rfl⟩ := subscription.of_loss member lost
  refine ⟨?_, ?_, .inr rfl⟩
  · simpa using Event.isEnvelope_of_loss lost
  · intro action ended
    exact absurd (List.mem_singleton.mp ended).symm (Event.ne_epochEnded_of_loss lost action)

theorem chapter_ended (subscription : Subscription queue unheard action done) :
    Chapter queue returned (.epochEnded action :: done) := by
  refine ⟨subscription.operations, fun loss member lost => ?_⟩
  have among : loss ∈ done := by
    rcases List.mem_cons.mp member with rfl | among
    · cases lost
    · exact among
  obtain ⟨rfl, rfl⟩ := subscription.of_loss among lost
  refine ⟨?_, ?_, .inl List.mem_cons_self⟩
  · simpa using ⟨rfl, Event.isEnvelope_of_loss lost⟩
  · intro action ended
    rcases List.mem_cons.mp ended with same | last
    · cases same
      rfl
    · exact absurd (List.mem_singleton.mp last).symm (Event.ne_epochEnded_of_loss lost action)

theorem of_failure {later earlier : Journal} {input : Option Nat} {error : TapError}
    (subscription : Subscription queue unheard action done)
    (split : done = later ++ .handedOver input (.failed error) :: earlier) :
    action = .stop ∧ later = [] ∧ ∃ number tag e, e.isConnectionClosed = false ∧
      error = .consume queue e ∧ earlier = [.executed number (.consume queue tag) (.error e)] := by
  have member : .handedOver input (.failed error) ∈ done := by simp [split]
  cases subscription with
  | unopened | lost | dismissed => cases List.mem_singleton.mp member
  | reported number tag refused =>
      cases later with
      | nil =>
          cases split
          exact ⟨rfl, rfl, number, tag, _, refused, rfl, rfl⟩
      | cons first rest =>
          have last := congrArg List.tail split
          cases rest <;> simp at last
  | served action number tag delivered => cases (unfailed_delivered delivered _ member).1

theorem of_refusal {number : Nat} {op : Operation} {e : BrokerError}
    (subscription : Subscription queue unheard action done)
    (member : .executed number op (.error e) ∈ done) (refused : e.isConnectionClosed = false) :
    .handedOver none (.failed (.consume queue e)) ∈ done ∨ unheard e := by
  cases subscription with
  | unopened => cases List.mem_singleton.mp member
  | lost number tag closed =>
      cases List.mem_singleton.mp member
      cases refused.symm.trans closed
  | reported number tag =>
      simp only [List.mem_cons, List.not_mem_nil, or_false, reduceCtorEq, false_or] at member
      cases member
      exact .inl List.mem_cons_self
  | dismissed number tag refused closed =>
      cases List.mem_singleton.mp member
      exact .inr closed
  | served action number tag delivered => cases (unfailed_delivered delivered _ member).2

end Subscription

namespace SubscribePhase.Told

variable {phase : SubscribePhase}

theorem startsEpoch (told : phase.Told queue unheard done) :
    ∀ e ∈ done, e.startsEpoch = false := by
  cases told with
  | opening | consuming => exact List.forall_mem_nil _
  | reporting => simp [Event.startsEpoch]
  | forwarding forward number tag delivered => exact startsEpoch_delivered delivered
  | stopping action number tag delivered => exact startsEpoch_delivered delivered
  | finished subscription => exact subscription.startsEpoch

theorem chapter {consumers : List Nat} {fanIn : Option (FanIn Item)}
    (told : phase.Told queue unheard done) :
    Chapter queue (Run.subscribe queue ⟨phase, consumers, fanIn⟩).result? done := by
  cases told with
  | opening | consuming => exact chapter_nil
  | reporting number tag refused =>
      refine ⟨.inr ⟨tag, rfl⟩, fun loss member lost => ?_⟩
      cases List.mem_singleton.mp member
      cases refused.symm.trans lost
  | forwarding forward number tag delivered => exact chapter_delivered delivered
  | stopping action number tag delivered => exact chapter_delivered delivered
  | finished subscription => exact subscription.chapter

theorem of_failure {later earlier : Journal} {input : Option Nat} {error : TapError}
    (told : phase.Told queue unheard done)
    (split : done = later ++ .handedOver input (.failed error) :: earlier) :
    later = [] ∧ ∃ number tag e, e.isConnectionClosed = false ∧
      error = .consume queue e ∧ earlier = [.executed number (.consume queue tag) (.error e)] := by
  have member : .handedOver input (.failed error) ∈ done := by simp [split]
  cases told with
  | opening | consuming => cases member
  | reporting => cases List.mem_singleton.mp member
  | forwarding forward number tag delivered => cases (unfailed_delivered delivered _ member).1
  | stopping action number tag delivered => cases (unfailed_delivered delivered _ member).1
  | finished subscription => exact (subscription.of_failure split).2

theorem of_refusal {number : Nat} {op : Operation} {e : BrokerError}
    (told : phase.Told queue unheard done) (member : .executed number op (.error e) ∈ done)
    (refused : e.isConnectionClosed = false) :
    .handedOver none (.failed (.consume queue e)) ∈ done ∨
      phase = .reporting (.consume queue e) ∨ unheard e := by
  cases told with
  | opening | consuming => cases member
  | reporting =>
      cases List.mem_singleton.mp member
      exact .inr (.inl rfl)
  | forwarding forward number tag delivered => cases (unfailed_delivered delivered _ member).2
  | stopping action number tag delivered => cases (unfailed_delivered delivered _ member).2
  | finished subscription => exact (subscription.of_refusal member refused).imp_right .inr

end SubscribePhase.Told

theorem Chapter.of_dealings (chapter : Chapter queue returned (Journal.dealings epoch)) :
    Chapter queue returned epoch := by
  refine ⟨?_, fun loss member lost => ?_⟩
  · rw [← Journal.operations_dealings]
    exact chapter.operations
  · obtain ⟨silent, asked, again⟩ := chapter.losses loss
      (Journal.mem_dealings (Event.isDealing_of_loss lost) member) lost
    refine ⟨fun other among => ?_, fun action ended => ?_, again.imp_left fun ended => ?_⟩
    · cases envelope : other.isEnvelope with
      | false => rfl
      | true =>
          have deals := Event.isDealing_of_envelope envelope
          cases (silent other (Journal.mem_dealings deals among)).symm.trans envelope
    · exact asked action (Journal.mem_dealings rfl ended)
    · exact (List.mem_filter.mp ended).1

end ExchangeTap
