import ExchangeTap.Worker.Stage

namespace ExchangeTap

abbrev Journal := List Event

namespace Event

def sent? : Event → Option Signal
  | signalSent signal => some signal
  | _ => none

def taken? : Event → Option Signal
  | signalTaken signal _ => some signal
  | _ => none

def attemptsDial : Event → Bool
  | dialAttempted => true
  | _ => false

def startsEpoch : Event → Bool
  | epochStarted => true
  | _ => false

def connects : Event → Bool
  | dialAttempted | dialSucceeded | epochStarted => true
  | _ => false

def directs : Event → Bool
  | dialAttempted | dialSucceeded | epochStarted | signalSent _ => true
  | _ => false

def byWorker : Event → Bool
  | logged _ | channelOpened _ | channelRefused _ | executed _ _ _ | rebuffed _ _
  | handedOver _ _ | noted _ => true
  | signalTaken _ reader => reader != .supervisor
  | dialAttempted | dialSucceeded | connectionClosed _ | epochStarted | epochEnded _
  | signalSent _ => false

theorem directs_of_byWorker {e : Event} (worked : e.byWorker = true) : e.directs = false := by
  cases e <;> first | rfl | cases worked

variable {e : Event}

theorem connects_of_directs (inner : e.directs = false) : e.connects = false := by
  cases e <;> first | rfl | cases inner

theorem sent?_of_directs (inner : e.directs = false) : e.sent? = none := by
  cases e <;> first | rfl | cases inner

private theorem attemptsDial_of_connects (inner : e.connects = false) : e.attemptsDial = false := by
  cases e <;> first | rfl | cases inner

theorem startsEpoch_of_connects (inner : e.connects = false) : e.startsEpoch = false := by
  cases e <;> first | rfl | cases inner

end Event

namespace Journal

/-- The signals that were put on the control path, in order. -/
def sent (journal : Journal) : List Signal :=
  (journal.filterMap Event.sent?).reverse

/-- The signals that were received from the control path, in order. -/
def taken (journal : Journal) : List Signal :=
  (journal.filterMap Event.taken?).reverse

/-- What has happened since the latest epoch began. -/
def epoch (journal : Journal) : Journal :=
  journal.takeWhile (!·.startsEpoch)

def epochsStarted (journal : Journal) : Nat :=
  journal.countP Event.startsEpoch

def dialsAttempted (journal : Journal) : Nat :=
  journal.countP Event.attemptsDial

@[simp] theorem sent_nil : sent [] = [] := rfl

@[simp] theorem taken_nil : taken [] = [] := rfl

@[simp] theorem sent_append (events journal : Journal) :
    sent (events ++ journal) = sent journal ++ sent events := by
  simp [sent]

@[simp] theorem taken_append (events journal : Journal) :
    taken (events ++ journal) = taken journal ++ taken events := by
  simp [taken]

@[simp] theorem sent_cons (e : Event) (journal : Journal) :
    sent (e :: journal) = sent journal ++ e.sent?.toList := by
  cases sent : e.sent? <;> simp [Journal.sent, sent]

@[simp] theorem taken_cons (e : Event) (journal : Journal) :
    taken (e :: journal) = taken journal ++ e.taken?.toList := by
  cases taken : e.taken? <;> simp [Journal.taken, taken]

@[simp] theorem epoch_cons (e : Event) (journal : Journal) :
    epoch (e :: journal) = if e.startsEpoch then [] else e :: epoch journal := by
  cases starts : e.startsEpoch <;> simp [epoch, starts]

@[simp] theorem epochsStarted_cons (e : Event) (journal : Journal) :
    epochsStarted (e :: journal) =
      epochsStarted journal + if e.startsEpoch then 1 else 0 :=
  List.countP_cons

variable {events journal : Journal}

theorem split_block {later earlier : Journal} {e : Event}
    (split : events ++ journal = later ++ e :: earlier) :
    (∃ rest, events = later ++ e :: rest ∧ earlier = rest ++ journal) ∨
      ∃ between, later = events ++ between ∧ journal = between ++ e :: earlier := by
  rcases List.append_eq_append_iff.mp split with ⟨between, same, rest⟩ | ⟨rest, same, after⟩
  · exact .inr ⟨between, same, rest⟩
  · cases rest with
    | nil => exact .inr ⟨[], by simpa using same.symm, by simpa using after.symm⟩
    | cons first rest =>
        cases after
        exact .inl ⟨rest, same, rfl⟩

theorem mem_sent {signal : Signal} : signal ∈ sent journal ↔ .signalSent signal ∈ journal := by
  simp only [sent, List.mem_reverse, List.mem_filterMap]
  constructor
  · rintro ⟨e, member, same⟩
    cases e <;> cases same
    exact member
  · exact fun member => ⟨_, member, rfl⟩

theorem mem_taken {signal : Signal} {reader : Reader}
    (member : .signalTaken signal reader ∈ journal) : signal ∈ taken journal := by
  simp only [taken, List.mem_reverse, List.mem_filterMap]
  exact ⟨_, member, rfl⟩

theorem sent_of_directs (inner : ∀ e ∈ events, e.directs = false) : sent events = [] := by
  rw [sent, List.reverse_eq_nil_iff, List.filterMap_eq_nil_iff]
  exact fun e member => Event.sent?_of_directs (inner e member)

theorem sent_append_of_directs (inner : ∀ e ∈ events, e.directs = false) :
    sent (events ++ journal) = sent journal := by
  rw [sent_append, sent_of_directs inner, List.append_nil]

private theorem epoch_append_of_connects (inner : ∀ e ∈ events, e.connects = false) :
    epoch (events ++ journal) = events ++ epoch journal := by
  induction events with
  | nil => rfl
  | cons e rest ih =>
      have starts := Event.startsEpoch_of_connects (inner e List.mem_cons_self)
      rw [List.cons_append, epoch_cons, starts,
        ih fun e member => inner e (List.mem_cons_of_mem _ member)]
      rfl

theorem epoch_append_of_directs (inner : ∀ e ∈ events, e.directs = false) :
    epoch (events ++ journal) = events ++ epoch journal :=
  epoch_append_of_connects fun e member => Event.connects_of_directs (inner e member)

theorem epochsStarted_append_of_connects (inner : ∀ e ∈ events, e.connects = false) :
    epochsStarted (events ++ journal) = epochsStarted journal := by
  have nothing : events.countP Event.startsEpoch = 0 := by
    rw [List.countP_eq_zero]
    exact fun e member => by simp [Event.startsEpoch_of_connects (inner e member)]
  rw [epochsStarted, List.countP_append, nothing, Nat.zero_add]
  rfl

theorem dialsAttempted_append_of_connects (inner : ∀ e ∈ events, e.connects = false) :
    dialsAttempted (events ++ journal) = dialsAttempted journal := by
  have nothing : events.countP Event.attemptsDial = 0 := by
    rw [List.countP_eq_zero]
    exact fun e member => by simp [Event.attemptsDial_of_connects (inner e member)]
  rw [dialsAttempted, List.countP_append, nothing, Nat.zero_add]
  rfl

end Journal

end ExchangeTap
