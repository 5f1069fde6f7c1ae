import ExchangeTap.Proofs.FanIn.Advancing
import ExchangeTap.Proofs.Worker.Journal
import ExchangeTap.Worker.Forward

namespace ExchangeTap

namespace Stage

/-- From one stage to a later one, the journal tells only of events of a kind. -/
def Tells (P : Event → Prop) (before after : Stage) : Prop :=
  ∃ events, after.journal = events ++ before.journal ∧ ∀ e ∈ events, P e

variable {P Q : Event → Prop} {s t u : Stage}

theorem tells_of_journal (same : t.journal = s.journal) : s.Tells P t :=
  ⟨[], same, fun _ member => nomatch member⟩

theorem Tells.refl (s : Stage) : s.Tells P s :=
  tells_of_journal rfl

theorem Tells.trans (first : s.Tells P t) (second : t.Tells P u) : s.Tells P u := by
  obtain ⟨earlier, earlierJournal, earlierTold⟩ := first
  obtain ⟨later, laterJournal, laterTold⟩ := second
  refine ⟨later ++ earlier, ?_, ?_⟩
  · rw [laterJournal, earlierJournal, List.append_assoc]
  · intro e member
    rcases List.mem_append.mp member with isLater | isEarlier
    · exact laterTold e isLater
    · exact earlierTold e isEarlier

theorem Tells.mono (weaker : ∀ e, P e → Q e) (tells : s.Tells P t) : s.Tells Q t := by
  obtain ⟨events, journal, told⟩ := tells
  exact ⟨events, journal, fun e member => weaker e (told e member)⟩

theorem tells_record (s : Stage) {e : Event} (told : P e) : s.Tells P (s.record e) := by
  refine ⟨[e], rfl, ?_⟩
  intro other member
  cases List.mem_singleton.mp member
  exact told

theorem tells_openChannel {result : Except BrokerError Channel}
    (accepted : ∀ number, P (.channelOpened number)) (refused : ∀ e, P (.channelRefused e))
    (opened : s.openChannel = (result, t)) : s.Tells P t := by
  unfold openChannel at opened
  split at opened <;> cases opened
  · exact tells_record { s with broker := _ } (accepted _)
  · exact tells_record { s with broker := _ } (refused _)

theorem tells_execute {channel after : Channel} {op : Operation}
    {result : Except BrokerError Unit} (answered : P (.executed channel.number op result))
    (rebuffed : P (.rebuffed channel.number op))
    (executed : s.execute channel op = (result, after, t)) : s.Tells P t := by
  unfold execute at executed
  split at executed <;> cases executed
  · exact tells_record s rebuffed
  · exact tells_record { s with broker := _ } answered

theorem tells_hand {input : Option Nat} {envelope : Envelope Received}
    (told : P (.handedOver input envelope)) (handed : s.hand input envelope = .done t) :
    s.Tells P t := by
  unfold hand at handed
  split at handed <;> cases handed
  exact tells_record { s with output := _ } told

theorem tells_pollControl {r : Reader} {result : Poll (Option Signal)}
    (taken : ∀ signal, P (.signalTaken signal r)) (polled : s.pollControl r = (result, t)) :
    s.Tells P t := by
  unfold pollControl at polled
  split at polled <;> cases polled
  · exact tells_record { s with control := _ } (taken _)
  · exact tells_of_journal rfl

theorem tells_stopReadings (s : Stage) (indices : List Nat) :
    s.Tells P (indices.foldl stopReading s) := by
  induction indices generalizing s with
  | nil => exact .refl s
  | cons index rest ih => exact (tells_of_journal rfl).trans (ih (s.stopReading index))

/-! What does not direct the supervision leaves its signals, dials and epochs alone. -/

theorem Tells.sent (inner : s.Tells (·.directs = false) t) :
    Journal.sent t.journal = Journal.sent s.journal := by
  obtain ⟨events, journal, told⟩ := inner
  rw [journal, Journal.sent_append_of_directs told]

theorem Tells.epochsStarted (inner : s.Tells (·.connects = false) t) :
    Journal.epochsStarted t.journal = Journal.epochsStarted s.journal := by
  obtain ⟨events, journal, told⟩ := inner
  rw [journal, Journal.epochsStarted_append_of_connects told]

theorem Tells.dialsAttempted (inner : s.Tells (·.connects = false) t) :
    Journal.dialsAttempted t.journal = Journal.dialsAttempted s.journal := by
  obtain ⟨events, journal, told⟩ := inner
  rw [journal, Journal.dialsAttempted_append_of_connects told]

theorem Tells.dialSucceeded (inner : s.Tells (·.connects = false) t) :
    .dialSucceeded ∈ t.journal ↔ .dialSucceeded ∈ s.journal := by
  obtain ⟨events, journal, told⟩ := inner
  rw [journal, List.mem_append, or_iff_right]
  exact fun among => nomatch told _ among

end Stage

/-! A merge tells of the signals that it takes, and of nothing else. -/

section Merging

variable {P : Event → Prop} {consumers : List Nat} {s t : Stage}

private theorem Item.tells_look (taken : ∀ signal, P (.signalTaken signal .merge)) {input : Nat}
    {glance : Glance Item} (looked : (inputs consumers).look s input = (glance, t)) :
    s.Tells P t := by
  simp only [inputs] at looked
  split at looked
  · split at looked
    · cases looked
      exact .refl s
    · split at looked <;> cases looked
      · exact Stage.tells_of_journal rfl
      · exact .refl s
  · split at looked <;> rename_i polled <;> cases looked <;>
      exact Stage.tells_pollControl taken polled

@[simp] private theorem Item.journal_release (s : Stage) (input : Nat) :
    ((inputs consumers).release s input).journal = s.journal := by
  simp only [inputs]
  split <;> rfl

theorem FanIn.tells_advance (taken : ∀ signal, P (.signalTaken signal .merge))
    {f g : FanIn Item} (advanced : f.advance (Item.inputs consumers) s = some (g, t)) :
    s.Tells P t :=
  advance_keeps (fun told looked => told.trans (Item.tells_look taken looked))
    (fun told => told.trans (Stage.tells_of_journal (Item.journal_release _ _))) (.refl s) advanced

end Merging

end ExchangeTap
