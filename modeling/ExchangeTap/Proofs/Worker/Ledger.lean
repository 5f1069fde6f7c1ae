import ExchangeTap.Proofs.Worker.Course
import ExchangeTap.Proofs.Worker.Journal
import ExchangeTap.Proofs.Worker.Telling

namespace ExchangeTap

namespace Operation

/-- The operation that removes what an operation makes. -/
def undo? : Operation → Option Operation
  | declareExchange name => some (.deleteExchange name)
  | bindExchange destination source key => some (.unbindExchange destination source key)
  | declareQueue name => some (.deleteQueue name)
  | bindQueue queue exchange key => some (.unbindQueue queue exchange key)
  | _ => none

def removes : Operation → Bool
  | deleteExchange _ | unbindExchange _ _ _ | deleteQueue _ | unbindQueue _ _ _ => true
  | _ => false

private theorem undo?_of_removes {op : Operation} (removes : op.removes = true) : op.undo? = none := by
  cases op <;> first | rfl | cases removes

end Operation

namespace Resource

private theorem undo?_creation (r : Resource) : r.creation.undo? = some r.removal := by
  cases r <;> rfl

private theorem removes_removal (r : Resource) : r.removal.removes = true := by
  cases r <;> rfl

theorem removes_creation (r : Resource) : r.creation.removes = false := by
  cases r <;> rfl

theorem mem_teardownOrder {r : Resource} {ledger : List Resource} :
    r ∈ teardownOrder ledger ↔ r ∈ ledger := by
  simp only [teardownOrder, List.mem_append, List.mem_filter, List.mem_reverse]
  cases r.isQueueSide <;> simp

end Resource

namespace Event

/-- What has to be removed because of an event: the broker has made something. -/
def calledFor? : Event → Option Operation
  | executed _ op (.ok ()) => op.undo?
  | _ => none

/-- The removal that was asked for, whatever the answer. -/
def removal? : Event → Option Operation
  | executed _ op _ | rebuffed _ op => if op.removes then some op else none
  | _ => none

def Idle (e : Event) : Prop :=
  e.calledFor? = none ∧ e.removal? = none

theorem idle_of_not_onChannel {e : Event} (other : e.isOnChannel = false) : e.Idle := by
  cases e <;> first | exact ⟨rfl, rfl⟩ | cases other

theorem idle_of_refused {channel : Nat} {op : Operation} {e : BrokerError}
    (removesNothing : op.removes = false) : (executed channel op (.error e)).Idle :=
  ⟨rfl, by simp [removal?, removesNothing]⟩

theorem idle_of_rebuffed {channel : Nat} {op : Operation} (removesNothing : op.removes = false) :
    (rebuffed channel op).Idle :=
  ⟨rfl, by simp [removal?, removesNothing]⟩

end Event

namespace Journal

/-- The broker was asked for a removal, or else the worker could not get the channel for it and told
of the resource that it was about. -/
def Attempted (events : Journal) (removal : Operation) : Prop :=
  (∃ channel result, .executed channel removal result ∈ events) ∨
  ∃ resource : Resource, resource.removal = removal ∧ ∃ e entry,
    (entry = .reopeningChannel resource ∨ entry = TapRun.removalEntry resource (.error e)) ∧
      [.logged entry, .channelRefused e] <:+: events

/-- Of what was made, the removal was tried afterwards; what was removed had been made before. -/
structure CleanedUp (events : Journal) : Prop where
  removed : ∀ later made earlier removal, events = later ++ made :: earlier →
    made.calledFor? = some removal → Attempted later removal
  own : ∀ later asked earlier removal, events = later ++ asked :: earlier →
    asked.removal? = some removal → ∃ made ∈ earlier, made.calledFor? = some removal

structure Ledgered (events : Journal) (pending : List Resource) : Prop where
  removed : ∀ later made earlier removal, events = later ++ made :: earlier →
    made.calledFor? = some removal →
      Attempted later removal ∨ ∃ r ∈ pending, r.removal = removal
  own : ∀ later asked earlier removal, events = later ++ asked :: earlier →
    asked.removal? = some removal → ∃ made ∈ earlier, made.calledFor? = some removal
  made : ∀ r ∈ pending, ∃ made ∈ events, made.calledFor? = some r.removal

variable {block events journal : Journal} {pending left : List Resource}

private theorem Attempted.of_block {removal : Operation} (attempted : Attempted block removal)
    (rest : Journal) : Attempted (block ++ rest) removal := by
  rcases attempted with ⟨channel, result, member⟩ | ⟨resource, same, e, entry, told, inside⟩
  · exact .inl ⟨channel, result, List.mem_append_left _ member⟩
  · exact .inr ⟨resource, same, e, entry, told, inside.trans (List.prefix_append _ _).isInfix⟩

theorem Attempted.later {removal : Operation} (attempted : Attempted events removal)
    (block : Journal) : Attempted (block ++ events) removal := by
  rcases attempted with ⟨channel, result, member⟩ | ⟨resource, same, e, entry, told, inside⟩
  · exact .inl ⟨channel, result, List.mem_append_right _ member⟩
  · exact .inr ⟨resource, same, e, entry, told, inside.trans (List.suffix_append _ _).isInfix⟩

theorem ledgered_nil : Ledgered [] [] := by
  refine ⟨?_, ?_, fun _ member => nomatch member⟩
  · intro later made earlier removal split
    cases later <;> cases split
  · intro later asked earlier removal split
    cases later <;> cases split

theorem Ledgered.cleanedUp (ledgered : Ledgered events []) : CleanedUp events := by
  refine ⟨?_, ledgered.own⟩
  intro later made earlier removal split called
  rcases ledgered.removed later made earlier removal split called with attempted | ⟨_, member, _⟩
  · exact attempted
  · cases member

theorem Ledgered.congr (ledgered : Ledgered events pending) (same : ∀ r, r ∈ left ↔ r ∈ pending) :
    Ledgered events left := by
  refine ⟨?_, ledgered.own, fun r member => ledgered.made r ((same r).mp member)⟩
  intro later made earlier removal split called
  rcases ledgered.removed later made earlier removal split called with
    attempted | ⟨r, member, undoes⟩
  · exact .inl attempted
  · exact .inr ⟨r, (same r).mpr member, undoes⟩

/-- Events in which nothing new is made leave the ledger with fewer resources, if those that are
missing were tried to be removed. -/
theorem Ledgered.extend (ledgered : Ledgered events pending)
    (nothingMade : ∀ e ∈ block, e.calledFor? = none)
    (own : ∀ e ∈ block, ∀ removal, e.removal? = some removal →
      ∃ r ∈ pending, r.removal = removal)
    (subset : ∀ r ∈ left, r ∈ pending)
    (tried : ∀ r ∈ pending, r ∈ left ∨ Attempted block r.removal) :
    Ledgered (block ++ events) left := by
  refine ⟨?_, ?_, ?_⟩
  · intro later made earlier removal split called
    rcases split_block split with ⟨rest, inBlock, _⟩ | ⟨between, rfl, before⟩
    · have member : made ∈ block := by simp [inBlock]
      rw [nothingMade made member] at called
      cases called
    · rcases ledgered.removed between made earlier removal before called with
        attempted | ⟨r, member, undoes⟩
      · exact .inl (attempted.later block)
      · rcases tried r member with stays | attempted
        · exact .inr ⟨r, stays, undoes⟩
        · rw [undoes] at attempted
          exact .inl (attempted.of_block between)
  · intro later asked earlier removal split asks
    rcases split_block split with ⟨rest, inBlock, before⟩ | ⟨between, _, before⟩
    · have member : asked ∈ block := by simp [inBlock]
      obtain ⟨r, inLedger, undoes⟩ := own asked member removal asks
      obtain ⟨made, happened, called⟩ := ledgered.made r inLedger
      rw [undoes] at called
      refine ⟨made, ?_, called⟩
      rw [before]
      exact List.mem_append_right _ happened
    · exact ledgered.own between asked earlier removal before asks
  · intro r member
    obtain ⟨made, happened, called⟩ := ledgered.made r (subset r member)
    exact ⟨made, List.mem_append_right _ happened, called⟩

theorem Ledgered.idle (ledgered : Ledgered events pending) (idle : ∀ e ∈ block, e.Idle) :
    Ledgered (block ++ events) pending := by
  refine ledgered.extend ?_ ?_ (fun _ member => member) (fun _ member => .inl member)
  · exact fun e member => (idle e member).1
  · intro e member removal asks
    rw [(idle e member).2] at asks
    cases asks

structure Trial (resource : Resource) (block : Journal) : Prop where
  nothingMade : ∀ e ∈ block, e.calledFor? = none
  own : ∀ e ∈ block, ∀ removal, e.removal? = some removal → removal = resource.removal
  attempted : Attempted block resource.removal

theorem trial_executed (resource : Resource) (entry : LogEntry) (channel : Nat)
    (result : Except BrokerError Unit) {opening : Journal} (idle : ∀ e ∈ opening, e.Idle) :
    Trial resource
      (.logged entry :: .executed channel resource.removal result :: opening) := by
  refine ⟨?_, ?_, .inl ⟨channel, result, by simp⟩⟩
  · intro e member
    rcases List.mem_cons.mp member with rfl | member
    · rfl
    · rcases List.mem_cons.mp member with rfl | member
      · cases result with
        | error e => rfl
        | ok _ => exact Operation.undo?_of_removes resource.removes_removal
      · exact (idle e member).1
  · intro e member removal asks
    rcases List.mem_cons.mp member with rfl | member
    · cases asks
    · rcases List.mem_cons.mp member with rfl | member
      · rw [Event.removal?, if_pos resource.removes_removal] at asks
        exact (Option.some.inj asks).symm
      · rw [(idle e member).2] at asks
        cases asks

theorem trial_refused {resource : Resource} {entry : LogEntry} {e : BrokerError}
    (told : entry = .reopeningChannel resource ∨
      entry = TapRun.removalEntry resource (.error e)) :
    Trial resource [.logged entry, .channelRefused e] := by
  refine ⟨?_, ?_, .inr ⟨resource, rfl, e, entry, told, List.infix_rfl⟩⟩
  · intro other member
    rcases List.mem_cons.mp member with rfl | member
    · rfl
    · cases List.mem_singleton.mp member
      rfl
  · intro other member removal asks
    rcases List.mem_cons.mp member with rfl | member
    · cases asks
    · cases List.mem_singleton.mp member
      cases asks

theorem Ledgered.attempt {resource : Resource} {stays : List Resource}
    (ledgered : Ledgered events (resource :: left)) (trial : Trial resource block)
    (either : stays = left ∨ stays = resource :: left) : Ledgered (block ++ events) stays := by
  refine ledgered.extend trial.nothingMade ?_ ?_ ?_
  · intro e member removal asks
    exact ⟨resource, List.mem_cons_self, (trial.own e member removal asks).symm⟩
  · intro r member
    rcases either with rfl | rfl
    · exact List.mem_cons_of_mem _ member
    · exact member
  · intro r member
    rcases List.mem_cons.mp member with rfl | isLeft
    · exact .inr trial.attempted
    · rcases either with rfl | rfl
      · exact .inl isLeft
      · exact .inl (List.mem_cons_of_mem _ isLeft)

theorem Ledgered.create (ledgered : Ledgered events pending) (channel : Nat) (r : Resource) :
    Ledgered (.executed channel r.creation (.ok ()) :: events) (pending ++ [r]) := by
  have called : (Event.executed channel r.creation (.ok ())).calledFor? = some r.removal :=
    r.undo?_creation
  refine ⟨?_, ?_, ?_⟩
  · intro later made earlier removal split calls
    rcases List.cons_eq_append_iff.mp split with ⟨rfl, same⟩ | ⟨between, rfl, before⟩
    · cases same
      rw [called] at calls
      cases calls
      exact .inr ⟨r, by simp, rfl⟩
    · rcases ledgered.removed between made earlier removal before calls with
        attempted | ⟨other, member, undoes⟩
      · exact .inl (attempted.later [_])
      · exact .inr ⟨other, List.mem_append_left _ member, undoes⟩
  · intro later asked earlier removal split asks
    rcases List.cons_eq_append_iff.mp split with ⟨rfl, same⟩ | ⟨between, _, before⟩
    · cases same
      simp [Event.removal?, r.removes_creation] at asks
    · exact ledgered.own between asked earlier removal before asks
  · intro other member
    rcases List.mem_append.mp member with old | new
    · obtain ⟨made, happened, calls⟩ := ledgered.made other old
      exact ⟨made, List.mem_cons_of_mem _ happened, calls⟩
    · cases List.mem_singleton.mp new
      exact ⟨_, List.mem_cons_self, called⟩

end Journal

end ExchangeTap
