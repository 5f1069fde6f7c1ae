import ExchangeTap.Proofs.Worker.Channels
import ExchangeTap.Proofs.Worker.Names

/-! The broker deletes a queue of its own accord when its last consumer goes, so whatever ends an
epoch, a queue has to be deleted while it is consumed. -/

namespace ExchangeTap

namespace Tap

/-- No two suffixes are the same, and none has a dash in it. -/
structure Distinguishes (suffix : Nat → String) : Prop where
  distinct : ∀ i j, suffix i = suffix j → i = j
  plain : ∀ i, '-' ∉ (suffix i).toList

end Tap

namespace Event

def consumed? : Event → Option (String × Nat)
  | executed number (.consume queue _) (.ok ()) => some (queue, number)
  | _ => none

def deleted? : Event → Option String
  | executed _ (.deleteQueue queue) (.ok ()) => some queue
  | _ => none

variable {e : Event}

private theorem consumed?_of_not_onChannel (other : e.isOnChannel = false) : e.consumed? = none := by
  cases e <;> first | rfl | cases other

private theorem deleted?_of_not_onChannel (other : e.isOnChannel = false) : e.deleted? = none := by
  cases e <;> first | rfl | cases other

end Event

namespace Journal

def consumed (journal : Journal) : List (String × Nat) :=
  journal.filterMap Event.consumed?

def deleted (journal : Journal) : List String :=
  journal.filterMap Event.deleted?

@[simp] private theorem consumed_cons (e : Event) (journal : Journal) :
    consumed (e :: journal) = e.consumed?.toList ++ consumed journal := by
  cases consumed : e.consumed? <;> simp [Journal.consumed, consumed]

@[simp] private theorem deleted_cons (e : Event) (journal : Journal) :
    deleted (e :: journal) = e.deleted?.toList ++ deleted journal := by
  cases deleted : e.deleted? <;> simp [Journal.deleted, deleted]

@[simp] theorem consumed_append (events journal : Journal) :
    consumed (events ++ journal) = consumed events ++ consumed journal :=
  List.filterMap_append

@[simp] theorem deleted_append (events journal : Journal) :
    deleted (events ++ journal) = deleted events ++ deleted journal :=
  List.filterMap_append

end Journal

namespace Broker

variable {b : Broker} {queue : String}

private theorem any_live_iff :
    (b.consumers.any fun c => c.queue = queue && c.isLive) = true ↔ queue ∈ b.consumed := by
  simp only [consumed, List.any_eq_true, List.mem_map, List.mem_filter, Bool.and_eq_true,
    decide_eq_true_eq]
  constructor
  · rintro ⟨consumer, present, named, live⟩
    exact ⟨consumer, ⟨present, live⟩, named⟩
  · rintro ⟨consumer, ⟨present, live⟩, named⟩
    exact ⟨consumer, present, named, live⟩

private theorem consumed_consume (b : Broker) (queue tag : String) :
    (b.apply (.consume queue tag)).consumed = b.consumed ++ [queue] := by
  simp [consumed, apply, Consumer.isLive]

private theorem consumed_deleteQueue {other : String} (consumed : queue ∈ b.consumed)
    (different : queue ≠ other) : queue ∈ (b.apply (.deleteQueue other)).consumed := by
  obtain ⟨consumer, among, named⟩ := List.mem_map.mp consumed
  obtain ⟨present, live⟩ := List.mem_filter.mp among
  have kept : detach other consumer = consumer := if_neg (named ▸ different)
  refine List.mem_map.mpr ⟨consumer, List.mem_filter.mpr ⟨?_, live⟩, named⟩
  exact List.mem_map.mpr ⟨consumer, present, kept⟩

private theorem deletedWhileConsumed_deleteQueue (b : Broker) (queue : String) :
    (b.apply (.deleteQueue queue)).deletedWhileConsumed =
      b.deletedWhileConsumed ++ if queue ∈ b.consumed then [queue] else [] := by
  by_cases consumed : queue ∈ b.consumed
  · simp only [apply, if_pos (any_live_iff.mpr consumed), if_pos consumed]
  · simp only [apply, if_neg fun live => consumed (any_live_iff.mp live), if_neg consumed,
      List.append_nil]

end Broker

namespace Stage

/-- The name is one that a tap of this worker was given. -/
def Minted (s : Stage) (queue : String) : Prop :=
  ∃ exchange number, number < s.suffixesUsed ∧ queue = Tap.queueName exchange (s.suffix number)

/-- The worker has these queues still to delete, and holds these channels: those of the queues that are
consumed are attended by their consumers. -/
structure Attends (s : Stage) (queues : List String) (channels : List Nat) : Prop where
  suffixes : Tap.Distinguishes s.suffix
  nodup : queues.Nodup
  minted : ∀ queue, queue ∈ queues ∨ (∃ number, (queue, number) ∈ Journal.consumed s.journal) ∨
    queue ∈ Journal.deleted s.journal → s.Minted queue
  undeleted : ∀ queue ∈ queues, queue ∉ Journal.deleted s.journal
  attended : ∀ queue ∈ queues, ∀ number, (queue, number) ∈ Journal.consumed s.journal →
    queue ∈ s.broker.consumed ∧ number ∈ channels
  recorded : ∀ queue ∈ s.broker.deletedWhileConsumed, queue ∈ Journal.deleted s.journal
  once : ∀ queue number, (queue, number) ∈ Journal.consumed s.journal →
    queue ∈ Journal.deleted s.journal → s.broker.deletedWhileConsumed.count queue = 1

variable {s t : Stage} {queues left : List String} {channels : List Nat}

private theorem attends_nothing (suffixes : Tap.Distinguishes s.suffix) (journal : s.journal = [])
    (unrecorded : s.broker.deletedWhileConsumed = []) : s.Attends [] [] := by
  have consumed : Journal.consumed s.journal = [] := by rw [journal]; rfl
  have deleted : Journal.deleted s.journal = [] := by rw [journal]; rfl
  refine ⟨suffixes, .nil, ?_, nofun, nofun, ?_, ?_⟩
  · rw [consumed, deleted]
    rintro queue (pending | ⟨number, among⟩ | among)
    · cases pending
    · cases among
    · cases among
  · rw [unrecorded]
    exact nofun
  · rw [consumed]
    exact nofun

theorem Attends.keep (attends : s.Attends queues channels)
    (consumed : Journal.consumed t.journal = Journal.consumed s.journal)
    (deleted : Journal.deleted t.journal = Journal.deleted s.journal)
    (recorded : t.broker.deletedWhileConsumed = s.broker.deletedWhileConsumed)
    (suffix : t.suffix = s.suffix) (used : s.suffixesUsed ≤ t.suffixesUsed)
    (live : ∀ queue ∈ queues, queue ∈ s.broker.consumed → queue ∈ t.broker.consumed) :
    t.Attends queues channels := by
  refine ⟨suffix ▸ attends.suffixes, attends.nodup, ?_, ?_, ?_, ?_, ?_⟩
  · rw [consumed, deleted]
    intro queue among
    obtain ⟨exchange, number, below, named⟩ := attends.minted queue among
    exact ⟨exchange, number, Nat.lt_of_lt_of_le below used, suffix ▸ named⟩
  · rw [deleted]
    exact attends.undeleted
  · rw [consumed]
    intro queue among number among'
    obtain ⟨attended, held⟩ := attends.attended queue among number among'
    exact ⟨live queue among attended, held⟩
  · rw [recorded, deleted]
    exact attends.recorded
  · rw [recorded, consumed, deleted]
    exact attends.once

theorem Attends.fewer (attends : s.Attends queues channels) (nodup : left.Nodup)
    (subset : ∀ queue ∈ left, queue ∈ queues) : s.Attends left channels :=
  ⟨attends.suffixes, nodup,
    fun queue among => attends.minted queue (among.imp_left (subset queue)),
    fun queue among => attends.undeleted queue (subset queue among),
    fun queue among => attends.attended queue (subset queue among), attends.recorded, attends.once⟩

private theorem Attends.cleared (attends : s.Attends queues channels) (numbers : List Nat) :
    s.Attends [] numbers :=
  ⟨attends.suffixes, .nil, fun queue among => attends.minted queue (among.imp_left nofun),
    nofun, nofun, attends.recorded, attends.once⟩

theorem Tells.consumed (tells : s.Tells (·.isOnChannel = false) t) :
    Journal.consumed t.journal = Journal.consumed s.journal := by
  obtain ⟨events, journal, others⟩ := tells
  have nothing : Journal.consumed events = [] := List.filterMap_eq_nil_iff.mpr fun e member =>
    Event.consumed?_of_not_onChannel (others e member)
  rw [journal, Journal.consumed_append, nothing, List.nil_append]

theorem Tells.deleted (tells : s.Tells (·.isOnChannel = false) t) :
    Journal.deleted t.journal = Journal.deleted s.journal := by
  obtain ⟨events, journal, others⟩ := tells
  have nothing : Journal.deleted events = [] := List.filterMap_eq_nil_iff.mpr fun e member =>
    Event.deleted?_of_not_onChannel (others e member)
  rw [journal, Journal.deleted_append, nothing, List.nil_append]

theorem Attends.steady (attends : s.Attends queues channels) (steady : s.Steady t) :
    t.Attends queues channels :=
  attends.keep steady.tells.consumed steady.tells.deleted steady.deleted steady.suffix steady.used
    fun _ _ consumed => steady.retains.consumed consumed

theorem Attends.log (attends : s.Attends queues channels) (entry : LogEntry) :
    (s.log entry).Attends queues channels :=
  attends.steady (steady_log s entry)

theorem Attends.aloof (attends : s.Attends [] channels) (aloof : s.Aloof t) :
    t.Attends [] channels :=
  attends.keep aloof.tells.consumed aloof.tells.deleted aloof.deleted aloof.suffix aloof.used nofun

theorem Attends.opened {channel : Channel} (attends : s.Attends queues channels)
    (opened : s.openChannel = (.ok channel, t)) : t.Attends queues channels := by
  obtain ⟨_, _, rfl⟩ := openChannel_ok opened
  exact attends.keep rfl rfl rfl rfl (Nat.le_refl _) fun _ _ => id

theorem Attends.unopened {e : BrokerError} (attends : s.Attends queues channels)
    (refused : s.openChannel = (.error e, t)) : t.Attends queues channels := by
  obtain ⟨_, rfl⟩ := openChannel_error refused
  exact attends.keep rfl rfl rfl rfl (Nat.le_refl _) fun _ _ => id

variable {channel after : Channel} {op : Operation}

theorem Attends.refused {e : BrokerError} (attends : s.Attends queues channels)
    (executed : s.execute channel op = (.error e, after, t)) : t.Attends queues channels := by
  obtain ⟨_, rfl⟩ | ⟨_, rfl⟩ := execute_error executed
  · exact attends.keep rfl rfl rfl rfl (Nat.le_refl _) fun _ _ => id
  · refine attends.keep ?_ ?_ rfl rfl (Nat.le_refl _) fun _ _ => id
    · rw [record, Journal.consumed_cons]
      cases op <;> rfl
    · rw [record, Journal.deleted_cons]
      cases op <;> rfl

theorem Attends.executed (attends : s.Attends queues channels)
    (consumes : (Event.executed channel.number op (.ok ())).consumed? = none)
    (deletes : (Event.executed channel.number op (.ok ())).deleted? = none)
    (executed : s.execute channel op = (.ok (), after, t)) : t.Attends queues channels := by
  obtain ⟨_, rfl, refusals, rfl⟩ := execute_ok executed
  refine attends.keep ?_ ?_ ?_ rfl (Nat.le_refl _) fun queue _ => ?_
  · rw [record, Journal.consumed_cons, consumes]
    rfl
  · rw [record, Journal.deleted_cons, deletes]
    rfl
  · cases op with
    | deleteQueue => cases deletes
    | _ => rfl
  · cases op with
    | consume => cases consumes
    | deleteQueue => cases deletes
    | _ => exact id

theorem Attends.mint (attends : s.Attends queues channels) (exchange : String) :
    s.mint.2.Attends (queues ++ [Tap.queueName exchange s.mint.1]) channels := by
  -- a name with the next suffix was not given before
  have new : ¬s.Minted (Tap.queueName exchange s.mint.1) := by
    rintro ⟨other, number, below, named⟩
    have plain := attends.suffixes.plain
    have same := ((Tap.queueName_inj (plain _) (plain _)).mp named).2
    exact Nat.lt_irrefl _ (attends.suffixes.distinct _ _ same ▸ below)
  have kept := attends.steady (steady_mint s)
  refine ⟨kept.suffixes, ?_, ?_, ?_, ?_, kept.recorded, kept.once⟩
  · refine List.nodup_append.mpr ⟨attends.nodup, by simp, ?_⟩
    rintro queue among other fresh rfl
    cases List.mem_singleton.mp fresh
    exact new (attends.minted _ (.inl among))
  · rintro queue (among | before)
    · rcases List.mem_append.mp among with old | fresh
      · exact kept.minted queue (.inl old)
      · cases List.mem_singleton.mp fresh
        exact ⟨exchange, s.suffixesUsed, Nat.lt_succ_self _, rfl⟩
    · exact kept.minted queue (.inr before)
  · intro queue among deleted
    rcases List.mem_append.mp among with old | fresh
    · exact kept.undeleted queue old deleted
    · cases List.mem_singleton.mp fresh
      exact new (attends.minted _ (.inr (.inr deleted)))
  · intro queue among number consumed
    rcases List.mem_append.mp among with old | fresh
    · exact kept.attended queue old number consumed
    · cases List.mem_singleton.mp fresh
      exact absurd (attends.minted _ (.inr (.inl ⟨number, consumed⟩))) new

theorem Attends.consumed {queue tag : String} (attends : s.Attends queues channels)
    (among : queue ∈ queues) (executed : s.execute channel (.consume queue tag) = (.ok (), after, t)) :
    t.Attends queues (channels ++ [after.number]) := by
  obtain ⟨_, rfl, refusals, rfl⟩ := execute_ok executed
  have consumes : ∀ {other : String × Nat},
      other ∈ Journal.consumed (.executed after.number (.consume queue tag) (.ok ()) :: s.journal) →
        other = (queue, after.number) ∨ other ∈ Journal.consumed s.journal := by
    intro other member
    rw [Journal.consumed_cons] at member
    exact (List.mem_append.mp member).imp_left List.mem_singleton.mp
  have live : ∀ other ∈ s.broker.consumed ++ [queue], other ∈ ({ s.broker with
      refusals := refusals }.apply (.consume queue tag)).consumed := by
    rw [Broker.consumed_consume]
    exact fun _ => id
  refine ⟨attends.suffixes, attends.nodup, ?_, attends.undeleted, ?_, attends.recorded, ?_⟩
  · rintro other (pending | ⟨number, consumed⟩ | deleted)
    · exact attends.minted other (.inl pending)
    · rcases consumes consumed with same | before
      · cases same
        exact attends.minted queue (.inl among)
      · exact attends.minted other (.inr (.inl ⟨number, before⟩))
    · exact attends.minted other (.inr (.inr deleted))
  · intro other pending number consumed
    rcases consumes consumed with same | before
    · cases same
      exact ⟨live queue (by simp), by simp⟩
    · obtain ⟨attended, held⟩ := attends.attended other pending number before
      exact ⟨live other (List.mem_append_left _ attended), List.mem_append_left _ held⟩
  · intro other number consumed deleted
    rcases consumes consumed with same | before
    · cases same
      exact absurd deleted (attends.undeleted queue among)
    · exact attends.once other number before deleted

theorem Attends.deleted {queue : String} (attends : s.Attends (queue :: queues) channels)
    (executed : s.execute channel (.deleteQueue queue) = (.ok (), after, t)) :
    t.Attends queues channels := by
  obtain ⟨_, rfl, refusals, rfl⟩ := execute_ok executed
  obtain ⟨apart, nodup⟩ := List.nodup_cons.mp attends.nodup
  have deletes : ∀ {other : String},
      other ∈ Journal.deleted (.executed after.number (.deleteQueue queue) (.ok ()) :: s.journal) ↔
        other = queue ∨ other ∈ Journal.deleted s.journal := by
    intro other
    rw [Journal.deleted_cons]
    simp [Event.deleted?]
  have records : ({ s.broker with refusals := refusals }.apply
      (.deleteQueue queue)).deletedWhileConsumed =
        s.broker.deletedWhileConsumed ++ if queue ∈ s.broker.consumed then [queue] else [] :=
    Broker.deletedWhileConsumed_deleteQueue _ queue
  refine ⟨attends.suffixes, nodup, ?_, ?_, ?_, ?_, ?_⟩
  · rintro other (pending | consumed | deleted)
    · exact attends.minted other (.inl (List.mem_cons_of_mem _ pending))
    · exact attends.minted other (.inr (.inl consumed))
    · rcases deletes.mp deleted with rfl | before
      · exact attends.minted other (.inl List.mem_cons_self)
      · exact attends.minted other (.inr (.inr before))
  · intro other pending deleted
    rcases deletes.mp deleted with rfl | before
    · exact apart pending
    · exact attends.undeleted other (List.mem_cons_of_mem _ pending) before
  · intro other pending number consumed
    obtain ⟨attended, held⟩ :=
      attends.attended other (List.mem_cons_of_mem _ pending) number consumed
    refine ⟨Broker.consumed_deleteQueue (b := { s.broker with refusals := refusals }) attended ?_,
      held⟩
    rintro rfl
    exact apart pending
  · intro other among
    rw [record, records] at among
    rcases List.mem_append.mp among with before | now
    · exact deletes.mpr (.inr (attends.recorded other before))
    · split at now
      · exact deletes.mpr (.inl (List.mem_singleton.mp now))
      · cases now
  · intro other number consumed deleted
    rw [record, records]
    rcases deletes.mp deleted with rfl | before
    · -- its consumer is there, and it was not recorded before
      obtain ⟨attended, _⟩ := attends.attended other List.mem_cons_self number consumed
      have unrecorded : other ∉ s.broker.deletedWhileConsumed := fun among =>
        attends.undeleted other List.mem_cons_self (attends.recorded other among)
      rw [if_pos attended, List.count_append, List.count_eq_zero_of_not_mem unrecorded]
      simp
    · have different : other ≠ queue := by
        rintro rfl
        exact attends.undeleted other List.mem_cons_self before
      have once := attends.once other number consumed before
      rw [List.count_append, once]
      split <;> simp [different.symm]

end Stage

namespace Resource

def queue? : Resource → Option String
  | queue name => some name
  | _ => none

def queues (resources : List Resource) : List String :=
  resources.filterMap queue?

@[simp] private theorem queues_append (first second : List Resource) :
    queues (first ++ second) = queues first ++ queues second :=
  List.filterMap_append

private theorem queues_teardownOrder (ledger : List Resource) :
    (queues (teardownOrder ledger)).Perm (queues ledger) :=
  ((List.filter_append_perm isQueueSide ledger.reverse).trans ledger.reverse_perm).filterMap queue?

variable {r : Resource} {number : Nat} {result : Except BrokerError Unit}

private theorem consumed?_creation : (Event.executed number r.creation (.ok ())).consumed? = none := by
  cases r <;> rfl

private theorem deleted?_creation : (Event.executed number r.creation result).deleted? = none := by
  cases r <;> cases result <;> rfl

private theorem consumed?_removal : (Event.executed number r.removal (.ok ())).consumed? = none := by
  cases r <;> rfl

private theorem deleted?_removal : (Event.executed number r.removal (.ok ())).deleted? = r.queue? := by
  cases r <;> rfl

end Resource

private theorem Resource.queues_sublist (resource : Resource) (left : List Resource) :
    (queues left).Sublist (queues (resource :: left)) :=
  (List.sublist_cons_self resource left).filterMap _

theorem Stage.Attends.removed {s t : Stage} {resource : Resource} {left : List Resource}
    {channels : List Nat} {channel after : Channel}
    (attends : s.Attends (Resource.queues (resource :: left)) channels)
    (executed : s.execute channel resource.removal = (.ok (), after, t)) :
    t.Attends (Resource.queues left) channels := by
  cases named : resource.queue? with
  | some queue =>
      cases resource with
      | queue name =>
          cases named
          exact attends.deleted executed
      | _ => cases named
  | none =>
      rw [Resource.queues, List.filterMap_cons_none named] at attends
      exact attends.executed Resource.consumed?_removal (Resource.deleted?_removal.trans named)
        executed

namespace TapRun

def queues (run : TapRun) : List String :=
  match run.phase with
  | .creating _ _ lacking _ => Resource.queues (run.ledger ++ lacking)
  | .removing left _ _ _ => Resource.queues left
  | _ => Resource.queues run.ledger

/-- The queues of the epoch that are consumed are attended; and while there is one to delete, the merge
is not told to stop. -/
structure Attending (run : TapRun) (s : Stage) : Prop where
  attends : s.Attends run.queues (run.channels.map Channel.number)
  planned : ∀ plan channel lacking left, run.phase = .creating plan channel lacking left →
    plan.queue ∈ run.queues
  listening : run.queues ≠ [] → ∀ fanIn, run.fanIn = some fanIn → fanIn.stopRequested = false
  emptied : ∀ action, run.phase = .stopping action → run.ledger = []

variable {setupRetry : Nat} {pick : Pick} {run next : TapRun} {s t : Stage}

private theorem attending_start (bindings : List Binding) (attends : s.Attends [] []) :
    (start bindings).Attending s :=
  ⟨attends, by rintro _ _ _ _ ⟨⟩, fun some_left => absurd rfl some_left, by rintro _ ⟨⟩⟩

private theorem attends_remove {channel after : Option Channel} {resource : Resource}
    {left : List Resource} {channels : List Nat} {result : Except BrokerError Unit}
    (attends : s.Attends (Resource.queues (resource :: left)) channels)
    (removed : remove s channel resource = (result, after, t)) :
    (result = .ok () → t.Attends (Resource.queues left) channels) ∧
      (∀ e, result = .error e → t.Attends (Resource.queues (resource :: left)) channels) := by
  rcases remove_cases removed with ⟨e, _, refused, rfl⟩ | ⟨c, _, u, tried, executed, _⟩
  · exact ⟨nofun, fun _ _ => attends.unopened refused⟩
  · have ready : u.Attends (Resource.queues (resource :: left)) channels := by
      rcases tried with ⟨_, rfl⟩ | ⟨_, opened⟩
      · exact attends
      · exact attends.opened opened
    refine ⟨?_, ?_⟩
    · rintro rfl
      exact ready.removed executed
    · rintro e rfl
      exact ready.refused executed

private theorem queues_creating {plan : TapPlan} {channel : Channel} {lacking : List Resource}
    {left : List Binding} (phase : run.phase = .creating plan channel lacking left) :
    run.queues = Resource.queues (run.ledger ++ lacking) := by
  rw [queues, phase]

private theorem queues_removing {left : List Resource} {channel : Option Channel} {retried : Bool}
    {departure : Departure} (phase : run.phase = .removing left channel retried departure) :
    run.queues = Resource.queues left := by
  rw [queues, phase]

theorem Attending.fewer (attending : run.Attending s)
    (attends : t.Attends next.queues (next.channels.map Channel.number))
    (subset : ∀ queue ∈ next.queues, queue ∈ run.queues) (fanIn : next.fanIn = run.fanIn)
    (planned : ∀ plan channel lacking left, next.phase = .creating plan channel lacking left →
      plan.queue ∈ next.queues)
    (emptied : ∀ action, next.phase = .stopping action → next.ledger = []) : next.Attending t := by
  refine ⟨attends, planned, ?_, emptied⟩
  rw [fanIn]
  intro some_left
  obtain ⟨queue, among⟩ := List.exists_mem_of_ne_nil _ some_left
  exact attending.listening (List.ne_nil_of_mem (subset queue among))

theorem Attending.same (attending : run.Attending s)
    (attends : t.Attends run.queues (next.channels.map Channel.number))
    (queues : next.queues = run.queues) (fanIn : next.fanIn = run.fanIn)
    (planned : ∀ plan channel lacking left, next.phase = .creating plan channel lacking left →
      plan.queue ∈ run.queues)
    (emptied : ∀ action, next.phase = .stopping action → next.ledger = []) : next.Attending t := by
  rw [← queues] at attends planned
  exact attending.fewer attends (fun _ among => queues ▸ among) fanIn planned emptied

theorem Attending.tearDown {departure : Departure} (attending : run.Attending s)
    (attends : t.Attends run.queues (run.channels.map Channel.number))
    (queues : run.queues = Resource.queues run.ledger) : (run.tearDown departure).Attending t := by
  have order := Resource.queues_teardownOrder run.ledger
  rw [queues] at attends
  refine attending.fewer ?_ ?_ rfl nofun nofun
  · exact attends.fewer (order.nodup_iff.mpr attends.nodup) fun _ among => order.mem_iff.mp among
  · rw [queues]
    exact fun _ among => order.mem_iff.mp among

theorem Attending.forward {forward : Forward} {outcome : Forward.Outcome} {f g : FanIn Item}
    {phase : TapPhase} (attending : run.Attending s) (current : run.phase = .forwarding forward)
    (fanIn : run.fanIn = some f) (forwarded : forward.step f s = some (outcome, g, t))
    (next : ∃ forward, phase = .forwarding forward) :
    Attending { run with fanIn := some g, phase := phase } t := by
  obtain ⟨next, rfl⟩ := next
  have queues : run.queues = Resource.queues run.ledger := by rw [TapRun.queues, current]
  have attends := attending.attends.steady (Forward.steady_step forwarded)
  rw [queues] at attends
  refine ⟨attends, nofun, ?_, nofun⟩
  rintro some_left _ ⟨⟩
  rw [Forward.stopRequested_step forwarded]
  exact attending.listening (queues ▸ some_left) f fanIn

theorem Attending.create {plan : TapPlan} {channel after : Channel} {resource : Resource}
    {lacking : List Resource} {left : List Binding} (attending : run.Attending s)
    (phase : run.phase = .creating plan channel (resource :: lacking) left)
    (executed : s.execute channel resource.creation = (.ok (), after, t)) :
    Attending { run with
      ledger := run.ledger ++ [resource]
      phase := .creating plan after lacking left } t := by
  have created := attending.attends.executed Resource.consumed?_creation
    Resource.deleted?_creation executed
  refine attending.same created ?_ rfl ?_ nofun
  · rw [queues_creating phase, queues_creating rfl, List.append_assoc]
    rfl
  · rintro _ _ _ _ ⟨⟩
    exact attending.planned _ _ _ _ phase

theorem Attending.open {binding : Binding} {left : List Binding} {channel : Channel}
    (attending : run.Attending s) (unmerged : run.fanIn = none)
    (phase : run.phase = .opening (binding :: left)) (opened : s.openChannel = (.ok channel, t)) :
    Attending { run with
      phase := .creating ⟨binding, t.mint.1⟩ channel (TapPlan.resources ⟨binding, t.mint.1⟩) left }
      t.mint.2 := by
  have queues : Resource.queues (run.ledger ++ TapPlan.resources ⟨binding, t.mint.1⟩) =
      run.queues ++ [Tap.queueName binding.exchange t.mint.1] := by
    rw [Resource.queues_append, TapRun.queues, phase]
    rfl
  refine ⟨?_, ?_, ?_, nofun⟩
  · rw [queues_creating rfl, queues]
    exact (attending.attends.opened opened).mint binding.exchange
  · rintro _ _ _ _ ⟨⟩
    rw [queues_creating rfl, queues]
    exact List.mem_append_right _ (List.mem_singleton.mpr rfl)
  · rintro _ _ present
    cases unmerged.symm.trans present

theorem Attending.removed {resource : Resource} {left : List Resource}
    {channel after : Option Channel} {retried : Bool} {departure : Departure}
    (attending : run.Attending s)
    (phase : run.phase = .removing (resource :: left) channel retried departure)
    (attends : t.Attends (Resource.queues left) (run.channels.map Channel.number)) :
    Attending { run with phase := .removing left after false departure } t := by
  refine attending.fewer attends ?_ rfl nofun nofun
  rw [queues_removing phase, queues_removing rfl]
  exact fun _ among => (resource.queues_sublist left).subset among

theorem Attending.depart {channel : Option Channel} {retried : Bool} {departure : Departure}
    (attending : run.Attending s) (phase : run.phase = .removing [] channel retried departure)
    (departed : run.depart setupRetry s departure = (next, t)) : next.Attending t := by
  have cleared := attending.attends.cleared
  cases departure with
  | pause =>
      cases departed
      exact ⟨(cleared []).aloof (Stage.aloof_stopReadings s run.consumers), nofun,
        fun some_left => absurd rfl some_left, nofun⟩
  | leave action =>
      cases departed
      exact ⟨cleared _, nofun, fun some_left => absurd rfl some_left, fun _ _ => rfl⟩

theorem Attending.step (orderly : run.Orderly s.control) (attending : run.Attending s)
    (stepped : run.step setupRetry pick s = some (next, t)) : next.Attending t := by
  have attends := attending.attends
  cases step_of_step stepped with
  | establishes phase =>
      refine ⟨?_, nofun, ?_, nofun⟩
      · rw [TapRun.queues, phase] at attends
        exact attends.log _
      · rintro _ _ ⟨⟩
        rfl
  | opens phase opened => exact attending.open (orderly.absent (by rw [phase]; rfl)) phase opened
  | creates phase executed => exact attending.create phase executed
  | consumes phase executed =>
      have consumed := attends.consumed (attending.planned _ _ _ _ phase) executed
      refine attending.same ?_ ?_ rfl nofun nofun
      · rw [List.map_append]
        exact consumed.log _
      · rw [queues_creating phase, List.append_nil]
        rfl
  | findsNoChannel phase refused =>
      refine attending.same ((attends.unopened refused).log _) ?_ rfl nofun nofun
      rw [TapRun.queues, TapRun.queues, phase]
      rfl
  | isRefused phase executed =>
      -- what the tap still lacks is given up with it, and was never consumed
      rename_i plan channel after lacking left e u
      have queues : run.queues = Resource.queues run.ledger ++ Resource.queues lacking := by
        rw [queues_creating phase, Resource.queues_append]
      have failed := (attends.refused executed).log (.setupFailed plan.binding.exchange e)
      rw [queues] at failed
      refine attending.fewer (failed.fewer (List.nodup_append.mp failed.nodup).1 ?_) ?_ rfl nofun
        nofun
      · exact fun _ among => List.mem_append_left _ among
      · rw [queues]
        exact fun _ among => List.mem_append_left _ among
  | reports phase handed =>
      have queues : run.queues = Resource.queues run.ledger := by rw [TapRun.queues, phase]
      rcases handed with handed | ⟨_, rfl⟩
      · exact attending.tearDown (attends.steady (Stage.steady_hand handed)) queues
      · exact attending.tearDown attends queues
  | forwards phase fanIn forwarded => exact attending.forward phase fanIn forwarded ⟨_, rfl⟩
  | leaves phase fanIn forwarded =>
      have forwarding := attending.forward phase fanIn forwarded ⟨_, phase⟩
      exact forwarding.tearDown forwarding.attends (by rw [TapRun.queues, phase])
  | removes phase removed =>
      rw [queues_removing phase] at attends
      exact attending.removed phase (((attends_remove attends removed).1 rfl).log _)
  | retries phase removed =>
      have queues := queues_removing phase
      rw [queues] at attends
      have kept := (attends_remove attends removed).2 _ rfl
      rw [← queues] at kept
      exact attending.same (kept.log _) queues.symm rfl nofun nofun
  | givesUp phase removed =>
      rename_i resource left channel after retried departure e u final
      rw [queues_removing phase] at attends
      have kept := (attends_remove attends removed).2 e rfl
      have fewer := resource.queues_sublist left
      exact attending.removed phase ((kept.fewer (kept.nodup.sublist fewer) fun _ among =>
        fewer.subset among).log _)
  | departs phase departed => exact attending.depart phase departed
  | waits phase steady =>
      exact attending.same (attends.steady steady) rfl rfl attending.planned attending.emptied
  | resumes phase steady =>
      refine attending.same (attends.steady steady) ?_ rfl nofun nofun
      rw [TapRun.queues, TapRun.queues, phase]
  | stops phase ended =>
      -- the ledger is empty by now, so the channels may go
      have empty := attending.emptied _ phase
      refine attending.fewer ?_ ?_ rfl nofun nofun
      · rw [TapRun.queues, empty]
        exact attends.cleared _
      · rw [TapRun.queues, empty]
        exact nofun

theorem Attending.merge {f g : FanIn Item} (attending : run.Attending s)
    (fanIn : run.fanIn = some f)
    (advanced : f.advance (Item.inputs run.consumers) s = some (g, t)) :
    Attending { run with fanIn := some g } t := by
  have attends : t.Attends run.queues (run.channels.map Channel.number) := by
    -- a merge that is told to stop gives up consumers, but then there is nothing left to delete
    by_cases empty : run.queues = []
    · have cleared := attending.attends
      rw [empty] at cleared ⊢
      exact cleared.aloof (FanIn.aloof_advance advanced)
    · exact attending.attends.steady
        (FanIn.steady_advance (attending.listening empty f fanIn) advanced)
  refine ⟨attends, attending.planned, ?_, attending.emptied⟩
  rintro some_left _ ⟨⟩
  rw [FanIn.stopRequested_advance advanced]
  exact attending.listening some_left f fanIn

def DeletesOf (queues : List String) (e : Event) : Prop :=
  ∀ queue, e.deleted? = some queue → queue ∈ queues

private theorem deletesOf_of_not_onChannel {queues : List String} (e : Event)
    (other : e.isOnChannel = false) : DeletesOf queues e := by
  intro queue deletes
  cases (Event.deleted?_of_not_onChannel other).symm.trans deletes

private theorem deletes_remove {channel after : Option Channel} {resource : Resource}
    {left : List Resource} {result : Except BrokerError Unit}
    (removed : remove s channel resource = (result, after, t)) :
    s.Tells (DeletesOf (Resource.queues (resource :: left))) t := by
  have opens : ∀ {u : Stage} {opened : Except BrokerError Channel},
      s.openChannel = (opened, u) → s.Tells (DeletesOf (Resource.queues (resource :: left))) u :=
    Stage.tells_openChannel (fun _ => nofun) fun _ => nofun
  have deletes : ∀ number, DeletesOf (Resource.queues (resource :: left))
      (.executed number resource.removal result) := by
    intro number queue deleted
    cases result with
    | ok _ =>
        rw [Resource.deleted?_removal] at deleted
        exact List.mem_filterMap.mpr ⟨resource, List.mem_cons_self, deleted⟩
    | error e => cases resource <;> cases deleted
  rcases remove_cases removed with ⟨e, _, refused, _⟩ | ⟨c, _, u, tried, executed, _⟩
  · exact opens refused
  · have tells := Stage.tells_execute (deletes c.number) nofun executed
    rcases tried with ⟨_, rfl⟩ | ⟨_, opened⟩
    · exact tells
    · exact (opens opened).trans tells

private theorem deletes_step (stepped : run.step setupRetry pick s = some (next, t)) :
    s.Tells (DeletesOf run.queues) t := by
  have steadily : ∀ {before after : Stage}, before.Steady after →
      before.Tells (DeletesOf run.queues) after :=
    fun steady => steady.tells.mono deletesOf_of_not_onChannel
  have opens : ∀ {u : Stage} {opened : Except BrokerError Channel},
      s.openChannel = (opened, u) → s.Tells (DeletesOf run.queues) u :=
    Stage.tells_openChannel (fun _ => nofun) fun _ => nofun
  cases step_of_step stepped with
  | establishes => exact steadily (Stage.steady_log s _)
  | opens phase opened => exact (opens opened).trans (steadily (Stage.steady_mint _))
  | creates phase executed =>
      refine Stage.tells_execute ?_ nofun executed
      intro queue deleted
      rw [Resource.deleted?_creation] at deleted
      cases deleted
  | consumes phase executed =>
      exact (Stage.tells_execute nofun nofun executed).trans (steadily (Stage.steady_log _ _))
  | findsNoChannel phase refused => exact (opens refused).trans (steadily (Stage.steady_log _ _))
  | isRefused phase executed =>
      rename_i plan channel after lacking left e u
      refine (Stage.tells_execute ?_ nofun executed).trans (steadily (Stage.steady_log _ _))
      intro queue deleted
      cases lacking with
      | nil => cases deleted
      | cons resource lacking =>
          rw [TapPlan.demand, Resource.deleted?_creation] at deleted
          cases deleted
  | reports phase handed =>
      rcases handed with handed | ⟨_, rfl⟩
      · exact steadily (Stage.steady_hand handed)
      · exact .refl _
  | forwards phase fanIn forwarded | leaves phase fanIn forwarded =>
      exact steadily (Forward.steady_step forwarded)
  | removes phase removed | retries phase removed | givesUp phase removed =>
      rw [queues_removing phase] at steadily ⊢
      exact (deletes_remove removed).trans (steadily (Stage.steady_log _ _))
  | departs phase departed =>
      rename_i departure
      cases departure with
      | pause =>
          cases departed
          exact (Stage.aloof_stopReadings s run.consumers).tells.mono deletesOf_of_not_onChannel
      | leave action =>
          cases departed
          exact .refl _
  | waits phase steady | resumes phase steady => exact steadily steady
  | stops => exact .refl _

end TapRun

namespace Career

variable {c next : Career}

/-- The queues of a tapping worker are attended, in its epochs and between them. -/
structure Attending (c : Career) : Prop where
  tap : ∃ bindings setupRetry, c.worker = .tap bindings setupRetry
  resting : c.run = none → c.stage.Attends [] []
  running : ∀ run, c.run = some run →
    ∃ setupRetry tap, run = .tap setupRetry tap ∧ tap.Attending c.stage

private theorem attending_start {bindings : List Binding} {setupRetry capacity : Nat} {broker : Broker}
    {suffix : Nat → String} (suffixes : Tap.Distinguishes suffix)
    (unrecorded : broker.deletedWhileConsumed = []) :
    (start (.tap bindings setupRetry) (.initial broker capacity suffix)).Attending :=
  ⟨⟨_, _, rfl⟩, fun _ => Stage.attends_nothing suffixes rfl unrecorded, by rintro _ ⟨⟩⟩

theorem Attending.steady {stage : Stage} (attending : c.Attending) (steady : c.stage.Steady stage) :
    Attending { c with stage := stage } := by
  refine ⟨attending.tap, fun resting => (attending.resting resting).steady steady, ?_⟩
  intro run present
  obtain ⟨setupRetry, tap, rfl, attends⟩ := attending.running run present
  exact ⟨setupRetry, tap, rfl, attends.attends.steady steady, attends.planned, attends.listening,
    attends.emptied⟩

theorem Attending.goOn {setupRetry epochs : Nat} {run : TapRun} {stage : Stage}
    (attending : c.Attending) (attends : run.Attending stage) :
    Attending ⟨c.worker, some (.tap setupRetry run), epochs, stage⟩ := by
  refine ⟨attending.tap, fun resting => (nomatch resting), ?_⟩
  rintro _ ⟨⟩
  exact ⟨setupRetry, run, rfl, attends⟩

theorem Attending.turn {turn : Turn} (attending : c.Attending) (taken : take turn c = some next) :
    c.TapTurn next := by
  refine tapTurn_of_take attending.tap (fun run present => ?_) taken
  obtain ⟨setupRetry, tap, same, _⟩ := attending.running run present
  exact ⟨setupRetry, tap, same⟩

theorem Attending.take {turn : Turn} (orderly : c.Orderly) (attending : c.Attending)
    (taken : take turn c = some next) : next.Attending := by
  cases attending.turn taken with
  | begins resting => exact attending.goOn (TapRun.attending_start _ (attending.resting resting))
  | works present stepped =>
      obtain ⟨_, _, ⟨⟩, attends⟩ := attending.running _ present
      exact attending.goOn (attends.step (orderly _ present) stepped)
  | merges present merging advanced =>
      obtain ⟨_, _, ⟨⟩, attends⟩ := attending.running _ present
      exact attending.goOn (attends.merge merging advanced)
  | ends present =>
      obtain ⟨_, _, ⟨⟩, attends⟩ := attending.running _ present
      refine ⟨attending.tap, fun _ => attends.attends.cleared [], ?_⟩
      rintro _ ⟨⟩
  | hangsUp resting =>
      refine ⟨attending.tap, fun _ => ?_, ?_⟩
      · exact (attending.resting resting).keep rfl rfl rfl rfl (Nat.le_refl _) (by simp)
      · intro run present
        cases resting.symm.trans present
  | stays steady => exact attending.steady steady

def Holds (c : Career) (number : Nat) : Prop :=
  ∃ setupRetry tap, c.run = some (.tap setupRetry tap) ∧
    ∃ channel ∈ tap.channels, channel.number = number

variable {events : Journal} {queue : String}

theorem Attending.deletes {turn : Turn} (attending : c.Attending)
    (taken : Career.take turn c = some next) :
    ∃ queues, c.stage.Tells (TapRun.DeletesOf queues) next.stage ∧
      ∀ queue ∈ queues, ∃ setupRetry tap, c.run = some (.tap setupRetry tap) ∧
        tap.Attending c.stage ∧ queue ∈ tap.queues := by
  have otherwise : c.stage.Tells (·.isOnChannel = false) next.stage →
      ∃ queues, c.stage.Tells (TapRun.DeletesOf queues) next.stage ∧
        ∀ queue ∈ queues, ∃ setupRetry tap, c.run = some (.tap setupRetry tap) ∧
          tap.Attending c.stage ∧ queue ∈ tap.queues :=
    fun tells => ⟨[], tells.mono TapRun.deletesOf_of_not_onChannel, nofun⟩
  cases attending.turn taken with
  | works present stepped =>
      obtain ⟨_, _, ⟨⟩, attends⟩ := attending.running _ present
      exact ⟨_, TapRun.deletes_step stepped, fun queue among => ⟨_, _, present, attends, among⟩⟩
  | merges present merging advanced => exact otherwise (FanIn.aloof_advance advanced).tells
  | begins | ends | hangsUp => exact otherwise (.refl _)
  | stays steady => exact otherwise steady.tells

theorem Attending.of_deleted {turn : Turn} (attending : c.Attending)
    (taken : Career.take turn c = some next)
    (journal : next.stage.journal = events ++ c.stage.journal)
    (deleted : queue ∈ Journal.deleted events) :
    ∃ setupRetry tap, c.run = some (.tap setupRetry tap) ∧ tap.Attending c.stage ∧
      queue ∈ tap.queues := by
  obtain ⟨queues, ⟨others, same, told⟩, theirs⟩ := attending.deletes taken
  cases List.append_cancel_right (same.symm.trans journal)
  obtain ⟨e, among, deletes⟩ := List.mem_filterMap.mp deleted
  exact theirs queue (told e among queue deletes)

theorem attending_play {bindings : List Binding} {setupRetry capacity : Nat} {broker : Broker}
    {suffix : Nat → String} {turns : List Turn} (suffixes : Tap.Distinguishes suffix)
    (unrecorded : broker.deletedWhileConsumed = [])
    (taken : play Career.take turns (.start (.tap bindings setupRetry)
      (.initial broker capacity suffix)) = some c) : c.Attending := by
  obtain ⟨_, attending⟩ := play_preserves (P := fun c => c.Orderly ∧ c.Attending)
    (fun ⟨orderly, attending⟩ taken => ⟨orderly.take taken, attending.take orderly taken⟩)
    ⟨by rintro _ ⟨⟩, attending_start suffixes unrecorded⟩ taken
  exact attending

theorem Attending.once (attending : c.Attending) {number : Nat}
    (consumed : (queue, number) ∈ Journal.consumed c.stage.journal)
    (deleted : queue ∈ Journal.deleted c.stage.journal) :
    c.stage.broker.deletedWhileConsumed.count queue = 1 := by
  cases present : c.run with
  | none => exact (attending.resting present).once queue number consumed deleted
  | some run =>
      obtain ⟨_, _, _, attends⟩ := attending.running run present
      exact attends.attends.once queue number consumed deleted

end Career

end ExchangeTap
