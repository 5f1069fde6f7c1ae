import ExchangeTap.Topology.Resource

/-! The answers come in one after the other, in an order that nobody knows. The first failure among
them ends the gathering, whatever is still out. -/

namespace ExchangeTap.Topology

structure Gathering where
  overview : Option Overview
  exchanges : Option (List Exchange)
  queues : Option (List Queue)
  bindings : Option (List Binding)
  consumers : Option (List Consumer)

/-- What the calls for the resources come to, each by itself. -/
abbrev Results := (resource : Resource) → Except TapError resource.Records

namespace Gathering

def nothing : Gathering :=
  ⟨none, none, none, none, none⟩

def get? (g : Gathering) : (resource : Resource) → Option resource.Records
  | .overview => g.overview
  | .exchanges => g.exchanges
  | .queues => g.queues
  | .bindings => g.bindings
  | .consumers => g.consumers

def add (g : Gathering) : (resource : Resource) → resource.Records → Gathering
  | .overview, records => { g with overview := some records }
  | .exchanges, records => { g with exchanges := some records }
  | .queues, records => { g with queues := some records }
  | .bindings, records => { g with bindings := some records }
  | .consumers, records => { g with consumers := some records }

def whole? (g : Gathering) : Option BrokerInfo := do
  return ⟨← g.overview, ← g.exchanges, ← g.queues, ← g.bindings, ← g.consumers⟩

/-- What comes of the gathering when the calls come to their ends in that order, if anything does yet. -/
def outcome? (results : Results) (g : Gathering) : List Resource → Option (Except TapError BrokerInfo)
  | [] => g.whole?.map .ok
  | resource :: rest =>
    match results resource with
    | .error e => some (.error e)
    | .ok records => (g.add resource records).outcome? results rest

def Holds (results : Results) (seen : List Resource) (g : Gathering) : Prop :=
  ∀ resource, g.get? resource = if resource ∈ seen then (results resource).toOption else none

variable {results : Results} {seen : List Resource} {g : Gathering} {resource other : Resource}

theorem holds_nothing : Holds results [] nothing := by
  intro resource
  cases resource <;> rfl

private theorem get?_add_self (records : resource.Records) :
    (g.add resource records).get? resource = records := by
  cases resource <;> rfl

private theorem get?_add_of_ne (differs : other ≠ resource) (records : resource.Records) :
    (g.add resource records).get? other = g.get? other := by
  cases resource <;> cases other <;> first | rfl | exact absurd rfl differs

private theorem Holds.add {records : resource.Records} (holds : Holds results seen g)
    (succeeds : results resource = .ok records) :
    Holds results (resource :: seen) (g.add resource records) := by
  intro other
  by_cases same : other = resource
  · subst same
    rw [get?_add_self, if_pos List.mem_cons_self, succeeds]
    rfl
  · rw [get?_add_of_ne same, holds other]
    simp [same]

theorem outcome?_cases (holds : Holds results seen g) (order : List Resource) :
    (∃ before resource behind e, order = before ++ resource :: behind ∧
      (∀ earlier ∈ before, ∃ records, results earlier = .ok records) ∧ results resource = .error e ∧
        g.outcome? results order = some (.error e)) ∨
    ((∀ resource ∈ order, ∃ records, results resource = .ok records) ∧
      ∃ last, Holds results (order.reverse ++ seen) last ∧ g.outcome? results order = last.whole?.map .ok) := by
  induction order generalizing g seen with
  | nil => exact .inr ⟨nofun, g, holds, rfl⟩
  | cons resource rest ih =>
      rw [outcome?]
      cases result : results resource with
      | error e => exact .inl ⟨[], resource, rest, e, rfl, nofun, result, rfl⟩
      | ok records =>
          rcases ih (holds.add result) with
            ⟨before, failing, behind, e, rfl, succeed, fails, ends⟩ | ⟨succeed, last, holds, ends⟩
          · exact .inl ⟨resource :: before, failing, behind, e, rfl,
              List.forall_mem_cons.mpr ⟨⟨records, result⟩, succeed⟩, fails, ends⟩
          · refine .inr ⟨List.forall_mem_cons.mpr ⟨⟨records, result⟩, succeed⟩, last, ?_, ends⟩
            rwa [List.reverse_cons, List.append_assoc]

private theorem whole?_eq_some_iff {info : BrokerInfo} :
    g.whole? = some info ↔
      g.overview = some info.overview ∧ g.exchanges = some info.exchanges ∧
        g.queues = some info.queues ∧ g.bindings = some info.bindings ∧
        g.consumers = some info.consumers := by
  simp only [whole?, Option.bind_eq_bind, Option.bind_eq_some_iff, Option.pure_def]
  constructor
  · rintro ⟨_, overview, _, exchanges, _, queues, _, bindings, _, consumers, ⟨⟩⟩
    exact ⟨overview, exchanges, queues, bindings, consumers⟩
  · rintro ⟨overview, exchanges, queues, bindings, consumers⟩
    exact ⟨_, overview, _, exchanges, _, queues, _, bindings, _, consumers, rfl⟩

theorem Holds.whole? (holds : Holds results seen g) (all : ∀ resource, resource ∈ seen) {info : BrokerInfo} :
    g.whole? = some info ↔
      results .overview = .ok info.overview ∧ results .exchanges = .ok info.exchanges ∧
        results .queues = .ok info.queues ∧ results .bindings = .ok info.bindings ∧
        results .consumers = .ok info.consumers := by
  have same : ∀ resource records,
      g.get? resource = some records ↔ results resource = .ok records := by
    intro resource records
    rw [holds resource, if_pos (all resource)]
    cases results resource <;> simp [Except.toOption]
  rw [whole?_eq_some_iff]
  exact and_congr (same .overview _) <| and_congr (same .exchanges _) <| and_congr (same .queues _) <|
    and_congr (same .bindings _) (same .consumers _)

end Gathering

/-- An order in which the calls for all resources come to their ends. -/
structure Order where
  resources : List Resource
  complete : ∀ resource, resource ∈ resources

namespace Order

def asked : Order :=
  ⟨[.overview, .exchanges, .queues, .bindings, .consumers], by intro resource; cases resource <;> decide⟩

private theorem isSome_outcome? (order : Order) (results : Results) :
    (Gathering.nothing.outcome? results order.resources).isSome := by
  rcases Gathering.outcome?_cases Gathering.holds_nothing order.resources with
    ⟨_, _, _, e, _, _, _, ends⟩ | ⟨succeed, last, holds, ends⟩
  · rw [ends]
    rfl
  · obtain ⟨overview, hasOverview⟩ := succeed .overview (order.complete _)
    obtain ⟨exchanges, hasExchanges⟩ := succeed .exchanges (order.complete _)
    obtain ⟨queues, hasQueues⟩ := succeed .queues (order.complete _)
    obtain ⟨bindings, hasBindings⟩ := succeed .bindings (order.complete _)
    obtain ⟨consumers, hasConsumers⟩ := succeed .consumers (order.complete _)
    have whole : last.whole? = some ⟨overview, exchanges, queues, bindings, consumers⟩ :=
      (holds.whole? fun resource => by simp [order.complete]).mpr
        ⟨hasOverview, hasExchanges, hasQueues, hasBindings, hasConsumers⟩
    rw [ends, whole]
    rfl

def outcome (order : Order) (results : Results) : Except TapError BrokerInfo :=
  (Gathering.nothing.outcome? results order.resources).get (order.isSome_outcome? results)

theorem outcome?_eq (order : Order) (results : Results) :
    Gathering.nothing.outcome? results order.resources = some (order.outcome results) :=
  (Option.some_get _).symm

end Order

end ExchangeTap.Topology
