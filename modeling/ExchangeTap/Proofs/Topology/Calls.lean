import ExchangeTap.Topology.Client

namespace ExchangeTap.Topology

variable {info : BrokerInfo} {e : TapError}

namespace Order

variable {results : Results} {order : Order}

private theorem outcome_eq_ok_iff : order.outcome results = .ok info ↔
    results .overview = .ok info.overview ∧ results .exchanges = .ok info.exchanges ∧
      results .queues = .ok info.queues ∧ results .bindings = .ok info.bindings ∧
      results .consumers = .ok info.consumers := by
  have ends := order.outcome?_eq results
  rcases Gathering.outcome?_cases Gathering.holds_nothing order.resources with
    ⟨_, resource, _, e, _, _, fails, outcome⟩ | ⟨_, last, holds, outcome⟩
  · rw [outcome] at ends
    rw [← Option.some_inj, ← ends]
    constructor
    · nofun
    · rintro ⟨overview, exchanges, queues, bindings, consumers⟩
      cases resource <;> simp_all
  · rw [outcome] at ends
    rw [← holds.whole? fun resource => by simp [order.complete]]
    cases whole : last.whole? with
    | none =>
        rw [whole] at ends
        cases ends
    | some gathered =>
        rw [whole] at ends
        rw [← Option.some_inj.mp ends, Except.ok.injEq, Option.some_inj]

private theorem first_of_outcome_eq_error (fails : order.outcome results = .error e) :
    ∃ before resource behind, order.resources = before ++ resource :: behind ∧
      (∀ earlier ∈ before, ∃ records, results earlier = .ok records) ∧ results resource = .error e := by
  have ends := order.outcome?_eq results
  rw [fails] at ends
  rcases Gathering.outcome?_cases Gathering.holds_nothing order.resources with
    ⟨before, resource, behind, other, split, succeed, fails, outcome⟩ | ⟨_, last, _, outcome⟩
  · rw [outcome] at ends
    cases ends
    exact ⟨before, resource, behind, split, succeed, fails⟩
  · rw [outcome] at ends
    cases whole : last.whole? with
    | none =>
        rw [whole] at ends
        cases ends
    | some gathered =>
        rw [whole] at ends
        cases ends

end Order

namespace Client

variable (c : Client)

private theorem brokerInfoIn_eq_outcome (order : Order) (carry : Transport) :
    c.brokerInfoIn order carry = order.outcome fun resource => c.fetch carry resource := by
  refine congrArg order.outcome ?_
  funext resource
  cases resource <;> rfl

theorem brokerInfo_agrees_with_calls (carry : Transport) (order : Order) :
    (∀ info, c.brokerInfoIn order carry = Except.ok info ↔
      c.overview carry = Except.ok info.overview ∧ c.exchanges carry = Except.ok info.exchanges ∧
        c.queues carry = Except.ok info.queues ∧ c.bindings carry = Except.ok info.bindings ∧
        c.consumers carry = Except.ok info.consumers) ∧
    ∀ e, c.brokerInfoIn order carry = Except.error e →
      c.overview carry = Except.error e ∨ c.exchanges carry = Except.error e ∨
        c.queues carry = Except.error e ∨ c.bindings carry = Except.error e ∨
        c.consumers carry = Except.error e := by
  rw [brokerInfoIn_eq_outcome]
  constructor
  · exact fun info => Order.outcome_eq_ok_iff
  · intro e fails
    obtain ⟨_, resource, _, _, _, failing⟩ := Order.first_of_outcome_eq_error fails
    cases resource with
    | overview => exact .inl failing
    | exchanges => exact .inr (.inl failing)
    | queues => exact .inr (.inr (.inl failing))
    | bindings => exact .inr (.inr (.inr (.inl failing)))
    | consumers => exact .inr (.inr (.inr (.inr failing)))

theorem brokerInfo_agrees_with_calls_refused :
    let c : Client := ⟨"http://rabbit", none, none⟩
    let carry : Transport := fun request =>
      if request.url = "http://rabbit/overview" then .ok ⟨200, Utf8.encode "\x7b\x7d"⟩
      else if request.url = "http://rabbit/queues" ∨ request.url = "http://rabbit/consumers" then
        .ok ⟨401, []⟩
      else .ok ⟨200, Utf8.encode "[]"⟩
    c.overview carry = Except.error (.api 401 "queues" "") ∨
      c.exchanges carry = Except.error (.api 401 "queues" "") ∨
      c.queues carry = Except.error (.api 401 "queues" "") ∨
      c.bindings carry = Except.error (.api 401 "queues" "") ∨
      c.consumers carry = Except.error (.api 401 "queues" "") :=
  (brokerInfo_agrees_with_calls _ _ .asked).2 (.api 401 "queues" "") rfl

end Client

inductive Call where
  | fetch (resource : Resource)
  | brokerInfo (order : Order)

namespace Call

/-- What a call asks the interface for. -/
def resources : Call → List Resource
  | fetch resource => [resource]
  | brokerInfo _ => [.overview, .exchanges, .queues, .bindings, .consumers]

/-- A transport that also keeps what it carries. -/
def keeping (carry : Transport) : Carrier (StateM (List Request)) := fun request => do
  modify (· ++ [request])
  return carry request

private theorem fetch_keeping (c : Client) (carry : Transport) (resource : Resource) (before : List Request) :
    (c.fetch (keeping carry) resource).run before =
      (c.fetch carry resource, before ++ [c.request resource]) :=
  rfl

private theorem brokerInfoIn_keeping (c : Client) (carry : Transport) (order : Order)
    (before : List Request) :
    (c.brokerInfoIn order (keeping carry)).run before =
      (c.brokerInfoIn order carry, before ++ (brokerInfo order).resources.map c.request) := by
  refine Prod.ext rfl ?_
  show before ++ [_] ++ [_] ++ [_] ++ [_] ++ [_] = _
  simp only [List.append_assoc]
  rfl

/-- The requests that a call makes. -/
def requests (c : Client) (carry : Transport) : Call → List Request
  | fetch resource => ((c.fetch (keeping carry) resource).run []).2
  | brokerInfo order => ((c.brokerInfoIn order (keeping carry)).run []).2

theorem requests_eq (c : Client) (carry : Transport) (call : Call) :
    call.requests c carry = call.resources.map c.request := by
  cases call with
  | fetch resource => exact congrArg Prod.snd (fetch_keeping c carry resource [])
  | brokerInfo order => exact congrArg Prod.snd (brokerInfoIn_keeping c carry order [])

end Call

end ExchangeTap.Topology
