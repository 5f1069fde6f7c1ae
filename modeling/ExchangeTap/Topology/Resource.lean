import ExchangeTap.Failure
import ExchangeTap.Topology.Codec

namespace ExchangeTap.Topology

structure Response where
  status : Nat
  body : List UInt8
  deriving DecidableEq, Repr

def Response.isSuccess (r : Response) : Bool :=
  200 ≤ r.status && r.status < 300

inductive Resource where
  | overview
  | exchanges
  | queues
  | bindings
  | consumers
  deriving DecidableEq, Repr

namespace Resource

def name : Resource → String
  | overview => "overview"
  | exchanges => "exchanges"
  | queues => "queues"
  | bindings => "bindings"
  | consumers => "consumers"

abbrev Records : Resource → Type
  | overview => Overview
  | exchanges => List Exchange
  | queues => List Queue
  | bindings => List Binding
  | consumers => List Consumer

def codec : (resource : Resource) → Json.Codec resource.Records
  | overview => Overview.codec
  | exchanges => .list Exchange.codec
  | queues => .list Queue.codec
  | bindings => .list Binding.codec
  | consumers => .list Consumer.codec

def read (resource : Resource) : Except String Response → Except TapError resource.Records
  | .error reason => .error (.http reason)
  | .ok response =>
    if response.isSuccess then
      match resource.codec.decodeBytes response.body with
      | .error _ => .error (.http "error decoding response body")
      | .ok records => .ok records
    else .error (.api response.status resource.name (Utf8.lossy response.body))

end Resource

end ExchangeTap.Topology
