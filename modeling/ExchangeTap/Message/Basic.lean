import ExchangeTap.Failure
import ExchangeTap.Message.Properties
import ExchangeTap.Time.Instant

namespace ExchangeTap

structure Delivery where
  exchange : String
  routingKey : String
  redelivered : Bool
  tag : Nat
  properties : Properties
  body : List UInt8
  deriving Repr, Inhabited

/-- A delivery and the local time of its receipt. -/
structure Received where
  delivery : Delivery
  receivedAt : Instant
  deriving Repr

structure Outbound where
  exchange : String
  routingKey : String
  properties : Properties
  body : List UInt8
  deriving Repr, Inhabited

/-- An item of a worker's output: a message of type `M`, or a failure. -/
inductive Envelope (M : Type) where
  | delivered (message : M)
  | failed (error : TapError)
  deriving Repr

end ExchangeTap
