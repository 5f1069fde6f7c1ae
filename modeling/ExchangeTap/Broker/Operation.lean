import ExchangeTap.Message.Basic

namespace ExchangeTap

inductive Operation where
  /-- Declares a fanout exchange that only other exchanges publish to, and that goes with its last
  binding. -/
  | declareExchange (name : String)
  | bindExchange (destination source key : String)
  | unbindExchange (destination source key : String)
  | deleteExchange (name : String)
  /-- Declares a queue that belongs to the connection and goes with its last consumer. -/
  | declareQueue (name : String)
  | bindQueue (queue exchange key : String)
  | unbindQueue (queue exchange key : String)
  | deleteQueue (name : String)
  | consume (queue tag : String)
  | publish (message : Outbound)
  deriving Repr

inductive Operation.Kind where
  | declareExchange
  | bindExchange
  | unbindExchange
  | deleteExchange
  | declareQueue
  | bindQueue
  | unbindQueue
  | deleteQueue
  | consume
  | publish
  deriving DecidableEq, Repr

namespace Operation

def kind : Operation → Kind
  | declareExchange _ => .declareExchange
  | bindExchange _ _ _ => .bindExchange
  | unbindExchange _ _ _ => .unbindExchange
  | deleteExchange _ => .deleteExchange
  | declareQueue _ => .declareQueue
  | bindQueue _ _ _ => .bindQueue
  | unbindQueue _ _ _ => .unbindQueue
  | deleteQueue _ => .deleteQueue
  | consume _ _ => .consume
  | publish _ => .publish

def subject? : Operation → Option String
  | bindExchange _ source _ | unbindExchange _ source _ => some source
  | publish message => some message.exchange
  | _ => none

end Operation

end ExchangeTap
