import ExchangeTap.Broker.Operation

/-! A tap consists of a fanout exchange that is bound to the tapped exchange, and of a queue that is
bound to the fanout exchange; both carry a suffix of their own, so that taps do not get into each
other's way. -/

namespace ExchangeTap

namespace Tap

def exchangeName (exchange suffix : String) : String :=
  "__tap-exchange-for-" ++ exchange ++ "-" ++ suffix

def queueName (exchange suffix : String) : String :=
  "__tap-queue-for-" ++ exchange ++ "-" ++ suffix

def consumerTag (suffix : String) : String :=
  "amqptap-" ++ suffix

end Tap

inductive Resource where
  | exchange (name : String)
  | exchangeBinding (destination source key : String)
  | queue (name : String)
  | queueBinding (queue exchange : String)
  deriving DecidableEq, Repr

namespace Resource

def isQueueSide : Resource → Bool
  | queue _ | queueBinding _ _ => true
  | exchange _ | exchangeBinding _ _ _ => false

def creation : Resource → Operation
  | exchange name => .declareExchange name
  | exchangeBinding destination source key => .bindExchange destination source key
  | queue name => .declareQueue name
  | queueBinding name source => .bindQueue name source ""

def removal : Resource → Operation
  | exchange name => .deleteExchange name
  | exchangeBinding destination source key => .unbindExchange destination source key
  | queue name => .deleteQueue name
  | queueBinding name source => .unbindQueue name source ""

def text : Resource → String
  | exchange name => s!"exchange {name}"
  | exchangeBinding destination source key => s!"binding {source} -> {destination} ({key})"
  | queue name => s!"queue {name}"
  | queueBinding name source => s!"binding {source} -> {name}"

/-- The queue side comes first, then the exchange side, each with the latest first. -/
def teardownOrder (ledger : List Resource) : List Resource :=
  ledger.reverse.filter isQueueSide ++ ledger.reverse.filter (!isQueueSide ·)

end Resource

end ExchangeTap
