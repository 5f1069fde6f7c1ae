import ExchangeTap.Broker.Operation
import ExchangeTap.Text.Digits
import ExchangeTap.Worker.Resource

namespace ExchangeTap

inductive LogLevel where
  | error
  | warn
  | info
  | debug
  deriving DecidableEq, Repr

def LogLevel.text : LogLevel → String
  | error => "ERROR"
  | warn => "WARN"
  | info => "INFO"
  | debug => "DEBUG"

inductive LogEntry where
  | connected
  | connectionClosed
  | closingFailed (error : BrokerError)
  | staleClosingFailed (error : BrokerError)
  | reconnecting
  | shutdownWhileConnecting
  | dialFailed (error : BrokerError) (retryInMillis : Nat)
  | sendingShutdown
  | connectionLost (error : BrokerError)
  | signalPending
  | outputClosed
  | consumerFailed (error : BrokerError)
  | shutdownRequested
  | reconnectRequested
  | setupFailed (exchange : String) (error : BrokerError)
  | tapping (taps : Nat)
  | tapEstablished (exchange key tapExchange tapQueue : String)
  | reopeningChannel (resource : Resource)
  | resourceRemoved (resource : Resource)
  | resourceAlreadyRemoved (resource : Resource)
  | removalFailed (resource : Resource) (error : BrokerError)
  | channelNotOpened (error : BrokerError)
  | lostBeforeConsuming (error : BrokerError)
  | consumingFailed (queue : String) (error : BrokerError)
  | subscribed (queue : String)
  | readyToPublish
  | feedClosed
  | publishFailed (exchange routingKey : String) (error : BrokerError)
  | channelNotReopened (error : BrokerError)
  deriving DecidableEq, Repr

/-- A time span in its largest unit, with a fraction where needed. -/
def millisText (millis : Nat) : String :=
  if millis = 0 then "0ns"
  else if millis < 1000 then Digits.text millis ++ "ms"
  else
    let fraction := ((Digits.padded 3 (millis % 1000)).reverse.dropWhile (· == '0')).reverse
    Digits.text (millis / 1000) ++
      (if fraction.isEmpty then "" else "." ++ String.ofList fraction) ++ "s"

namespace LogEntry

def level : LogEntry → LogLevel
  | setupFailed _ _ | consumingFailed _ _ | publishFailed _ _ _ => .error
  | closingFailed _ | dialFailed _ _ | connectionLost _ | consumerFailed _ | removalFailed _ _
  | channelNotOpened _ | lostBeforeConsuming _ | channelNotReopened _ => .warn
  | connected | connectionClosed | reconnecting | shutdownWhileConnecting | shutdownRequested
  | reconnectRequested | tapping _ | subscribed _ => .info
  | staleClosingFailed _ | sendingShutdown | signalPending | outputClosed | tapEstablished _ _ _ _
  | reopeningChannel _ | resourceRemoved _ | resourceAlreadyRemoved _ | readyToPublish
  | feedClosed => .debug

def message : LogEntry → String
  | connected => "Connected to broker"
  | connectionClosed => "Connection closed"
  | closingFailed _ => "Closing connection failed"
  | staleClosingFailed _ => "Closing stale connection failed"
  | reconnecting => "Reconnecting"
  | shutdownWhileConnecting => "Shutdown requested while connecting"
  | dialFailed _ _ => "Dial failed, retrying"
  | sendingShutdown => "Sending shutdown signal"
  | connectionLost _ => "Connection lost"
  | signalPending => "Control signal already pending, reconnect not queued"
  | outputClosed => "Output closed, stopping"
  | consumerFailed _ => "Consumer failed"
  | shutdownRequested => "Shutdown requested"
  | reconnectRequested => "Reconnect requested"
  | setupFailed _ _ => "Tap setup failed"
  | tapping _ => "Tapping exchanges"
  | tapEstablished _ _ _ _ => "Tap established"
  | reopeningChannel _ => "Reopening teardown channel"
  | resourceRemoved _ => "Removed tap resource"
  | resourceAlreadyRemoved _ => "Tap resource already removed"
  | removalFailed _ _ => "Removing tap resource failed"
  | channelNotOpened _ => "Could not open channel"
  | lostBeforeConsuming _ => "Connection lost before consuming"
  | consumingFailed _ _ => "Consuming queue failed"
  | subscribed _ => "Subscribed"
  | readyToPublish => "Ready to publish"
  | feedClosed => "Outbound stream closed"
  | publishFailed _ _ _ => "Publish failed"
  | channelNotReopened _ => "Could not reopen channel"

def fields : LogEntry → List (String × String)
  | closingFailed error | staleClosingFailed error | connectionLost error | consumerFailed error
  | channelNotOpened error | lostBeforeConsuming error | channelNotReopened error =>
    [("error", error.message)]
  | dialFailed error retryIn => [("error", error.message), ("retry_in", millisText retryIn)]
  | setupFailed exchange error => [("exchange", exchange), ("error", error.message)]
  | tapping taps => [("taps", Digits.text taps)]
  | tapEstablished exchange key tapExchange tapQueue =>
    [("exchange", exchange), ("binding_key", key), ("tap_exchange", tapExchange),
      ("tap_queue", tapQueue)]
  | reopeningChannel resource | resourceRemoved resource | resourceAlreadyRemoved resource =>
    [("resource", resource.text)]
  | removalFailed resource error => [("resource", resource.text), ("error", error.message)]
  | consumingFailed queue error => [("queue", queue), ("error", error.message)]
  | subscribed queue => [("queue", queue)]
  | publishFailed exchange routingKey error =>
    [("exchange", exchange), ("routing_key", routingKey), ("error", error.message)]
  | connected | connectionClosed | reconnecting | shutdownWhileConnecting | sendingShutdown
  | signalPending | outputClosed | shutdownRequested | reconnectRequested | readyToPublish
  | feedClosed => []

def line (entry : LogEntry) : String :=
  String.join (entry.level.text :: " " :: entry.message ::
    entry.fields.map fun (name, value) => " " ++ name ++ "=" ++ value)

end LogEntry

end ExchangeTap
