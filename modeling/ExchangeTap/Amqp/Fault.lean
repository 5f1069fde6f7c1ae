import ExchangeTap.Failure
import ExchangeTap.Text.Digits

namespace ExchangeTap

/-- The reply codes of the protocol. Soft ones close a channel, hard ones the connection. -/
inductive ReplyCode where
  | contentTooLarge
  | noRoute
  | noConsumers
  | accessRefused
  | notFound
  | resourceLocked
  | preconditionFailed
  | connectionForced
  | invalidPath
  | frameError
  | syntaxError
  | commandInvalid
  | channelError
  | unexpectedFrame
  | resourceError
  | notAllowed
  | notImplemented
  | internalError
  deriving DecidableEq, Repr

namespace ReplyCode

def all : List ReplyCode :=
  [contentTooLarge, noRoute, noConsumers, accessRefused, notFound, resourceLocked,
    preconditionFailed, connectionForced, invalidPath, frameError, syntaxError, commandInvalid,
    channelError, unexpectedFrame, resourceError, notAllowed, notImplemented, internalError]

def number : ReplyCode → Nat
  | contentTooLarge => 311
  | noRoute => 312
  | noConsumers => 313
  | accessRefused => 403
  | notFound => 404
  | resourceLocked => 405
  | preconditionFailed => 406
  | connectionForced => 320
  | invalidPath => 402
  | frameError => 501
  | syntaxError => 502
  | commandInvalid => 503
  | channelError => 504
  | unexpectedFrame => 505
  | resourceError => 506
  | notAllowed => 530
  | notImplemented => 540
  | internalError => 541

def ofNumber? (n : Nat) : Option ReplyCode :=
  all.find? (·.number = n)

def isSoft : ReplyCode → Bool
  | contentTooLarge | noRoute | noConsumers | accessRefused | notFound | resourceLocked
  | preconditionFailed => true
  | _ => false

def text : ReplyCode → String
  | contentTooLarge => "CONTENT-TOO-LARGE"
  | noRoute => "NO-ROUTE"
  | noConsumers => "NO-CONSUMERS"
  | accessRefused => "ACCESS-REFUSED"
  | notFound => "NOT-FOUND"
  | resourceLocked => "RESOURCE-LOCKED"
  | preconditionFailed => "PRECONDITION-FAILED"
  | connectionForced => "CONNECTION-FORCED"
  | invalidPath => "INVALID-PATH"
  | frameError => "FRAME-ERROR"
  | syntaxError => "SYNTAX-ERROR"
  | commandInvalid => "COMMAND-INVALID"
  | channelError => "CHANNEL-ERROR"
  | unexpectedFrame => "UNEXPECTED-FRAME"
  | resourceError => "RESOURCE-ERROR"
  | notAllowed => "NOT-ALLOWED"
  | notImplemented => "NOT-IMPLEMENTED"
  | internalError => "INTERNAL-ERROR"

end ReplyCode

inductive AmqpFault where
  | channelsLimitReached
  | invalidChannel (number : Nat)
  | invalidChannelState (state : String)
  | invalidConnectionState (state : String)
  | transport (reason : String)
  | protocol (code : ReplyCode) (reason : String)
  | missingHeartbeat
  deriving DecidableEq, Repr

namespace AmqpFault

def message : AmqpFault → String
  | channelsLimitReached => "the maximum number of channels for this connection has been reached"
  | invalidChannel number => "invalid channel: " ++ Digits.text number
  | invalidChannelState state => "invalid channel state: " ++ state
  | invalidConnectionState state => "invalid connection state: " ++ state
  | transport reason => "IO error: " ++ reason
  | protocol code reason =>
    let severity := if code.isSoft then "soft" else "hard"
    "protocol error: AMQP " ++ severity ++ " error: " ++ code.text ++ ": " ++ reason
  | missingHeartbeat => "no heartbeat received from server for too long"

def toBrokerError (fault : AmqpFault) : BrokerError :=
  match fault with
  | invalidChannel _ | invalidChannelState _ => .channelClosed fault.message
  | invalidConnectionState _ | transport _ => .connectionClosed fault.message
  | protocol .notFound _ => .notFound fault.message
  | _ => .operation fault.message

end AmqpFault

end ExchangeTap
