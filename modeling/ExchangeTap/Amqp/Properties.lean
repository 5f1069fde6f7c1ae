import ExchangeTap.Amqp.Value
import ExchangeTap.Message.Properties

namespace ExchangeTap

structure AmqpProperties where
  contentType : Option String
  contentEncoding : Option String
  headers : Option (List (String × AmqpValue))
  deliveryMode : Option Nat
  priority : Option Nat
  correlationId : Option String
  replyTo : Option String
  expiration : Option String
  messageId : Option String
  timestamp : Option Nat
  kind : Option String
  userId : Option String
  appId : Option String
  clusterId : Option String
  deriving Repr

namespace AmqpProperties

def toProperties (p : AmqpProperties) : Properties where
  contentType := p.contentType
  contentEncoding := p.contentEncoding
  deliveryMode := p.deliveryMode
  priority := p.priority
  correlationId := p.correlationId
  replyTo := p.replyTo
  expiration := p.expiration
  messageId := p.messageId
  timestamp := p.timestamp
  kind := p.kind
  userId := p.userId
  appId := p.appId
  headers :=
    match p.headers with
    | none => []
    | some entries => AmqpValue.entriesToJson entries

def ofProperties (p : Properties) : AmqpProperties where
  contentType := p.contentType
  contentEncoding := p.contentEncoding
  headers := if p.headers.isEmpty then none else some (AmqpValue.ofMembers p.headers)
  deliveryMode := p.deliveryMode
  priority := p.priority
  correlationId := p.correlationId
  replyTo := p.replyTo
  expiration := p.expiration
  messageId := p.messageId
  timestamp := p.timestamp
  kind := p.kind
  userId := p.userId
  appId := p.appId
  clusterId := none

end AmqpProperties

end ExchangeTap
