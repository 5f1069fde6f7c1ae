import ExchangeTap.Message.Basic
import ExchangeTap.Text.Base64
import ExchangeTap.Time.Reading

namespace ExchangeTap

structure SavedMessage where
  exchange : String
  routingKey : String
  redelivered : Bool
  receivedAt : Option Instant
  properties : Properties
  body : String
  deriving Repr

namespace SavedMessage

open Json

def instant : Codec Instant :=
  .spelled Instant.read (·.write .needed)

def codec : Codec SavedMessage :=
  (Fields.field "exchange" .text (.defaulted "") <|
    .field "routing_key" .text (.defaulted "") <|
    .field "redelivered" .boolean (.defaulted false) <|
    .field "received_at" (.optional instant) Properties.unset <|
    .field "properties" Properties.codec (.defaulted .empty) <|
    .field "body" .text .required .done).codec.convert
    (fun (exchange, routingKey, redelivered, receivedAt, properties, body, ()) =>
      ⟨exchange, routingKey, redelivered, receivedAt, properties, body⟩)
    (fun m => (m.exchange, m.routingKey, m.redelivered, m.receivedAt, m.properties, m.body, ()))

def ofReceived (message : Received) : SavedMessage :=
  ⟨message.delivery.exchange, message.delivery.routingKey, message.delivery.redelivered,
    some message.receivedAt, message.delivery.properties, Base64.encode message.delivery.body⟩

/-- The message to publish, at another exchange or with another routing key if one is given; none if
the body is no Base64. -/
def toOutbound (m : SavedMessage) (exchange routingKey : Option String) : Option Outbound :=
  (Base64.decode m.body).map fun body =>
    ⟨exchange.getD m.exchange, routingKey.getD m.routingKey, m.properties, body⟩

end SavedMessage

end ExchangeTap
