import ExchangeTap.Json.Writer
import ExchangeTap.Message.Basic
import ExchangeTap.Text.Utf8

namespace ExchangeTap.Received

def setProperties (p : Properties) : List (String × String) :=
  [("content_type", p.contentType),
    ("content_encoding", p.contentEncoding),
    ("delivery_mode", p.deliveryMode.map Digits.text),
    ("priority", p.priority.map Digits.text),
    ("correlation_id", p.correlationId),
    ("reply_to", p.replyTo),
    ("expiration", p.expiration),
    ("message_id", p.messageId),
    ("timestamp", p.timestamp.map Digits.text),
    ("type", p.kind),
    ("user_id", p.userId),
    ("app_id", p.appId)].filterMap fun (name, value) => value.map (name, ·)

def plainText (message : Received) : String :=
  let delivery := message.delivery
  let time := message.receivedAt.write .millis
  let mark := if delivery.redelivered then " (redelivered)" else ""
  let heading :=
    s!"------ {time} exchange={delivery.exchange} routing_key={delivery.routingKey}{mark} ------\n"
  let properties := (setProperties delivery.properties).map fun (name, value) => s!"{name}: {value}\n"
  let headers := delivery.properties.headers.map fun (name, value) =>
    s!"header {name}: " ++ value.compact ++ "\n"
  String.join (heading :: properties ++ headers ++ [Utf8.lossy delivery.body, "\n"])

end ExchangeTap.Received
