import ExchangeTap.Json.Codec

namespace ExchangeTap

/-- Headers are free-form JSON by name, in the order of their names. -/
abbrev Headers := List (String × Json)

structure Properties where
  contentType : Option String
  contentEncoding : Option String
  deliveryMode : Option Nat
  priority : Option Nat
  correlationId : Option String
  replyTo : Option String
  expiration : Option String
  messageId : Option String
  /-- Seconds since 1 January 1970. -/
  timestamp : Option Nat
  kind : Option String
  userId : Option String
  appId : Option String
  headers : Headers
  deriving Repr

namespace Properties

def empty : Properties :=
  ⟨none, none, none, none, none, none, none, none, none, none, none, none, []⟩

instance : Inhabited Properties := ⟨empty⟩

open Json

def unset : Presence (Option α) :=
  .omitted none Option.isNone

def codec : Codec Properties :=
  (Fields.field "content_type" (.optional .text) unset <|
    .field "content_encoding" (.optional .text) unset <|
    .field "delivery_mode" (.optional (.natural 256)) unset <|
    .field "priority" (.optional (.natural 256)) unset <|
    .field "correlation_id" (.optional .text) unset <|
    .field "reply_to" (.optional .text) unset <|
    .field "expiration" (.optional .text) unset <|
    .field "message_id" (.optional .text) unset <|
    .field "timestamp" (.optional (.natural (2 ^ 64))) unset <|
    .field "type" (.optional .text) unset <|
    .field "user_id" (.optional .text) unset <|
    .field "app_id" (.optional .text) unset <|
    .field "headers" .members (.omitted [] List.isEmpty) .done).codec.convert
    (fun (a, b, c, d, e, f, g, h, i, j, k, l, m, ()) => ⟨a, b, c, d, e, f, g, h, i, j, k, l, m⟩)
    (fun p => (p.contentType, p.contentEncoding, p.deliveryMode, p.priority, p.correlationId,
      p.replyTo, p.expiration, p.messageId, p.timestamp, p.kind, p.userId, p.appId, p.headers, ()))

end Properties

end ExchangeTap
