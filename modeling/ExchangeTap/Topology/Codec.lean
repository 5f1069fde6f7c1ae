import ExchangeTap.Json.Codec
import ExchangeTap.Topology.Records

namespace ExchangeTap.Topology

open Json

def optionalField (name : String) (c : Codec α) (rest : Fields β σ) :
    Fields (Option α × β) (Option (Option α) × σ) :=
  .field name (.optional c) (.defaulted none) rest

def countField (name : String) (rest : Fields β σ) : Fields (Nat × β) (Option Nat × σ) :=
  .field name (.natural (2 ^ 64)) (.defaulted 0) rest

def flagField (name : String) (rest : Fields β σ) : Fields (Bool × β) (Option Bool × σ) :=
  .field name .boolean (.defaulted false) rest

def textField (name : String) (rest : Fields β σ) : Fields (String × β) (Option String × σ) :=
  .field name .text .required rest

def ObjectTotals.codec : Codec ObjectTotals :=
  (countField "connections" <| countField "channels" <| countField "exchanges" <|
    countField "queues" <| countField "consumers" .done).codec.convert
    (fun (connections, channels, exchanges, queues, consumers, ()) =>
      ⟨connections, channels, exchanges, queues, consumers⟩)
    (fun t => (t.connections, t.channels, t.exchanges, t.queues, t.consumers, ()))

def Overview.codec : Codec Overview :=
  (optionalField "cluster_name" .text <| optionalField "node" .text <|
    optionalField "rabbitmq_version" .text <| optionalField "erlang_version" .text <|
    optionalField "management_version" .text <|
    optionalField "object_totals" ObjectTotals.codec .done).codec.convert
    (fun (clusterName, node, rabbitmqVersion, erlangVersion, managementVersion, totals, ()) =>
      ⟨clusterName, node, rabbitmqVersion, erlangVersion, managementVersion, totals⟩)
    (fun o => (o.clusterName, o.node, o.rabbitmqVersion, o.erlangVersion, o.managementVersion,
      o.objectTotals, ()))

def Exchange.codec : Codec Exchange :=
  (textField "name" <| textField "vhost" <| textField "type" <| flagField "durable" <|
    flagField "auto_delete" <| flagField "internal" .done).codec.convert
    (fun (name, vhost, kind, durable, autoDelete, internal, ()) =>
      ⟨name, vhost, kind, durable, autoDelete, internal⟩)
    (fun e => (e.name, e.vhost, e.kind, e.durable, e.autoDelete, e.internal, ()))

def Queue.codec : Codec Queue :=
  (textField "name" <| textField "vhost" <| flagField "durable" <| flagField "auto_delete" <|
    flagField "exclusive" <| optionalField "messages" (.natural (2 ^ 64)) <|
    optionalField "consumers" (.natural (2 ^ 64)) <| optionalField "state" .text .done).codec.convert
    (fun (name, vhost, durable, autoDelete, exclusive, messages, consumers, state, ()) =>
      ⟨name, vhost, durable, autoDelete, exclusive, messages, consumers, state⟩)
    (fun q => (q.name, q.vhost, q.durable, q.autoDelete, q.exclusive, q.messages, q.consumers,
      q.state, ()))

def Binding.codec : Codec Binding :=
  (textField "source" <| textField "vhost" <| textField "destination" <|
    textField "destination_type" <| .field "routing_key" .text (.defaulted "") <|
    .field "arguments" .any (.defaulted .null) .done).codec.convert
    (fun (source, vhost, destination, destinationType, routingKey, arguments, ()) =>
      ⟨source, vhost, destination, destinationType, routingKey, arguments⟩)
    (fun b => (b.source, b.vhost, b.destination, b.destinationType, b.routingKey, b.arguments, ()))

def QueueRef.codec : Codec QueueRef :=
  (textField "name" <| textField "vhost" .done).codec.convert
    (fun (name, vhost, ()) => ⟨name, vhost⟩)
    (fun q => (q.name, q.vhost, ()))

def ChannelDetails.codec : Codec ChannelDetails :=
  (optionalField "name" .text <| optionalField "connection_name" .text <|
    optionalField "peer_host" .text <|
    optionalField "peer_port" (.natural (2 ^ 16)) .done).codec.convert
    (fun (name, connectionName, peerHost, peerPort, ()) =>
      ⟨name, connectionName, peerHost, peerPort⟩)
    (fun d => (d.name, d.connectionName, d.peerHost, d.peerPort, ()))

def Consumer.codec : Codec Consumer :=
  (textField "consumer_tag" <| .field "queue" QueueRef.codec .required <|
    optionalField "channel_details" ChannelDetails.codec <| flagField "ack_required" <|
    flagField "exclusive" <| countField "prefetch_count" .done).codec.convert
    (fun (tag, queue, channelDetails, ackRequired, exclusive, prefetchCount, ()) =>
      ⟨tag, queue, channelDetails, ackRequired, exclusive, prefetchCount⟩)
    (fun c => (c.tag, c.queue, c.channelDetails, c.ackRequired, c.exclusive, c.prefetchCount, ()))

def BrokerInfo.codec : Codec BrokerInfo :=
  (Fields.field "overview" Overview.codec .required <|
    .field "exchanges" (.list Exchange.codec) .required <|
    .field "queues" (.list Queue.codec) .required <|
    .field "bindings" (.list Binding.codec) .required <|
    .field "consumers" (.list Consumer.codec) .required .done).codec.convert
    (fun (overview, exchanges, queues, bindings, consumers, ()) =>
      ⟨overview, exchanges, queues, bindings, consumers⟩)
    (fun i => (i.overview, i.exchanges, i.queues, i.bindings, i.consumers, ()))

end ExchangeTap.Topology
