import ExchangeTap.Json.Value

namespace ExchangeTap.Topology

structure ObjectTotals where
  connections : Nat
  channels : Nat
  exchanges : Nat
  queues : Nat
  consumers : Nat
  deriving DecidableEq, Repr

structure Overview where
  clusterName : Option String
  node : Option String
  rabbitmqVersion : Option String
  erlangVersion : Option String
  managementVersion : Option String
  objectTotals : Option ObjectTotals
  deriving DecidableEq, Repr

structure Exchange where
  name : String
  vhost : String
  kind : String
  durable : Bool
  autoDelete : Bool
  internal : Bool
  deriving DecidableEq, Repr

structure Queue where
  name : String
  vhost : String
  durable : Bool
  autoDelete : Bool
  exclusive : Bool
  messages : Option Nat
  consumers : Option Nat
  state : Option String
  deriving DecidableEq, Repr

structure Binding where
  source : String
  vhost : String
  destination : String
  destinationType : String
  routingKey : String
  arguments : Json
  deriving Repr

structure QueueRef where
  name : String
  vhost : String
  deriving DecidableEq, Repr

structure ChannelDetails where
  name : Option String
  connectionName : Option String
  peerHost : Option String
  peerPort : Option Nat
  deriving DecidableEq, Repr

structure Consumer where
  tag : String
  queue : QueueRef
  channelDetails : Option ChannelDetails
  ackRequired : Bool
  exclusive : Bool
  prefetchCount : Nat
  deriving DecidableEq, Repr

structure BrokerInfo where
  overview : Overview
  exchanges : List Exchange
  queues : List Queue
  bindings : List Binding
  consumers : List Consumer
  deriving Repr

/-- The exchange without a name is the broker's default one. -/
def Exchange.displayName (e : Exchange) : String :=
  if e.name = "" then "(AMQP default)" else e.name

namespace BrokerInfo

def bindingsFrom (info : BrokerInfo) (vhost exchange : String) : List Binding :=
  info.bindings.filter fun b => b.vhost = vhost ∧ b.source = exchange

def consumersOf (info : BrokerInfo) (vhost queue : String) : List Consumer :=
  info.consumers.filter fun c => c.queue.vhost = vhost ∧ c.queue.name = queue

end BrokerInfo

end ExchangeTap.Topology
