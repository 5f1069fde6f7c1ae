import ExchangeTap.Text.Digits
import ExchangeTap.Topology.Records

namespace ExchangeTap.Topology

def Binding.line (b : Binding) : String :=
  s!"      -> {b.destinationType} {b.destination} [{b.routingKey}]\n"

def Consumer.line (c : Consumer) : String :=
  let peer := (c.channelDetails.bind (·.connectionName)).getD "unknown connection"
  s!"      consumer {c.tag} on {peer}\n"

def Exchange.line (e : Exchange) : String :=
  let flags := e.kind :: ((if e.durable then ["durable"] else []) ++
    (if e.autoDelete then ["auto-delete"] else []) ++ (if e.internal then ["internal"] else []))
  let list := ", ".intercalate flags
  s!"  {e.vhost} {e.displayName} ({list})\n"

def Queue.line (q : Queue) : String :=
  let count (n : Option Nat) := (n.map Digits.text).getD "?"
  let messages := count q.messages
  let consumers := count q.consumers
  let mark := if q.exclusive then " exclusive" else ""
  s!"  {q.vhost} {q.name} messages={messages} consumers={consumers}{mark}\n"

def ObjectTotals.line (t : ObjectTotals) : String :=
  let objects := s!"{t.exchanges} exchanges, {t.queues} queues, {t.consumers} consumers\n"
  s!"{t.connections} connections, {t.channels} channels, " ++ objects

def Overview.lines (o : Overview) : List String :=
  let name := (o.clusterName.or o.node).getD "unknown"
  let rabbitmq := o.rabbitmqVersion.getD "?"
  let erlang := o.erlangVersion.getD "?"
  s!"Broker {name} (RabbitMQ {rabbitmq}, Erlang {erlang})\n" ::
    (o.objectTotals.map ObjectTotals.line).toList

namespace BrokerInfo

def exchangeLines (info : BrokerInfo) (e : Exchange) : List String :=
  e.line :: (info.bindingsFrom e.vhost e.name).map Binding.line

def queueLines (info : BrokerInfo) (q : Queue) : List String :=
  q.line :: (info.consumersOf q.vhost q.name).map Consumer.line

def report (info : BrokerInfo) : String :=
  String.join (info.overview.lines ++
    "\nExchanges:\n" :: info.exchanges.flatMap info.exchangeLines ++
    "\nQueues:\n" :: info.queues.flatMap info.queueLines)

end BrokerInfo

end ExchangeTap.Topology
