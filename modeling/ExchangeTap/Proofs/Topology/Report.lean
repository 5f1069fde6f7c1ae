import ExchangeTap.Topology.Report

namespace ExchangeTap.Topology

/-- An owner, and what is listed below it. -/
structure Entry (Owner Item : Type) where
  owner : Owner
  items : List Item

namespace Entry

variable {Owner Item Address : Type}

def lines (ownerLine : Owner → String) (itemLine : Item → String) (entry : Entry Owner Item) :
    List String :=
  ownerLine entry.owner :: entry.items.map itemLine

/-- The entries go through the owners in order. Each item is in one of them, below an owner with its address,
and the items of an entry keep their order. -/
structure Complete (address : Owner → Address) (place : Item → Address) (owners : List Owner)
    (all : List Item) (entries : List (Entry Owner Item)) : Prop where
  owners : entries.map owner = owners
  items : (entries.flatMap Entry.items).Perm all
  own : ∀ entry ∈ entries, ∀ item ∈ entry.items, place item = address entry.owner
  order : ∀ entry ∈ entries, entry.items.Sublist all

variable [DecidableEq Address] {address : Owner → Address} {place : Item → Address}
variable {owners : List Owner} {all : List Item}

private theorem filter_elsewhere {here there : Address} (apart : there ≠ here) :
    (all.filter fun item => !decide (place item = here)).filter (place · = there) =
      all.filter (place · = there) := by
  rw [List.filter_filter]
  refine List.filter_congr fun item _ => ?_
  by_cases found : place item = there
  · simp [found, apart]
  · simp [found]

/-- If no two owners have the same address, and every item is at the address of one, the items can be dealt
out to the owners. -/
private theorem perm_of_addresses (distinct : (owners.map address).Nodup)
    (placed : ∀ item ∈ all, place item ∈ owners.map address) :
    (owners.flatMap fun owner => all.filter (place · = address owner)).Perm all := by
  induction owners generalizing all with
  | nil =>
      have nothing : all = [] := List.eq_nil_iff_forall_not_mem.mpr fun item here =>
        nomatch placed item here
      rw [nothing]
      rfl
  | cons first rest ih =>
      obtain ⟨apart, distinct⟩ := List.nodup_cons.mp distinct
      let others := all.filter fun item => !decide (place item = address first)
      have placedToo : ∀ item ∈ others, place item ∈ rest.map address := by
        intro item left
        obtain ⟨inside, other⟩ := List.mem_filter.mp left
        exact (List.mem_cons.mp (placed item inside)).resolve_left (by simpa using other)
      have theirs : ∀ owner ∈ rest,
          all.filter (place · = address owner) = others.filter (place · = address owner) := by
        intro owner later
        refine (filter_elsewhere fun same => apart ?_).symm
        exact same ▸ List.mem_map_of_mem later
      rw [List.flatMap_cons, List.flatMap_def, List.map_congr_left theirs, ← List.flatMap_def]
      exact ((ih distinct placedToo).append_left _).trans (List.filter_append_perm _ all)

private theorem complete_of_addresses (distinct : (owners.map address).Nodup)
    (placed : ∀ item ∈ all, place item ∈ owners.map address) :
    Complete address place owners all
      (owners.map fun owner => ⟨owner, all.filter (place · = address owner)⟩) := by
  refine ⟨?_, ?_, ?_, ?_⟩
  · simp [List.map_map, Function.comp_def]
  · rw [List.flatMap_map]
    exact perm_of_addresses distinct placed
  · simp
  · simp

end Entry

/-- The owners of a broker with what is listed below each, and what stands above them all. -/
structure Listing where
  overview : Overview
  exchanges : List (Entry Exchange Binding)
  queues : List (Entry Queue Consumer)

def Listing.text (listing : Listing) : String :=
  String.join (listing.overview.lines ++
    "\nExchanges:\n" :: listing.exchanges.flatMap (Entry.lines Exchange.line Binding.line) ++
    "\nQueues:\n" :: listing.queues.flatMap (Entry.lines Queue.line Consumer.line))

/-! An address is a vhost and a name in it. -/

def Exchange.address (e : Exchange) : String × String :=
  (e.vhost, e.name)

def Queue.address (q : Queue) : String × String :=
  (q.vhost, q.name)

def Binding.origin (b : Binding) : String × String :=
  (b.vhost, b.source)

def Consumer.place (c : Consumer) : String × String :=
  (c.queue.vhost, c.queue.name)

namespace BrokerInfo

/-- The records fit together: no two exchanges and no two queues have the same address, and each is listed
that a binding leaves or a consumer is attached to. -/
structure Coherent (info : BrokerInfo) : Prop where
  exchanges : (info.exchanges.map Exchange.address).Nodup
  queues : (info.queues.map Queue.address).Nodup
  origins : ∀ b ∈ info.bindings, b.origin ∈ info.exchanges.map Exchange.address
  places : ∀ c ∈ info.consumers, c.place ∈ info.queues.map Queue.address

def listing (info : BrokerInfo) : Listing where
  overview := info.overview
  exchanges := info.exchanges.map fun e => ⟨e, info.bindingsFrom e.vhost e.name⟩
  queues := info.queues.map fun q => ⟨q, info.consumersOf q.vhost q.name⟩

variable (info : BrokerInfo)

private theorem bindingsFrom_eq (e : Exchange) :
    info.bindingsFrom e.vhost e.name = info.bindings.filter (·.origin = e.address) := by
  simp [bindingsFrom, Binding.origin, Exchange.address]

private theorem consumersOf_eq (q : Queue) :
    info.consumersOf q.vhost q.name = info.consumers.filter (·.place = q.address) := by
  simp [consumersOf, Consumer.place, Queue.address]

private theorem report_eq_text : info.report = info.listing.text := by
  rw [report, Listing.text, listing, List.flatMap_map, List.flatMap_map]
  rfl

variable {info}

/-- The report is a listing of all exchanges, of all queues, of every binding once below its exchange and of
every consumer once below its queue. -/
theorem report_lists_each_once (coherent : info.Coherent) :
    info.report = info.listing.text ∧
      Entry.Complete Exchange.address Binding.origin info.exchanges info.bindings
        info.listing.exchanges ∧
      Entry.Complete Queue.address Consumer.place info.queues info.consumers info.listing.queues := by
  refine ⟨info.report_eq_text, ?_, ?_⟩
  · have complete := Entry.complete_of_addresses coherent.exchanges coherent.origins
    simp only [← bindingsFrom_eq] at complete
    exact complete
  · have complete := Entry.complete_of_addresses coherent.queues coherent.places
    simp only [← consumersOf_eq] at complete
    exact complete

/-- Two vhosts have an exchange and a queue of the same names, and what belongs to the one stands between what
belongs to the other. -/
theorem report_lists_each_once_in_two_vhosts :
    let exchange (vhost name : String) : Exchange := ⟨name, vhost, "topic", false, false, false⟩
    let queue (vhost : String) : Queue := ⟨"jobs", vhost, false, false, true, some 3, none, none⟩
    let binding (vhost source key : String) : Binding := ⟨source, vhost, "jobs", "queue", key, .null⟩
    let consumer (tag vhost : String) : Consumer := ⟨tag, ⟨"jobs", vhost⟩, none, false, false, 0⟩
    let info : BrokerInfo :=
      { overview := ⟨none, some "rabbit", none, none, none, none⟩
        exchanges := [exchange "/" "orders", exchange "/" "", exchange "dev" "orders"]
        queues := [queue "/", queue "dev"]
        bindings := [binding "/" "orders" "a", binding "dev" "orders" "b", binding "/" "" "c",
          binding "/" "orders" "d"]
        consumers := [consumer "x" "dev", consumer "y" "/", consumer "z" "dev"] }
    info.Coherent ∧
      info.report = "Broker rabbit (RabbitMQ ?, Erlang ?)\n\nExchanges:\n" ++
        "  / orders (topic)\n      -> queue jobs [a]\n      -> queue jobs [d]\n" ++
        "  / (AMQP default) (topic)\n      -> queue jobs [c]\n" ++
        "  dev orders (topic)\n      -> queue jobs [b]\n\nQueues:\n" ++
        "  / jobs messages=3 consumers=? exclusive\n      consumer y on unknown connection\n" ++
        "  dev jobs messages=3 consumers=? exclusive\n      consumer x on unknown connection\n" ++
        "      consumer z on unknown connection\n" ∧
      info.report = info.listing.text ∧
      (info.listing.exchanges.flatMap Entry.items).map (·.routingKey) = ["a", "d", "c", "b"] ∧
      (info.listing.exchanges.flatMap Entry.items).Perm info.bindings ∧
      (info.listing.queues.flatMap Entry.items).map (·.tag) = ["y", "x", "z"] ∧
      (info.listing.queues.flatMap Entry.items).Perm info.consumers := by
  intro exchange queue binding consumer info
  have coherent : info.Coherent := by
    constructor <;> decide
  obtain ⟨text, bindings, consumers⟩ := report_lists_each_once coherent
  exact ⟨coherent, by decide +kernel, text, by decide, bindings.items, by decide, consumers.items⟩

end BrokerInfo

end ExchangeTap.Topology
