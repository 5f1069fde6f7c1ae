import ExchangeTap.Proofs.Json.Giving
import ExchangeTap.Proofs.Json.Keeping
import ExchangeTap.Topology.Codec
import ExchangeTap.Topology.Resource

/-! For each record, `Fits` says which of its values there are, `keeps` that these are read back,
and `fits_of_gives` that no others are read from any text. -/

namespace ExchangeTap.Topology

open Json

section Optional

variable {levels : Nat}

private theorem keeps_optionalText (value : Option String) : (Codec.optional .text).Keeps levels value :=
  Codec.keeps_optional (fun known _ => Codec.keeps_text known) fun _ => nofun

private theorem keeps_optionalNatural {bound : Nat} {value : Option Nat} (small : ∀ n ∈ value, n < bound)
    (words : bound ≤ 2 ^ 64) : (Codec.optional (.natural bound)).Keeps levels value :=
  Codec.keeps_optional (fun n here => Codec.keeps_natural (small n here) words) fun _ => nofun

end Optional

variable {room levels : Nat}

structure ObjectTotals.Fits (t : ObjectTotals) : Prop where
  connections : t.connections < 2 ^ 64
  channels : t.channels < 2 ^ 64
  exchanges : t.exchanges < 2 ^ 64
  queues : t.queues < 2 ^ 64
  consumers : t.consumers < 2 ^ 64

theorem ObjectTotals.Fits.keeps {t : ObjectTotals} (fits : t.Fits) : codec.Keeps (levels + 1) t := by
  refine Codec.Keeps.record (by decide) rfl ?_
  exact ⟨Codec.keeps_natural fits.connections (Nat.le_refl _),
    Codec.keeps_natural fits.channels (Nat.le_refl _), Codec.keeps_natural fits.exchanges (Nat.le_refl _),
    Codec.keeps_natural fits.queues (Nat.le_refl _), Codec.keeps_natural fits.consumers (Nat.le_refl _),
    trivial⟩

private theorem ObjectTotals.fits_of_gives {t : ObjectTotals} (gives : codec.Gives room t) : t.Fits := by
  obtain ⟨_, ⟨connections, channels, exchanges, queues, consumers, -⟩, rfl⟩ := gives.record
  exact ⟨connections.lt_of_count (by decide), channels.lt_of_count (by decide),
    exchanges.lt_of_count (by decide), queues.lt_of_count (by decide), consumers.lt_of_count (by decide)⟩

def Overview.Fits (o : Overview) : Prop :=
  ∀ t ∈ o.objectTotals, t.Fits

theorem Overview.Fits.keeps {o : Overview} (fits : o.Fits) : codec.Keeps (levels + 2) o := by
  refine Codec.Keeps.record (by decide) rfl ?_
  exact ⟨keeps_optionalText _, keeps_optionalText _, keeps_optionalText _, keeps_optionalText _,
    keeps_optionalText _, Codec.keeps_optional (fun t here => (fits t here).keeps) fun _ => nofun, trivial⟩

private theorem Overview.fits_of_gives {o : Overview} (gives : codec.Gives room o) : o.Fits := by
  obtain ⟨_, ⟨-, -, -, -, -, totals, -⟩, rfl⟩ := gives.record
  exact fun t here => ObjectTotals.fits_of_gives (totals.of_optional t here)

theorem Exchange.keeps (e : Exchange) : codec.Keeps (levels + 1) e := by
  refine Codec.Keeps.record (by decide) rfl ?_
  exact ⟨Codec.keeps_text _, Codec.keeps_text _, Codec.keeps_text _, Codec.keeps_boolean _,
    Codec.keeps_boolean _, Codec.keeps_boolean _, trivial⟩

structure Queue.Fits (q : Queue) : Prop where
  messages : ∀ n ∈ q.messages, n < 2 ^ 64
  consumers : ∀ n ∈ q.consumers, n < 2 ^ 64

theorem Queue.Fits.keeps {q : Queue} (fits : q.Fits) : codec.Keeps (levels + 1) q := by
  refine Codec.Keeps.record (by decide) rfl ?_
  exact ⟨Codec.keeps_text _, Codec.keeps_text _, Codec.keeps_boolean _, Codec.keeps_boolean _,
    Codec.keeps_boolean _, keeps_optionalNatural fits.messages (Nat.le_refl _),
    keeps_optionalNatural fits.consumers (Nat.le_refl _), keeps_optionalText _, trivial⟩

private theorem Queue.fits_of_gives {q : Queue} (gives : codec.Gives room q) : q.Fits := by
  obtain ⟨_, ⟨-, -, -, -, -, messages, consumers, -⟩, rfl⟩ := gives.record
  exact ⟨fun n here => (messages.of_optional n here).lt_of_natural,
    fun n here => (consumers.of_optional n here).lt_of_natural⟩

/-- The arguments stand inside of the binding, the list of bindings and the whole, which take three levels. -/
structure Binding.Fits (b : Binding) : Prop where
  arguments : Representable b.arguments.nodes
  nested : b.arguments.depth + 3 ≤ depthLimit

theorem Binding.keeps {b : Binding} (arguments : Representable b.arguments.nodes)
    (floatless : ∀ x, .number (.float x) ∉ b.arguments.nodes) (shallow : b.arguments.depth ≤ levels) :
      codec.Keeps (levels + 1) b := by
  refine Codec.Keeps.record (by decide) rfl ?_
  exact ⟨Codec.keeps_text _, Codec.keeps_text _, Codec.keeps_text _, Codec.keeps_text _,
    Codec.keeps_text _, Codec.keeps_any arguments floatless shallow, trivial⟩

private theorem Binding.given_arguments {b : Binding} (gives : codec.Gives room b) :
    Given (room - 1) b.arguments := by
  obtain ⟨⟨_, _, _, _, _, arguments, _⟩, ⟨-, -, -, -, -, read | standard, -⟩, rfl⟩ := gives.record
  · exact read.given
  · cases standard
    exact given_of_alone rfl rfl (fun _ => nofun) fun _ => nofun

def ChannelDetails.Fits (d : ChannelDetails) : Prop :=
  ∀ port ∈ d.peerPort, port < 2 ^ 16

theorem ChannelDetails.Fits.keeps {d : ChannelDetails} (fits : d.Fits) : codec.Keeps (levels + 1) d := by
  refine Codec.Keeps.record (by decide) rfl ?_
  exact ⟨keeps_optionalText _, keeps_optionalText _, keeps_optionalText _,
    keeps_optionalNatural fits (by decide), trivial⟩

private theorem ChannelDetails.fits_of_gives {d : ChannelDetails} (gives : codec.Gives room d) : d.Fits := by
  obtain ⟨_, ⟨-, -, -, port, -⟩, rfl⟩ := gives.record
  exact fun n here => (port.of_optional n here).lt_of_natural

theorem QueueRef.keeps (q : QueueRef) : codec.Keeps (levels + 1) q := by
  refine Codec.Keeps.record (by decide) rfl ?_
  exact ⟨Codec.keeps_text _, Codec.keeps_text _, trivial⟩

structure Consumer.Fits (c : Consumer) : Prop where
  channelDetails : ∀ d ∈ c.channelDetails, d.Fits
  prefetchCount : c.prefetchCount < 2 ^ 64

theorem Consumer.Fits.keeps {c : Consumer} (fits : c.Fits) : codec.Keeps (levels + 2) c := by
  refine Codec.Keeps.record (by decide) rfl ?_
  exact ⟨Codec.keeps_text _, c.queue.keeps,
    Codec.keeps_optional (fun d here => (fits.channelDetails d here).keeps) fun _ => nofun,
    Codec.keeps_boolean _, Codec.keeps_boolean _, Codec.keeps_natural fits.prefetchCount (Nat.le_refl _),
    trivial⟩

private theorem Consumer.fits_of_gives {c : Consumer} (gives : codec.Gives room c) : c.Fits := by
  obtain ⟨_, ⟨-, -, details, -, -, count, -⟩, rfl⟩ := gives.record
  exact ⟨fun d here => ChannelDetails.fits_of_gives (details.of_optional d here),
    count.lt_of_count (by decide)⟩

/-- An answer that holds what is written for the records is read as these records. -/
theorem Resource.read_written {resource : Resource} {records : resource.Records} {response : Response}
    (keeps : resource.codec.Keeps depthLimit records) (success : response.isSuccess)
    (body : response.body = Utf8.encode (resource.codec.encode records)) :
    resource.read (.ok response) = .ok records := by
  simp only [Resource.read, success, if_true, body, Codec.decodeBytes_encode, keeps.reads_back.1]

namespace BrokerInfo

/-- Counters have 64 bits, ports 16, and there is room for the record around the arguments of its bindings. -/
structure Fits (info : BrokerInfo) : Prop where
  overview : info.overview.Fits
  queues : ∀ q ∈ info.queues, q.Fits
  bindings : ∀ b ∈ info.bindings, b.Fits
  consumers : ∀ c ∈ info.consumers, c.Fits

/-- No argument of a binding holds a floating-point number, at any depth. -/
def Floatless (info : BrokerInfo) : Prop :=
  ∀ b ∈ info.bindings, ∀ x, .number (.float x) ∉ b.arguments.nodes

variable {info : BrokerInfo}

theorem Fits.keeps (fits : info.Fits) (floatless : info.Floatless) : codec.Keeps depthLimit info := by
  refine Codec.Keeps.record (by decide) rfl ?_
  -- of the 127 levels the record takes one, and the list of its bindings another
  have bindings : ∀ b ∈ info.bindings, Binding.codec.Keeps 125 b := fun b here =>
    Binding.keeps (fits.bindings b here).arguments (floatless b here)
      (Nat.le_of_add_le_add_right (fits.bindings b here).nested)
  exact ⟨fits.overview.keeps, Codec.keeps_list fun e _ => e.keeps,
    Codec.keeps_list fun q here => (fits.queues q here).keeps, Codec.keeps_list bindings,
    Codec.keeps_list fun c here => (fits.consumers c here).keeps, trivial⟩

private theorem fits_of_gives (gives : codec.Gives depthLimit info) (floatless : info.Floatless) :
    info.Fits := by
  obtain ⟨_, ⟨overview, -, queues, bindings, consumers, -⟩, rfl⟩ := gives.record
  refine ⟨Overview.fits_of_gives overview.of_required,
    fun q here => Queue.fits_of_gives (queues.of_required.list q here), fun b here => ?_,
    fun c here => Consumer.fits_of_gives (consumers.of_required.list c here)⟩
  have given := Binding.given_arguments (bindings.of_required.list b here)
  exact ⟨given.representable (floatless b here), Nat.add_le_add_right given.shallow 3⟩

/-- A record is read back from what is written for it, and so is whatever record a text is read as: the text
may have unknown fields, leave out others, or have lists of fields in the place of objects. -/
theorem reads_back_and_settles :
    (∀ info : BrokerInfo, info.Fits → info.Floatless →
      codec.decode (codec.encode info) = .ok info ∧ codec.decode (codec.encodePretty info) = .ok info) ∧
    ∀ (text : String) (info : BrokerInfo), codec.decode text = .ok info → info.Floatless →
      codec.decode (codec.encode info) = .ok info ∧ codec.decode (codec.encodePretty info) = .ok info := by
  refine ⟨fun info fits floatless => (fits.keeps floatless).reads_back, fun text info read floatless => ?_⟩
  have fits : info.Fits := fits_of_gives (Codec.gives_of_decode read) floatless
  exact (fits.keeps floatless).reads_back

/-- In the text some records are lists of their fields, fields are missing, the queue has one that is not
known, and an argument is given twice; the other record has the same bindings and the greatest counters. -/
theorem reads_back_and_settles_with_fields_by_position :
    let text := "\x7b\"queues\":[\x7b\"vhost\":\"/\",\"idle\":1,\"name\":\"q\"\x7d],\"overview\":[]," ++
      "\"exchanges\":[],\"bindings\":[[\"e\",\"/\",\"q\",\"queue\"],\x7b\"source\":\"\",\"vhost\":\"/\"," ++
      "\"arguments\":\x7b\"b\":0,\"a\":[\x7b\x7d,-9223372036854775808],\"b\":18446744073709551615\x7d," ++
      "\"destination\":\"f\",\"destination_type\":\"queue\"\x7d],\"consumers\":[[\"t\",[\"q\",\"/\"]," ++
      "\x7b\"peer_port\":65535\x7d]]\x7d"
    let told : BrokerInfo :=
      { overview := ⟨none, none, none, none, none, none⟩
        exchanges := []
        queues := [⟨"q", "/", false, false, false, none, none, none⟩]
        bindings := [⟨"e", "/", "q", "queue", "", .null⟩, ⟨"", "/", "f", "queue", "",
          .object [("a", .list [.object [], .integer (-2 ^ 63)]), ("b", .integer (2 ^ 64 - 1))]⟩]
        consumers := [⟨"t", ⟨"q", "/"⟩, some ⟨none, none, none, some 65535⟩, false, false, 0⟩] }
    let greatest := 2 ^ 64 - 1
    let full : BrokerInfo :=
      { told with
        overview := ⟨some "\"ü\n", none, some "", none, none,
          some ⟨greatest, greatest, greatest, greatest, greatest⟩⟩
        queues := [⟨"", "\\", true, false, true, some greatest, none, some "idle"⟩]
        consumers := [⟨"t", ⟨"", "\\"⟩, none, true, true, greatest⟩] }
    (codec.decode (codec.encode full) = .ok full ∧ codec.decode (codec.encodePretty full) = .ok full) ∧
      codec.decode text = .ok told ∧
        codec.decode (codec.encode told) = .ok told ∧ codec.decode (codec.encodePretty told) = .ok told := by
  intro text told greatest full
  have read : codec.decode text = .ok told := by
    rw [Codec.decode]
    simp only [text, String.toList_append, String.reduceToList]
    rfl
  have floatless : told.Floatless := by
    simp [told, Floatless, integer]
  have bindings : ∀ b ∈ told.bindings, b.Fits :=
    (fits_of_gives (Codec.gives_of_decode read) floatless).bindings
  have fits : full.Fits := by
    refine ⟨?_, ?_, bindings, ?_⟩
    · rintro t ⟨⟩
      constructor <;> decide
    · refine List.forall_mem_singleton.mpr ⟨?_, nofun⟩
      rintro n ⟨⟩
      decide
    · exact List.forall_mem_singleton.mpr ⟨nofun, by decide⟩
  exact ⟨reads_back_and_settles.1 full fits floatless, read,
    reads_back_and_settles.2 text told read floatless⟩

end BrokerInfo

end ExchangeTap.Topology
