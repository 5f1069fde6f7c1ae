import ExchangeTap.Message.Saved
import ExchangeTap.Proofs.Json.Coding
import ExchangeTap.Proofs.Json.Nodes
import ExchangeTap.Proofs.Text.Base64
import ExchangeTap.Proofs.Time.Reading

namespace ExchangeTap

open Json

namespace Properties

section Unset

variable {value : Option α} {codec : Codec α}

private theorem carries_unset {result : Option α}
    (reads : ∀ known ∈ value, ∃ read ∈ result, codec.Reads known read)
    (present : ∀ known, codec.write known ≠ .null) (absent : value = none → result = none) :
    unset.Carries (.optional codec) value result := by
  cases value with
  | none =>
      cases absent rfl
      exact rfl
  | some known =>
      obtain ⟨read, rfl, back⟩ := reads known rfl
      exact back.some (present known)

private theorem carries_text (value : Option String) : unset.Carries (.optional .text) value value :=
  carries_unset (fun known here => ⟨known, here, Codec.reads_text known⟩) (fun _ => nofun) id

private theorem carries_natural {bound : Nat} {value : Option Nat} (small : ∀ n ∈ value, n < bound)
    (words : bound ≤ 2 ^ 64) : unset.Carries (.optional (.natural bound)) value value :=
  carries_unset (fun n here => ⟨n, here, Codec.reads_natural (small n here) words⟩) (fun _ => nofun) id

end Unset

/-- What properties can hold, and no floating-point number among the headers. -/
structure Exact (p : Properties) : Prop where
  deliveryMode : ∀ n ∈ p.deliveryMode, n < 256
  priority : ∀ n ∈ p.priority, n < 256
  timestamp : ∀ n ∈ p.timestamp, n < 2 ^ 64
  headers : Representable (Json.object p.headers).nodes
  floatless : ∀ x, .number (.float x) ∉ (Json.object p.headers).nodes

variable {p : Properties}

private theorem Exact.carries_headers (exact : p.Exact) :
    Presence.Carries (.omitted [] List.isEmpty) .members p.headers p.headers := by
  cases stated : p.headers with
  | nil => exact rfl
  | cons first rest =>
      -- The headers are an object of their own, sorted as the objects inside of them are.
      have headers := exact.headers
      have floatless := exact.floatless
      rw [stated] at headers floatless
      exact Codec.reads_members (headers.objects _ (by simp))
        (fun inner here => headers.objects inner (List.mem_cons_of_mem _ here))
        ((headers.exact floatless).mono (by simp))

theorem Exact.reads (exact : p.Exact) : codec.Reads p p := by
  unfold codec
  refine Codec.Reads.convert (Fields.Carry.record (by decide) ?_) rfl
  exact ⟨carries_text _, carries_text _, carries_natural exact.deliveryMode (by decide),
    carries_natural exact.priority (by decide), carries_text _, carries_text _, carries_text _,
    carries_text _, carries_natural exact.timestamp (by decide), carries_text _, carries_text _,
    carries_text _, exact.carries_headers, trivial⟩

end Properties

namespace SavedMessage

/-- How a message is read: its time as it is told. -/
def settled (m : SavedMessage) : SavedMessage :=
  { m with receivedAt := m.receivedAt.map Instant.settled }

theorem reads {m : SavedMessage} (told : ∀ t ∈ m.receivedAt, t.Told) (exact : m.properties.Exact) :
    codec.Reads m m.settled := by
  have receivedAt : Properties.unset.Carries (.optional instant) m.receivedAt
      (m.receivedAt.map Instant.settled) :=
    Properties.carries_unset
      (fun t here => ⟨t.settled, by rw [here]; rfl, Codec.reads_spelled (told t here).read_write⟩)
      (fun _ => nofun) fun absent => by rw [absent]; rfl
  refine Codec.Reads.convert (Fields.Carry.record (by decide) ?_) rfl
  exact ⟨Codec.reads_text _, Codec.reads_text _, Codec.reads_boolean _, receivedAt, exact.reads,
    Codec.reads_text _, trivial⟩

theorem settled_eq_iff {m : SavedMessage} (told : ∀ t ∈ m.receivedAt, t.Told) :
    m.settled = m ↔ ∀ t ∈ m.receivedAt, t.Valid := by
  obtain ⟨exchange, routingKey, redelivered, receivedAt, properties, body⟩ := m
  cases receivedAt with
  | none => simp [settled]
  | some t =>
      have alike : t.settled = t ↔ t.Valid := (told t rfl).settled_eq_iff
      simpa [settled] using alike

/-- A saved message is read as it was written, whether it was written on one line or indented, but for a leap
second inside of a minute: that is read as the second behind it. -/
theorem reads_back_from_either_form {m : SavedMessage} (told : ∀ t ∈ m.receivedAt, t.Told)
    (exact : m.properties.Exact) (nested : (codec.write m).depth ≤ depthLimit) :
    codec.decode (codec.encode m) = .ok m.settled ∧ codec.decode (codec.encodePretty m) = .ok m.settled ∧
      (m.settled = m ↔ ∀ t ∈ m.receivedAt, t.Valid) :=
  have reads : codec.Reads m m.settled := reads told exact
  ⟨reads.decode_encode nested, reads.decode_encodePretty nested, settled_eq_iff told⟩

/-- The last moment of the year before year 0 is a leap second; the headers hold the greatest integer, and a
list in which an object is empty. -/
theorem reads_back_from_either_form_before_year_zero :
    let m : SavedMessage := ⟨"", "a\n", true, some ⟨-62167219201, 1000000007⟩,
      { Properties.empty with
        timestamp := some (2 ^ 64 - 1)
        headers := [("limit", .integer (2 ^ 64 - 1)), ("ü", .list [.object [], .text "\\"])] },
      "AP8="⟩
    (∀ t ∈ m.receivedAt, t.Told) ∧ m.properties.Exact ∧ (codec.write m).depth ≤ depthLimit ∧
      codec.decode (codec.encode m) = .ok m ∧ codec.decode (codec.encodePretty m) = .ok m := by
  intro m
  have exact : m.properties.Exact := by
    refine ⟨nofun, nofun, by simp [m], ⟨fun n here => ?_, ?_, fun members here => ?_⟩, ?_⟩
    · have greatest : n = 2 ^ 64 - 1 := by
        simpa [m, integer] using here
      subst greatest
      decide
    · simp [m, integer]
    · have either : members = m.properties.headers ∨ members = [] := by
        simpa [m, integer] using here
      rcases either with rfl | rfl <;> decide
    · simp [m, integer]
  have valid : ∀ t ∈ m.receivedAt, t.Valid := by
    rintro t ⟨⟩
    decide
  have told : ∀ t ∈ m.receivedAt, t.Told := fun t here => (valid t here).told
  have nested : (codec.write m).depth ≤ depthLimit := by decide
  obtain ⟨compact, pretty, settled⟩ := reads_back_from_either_form told exact nested
  rw [settled.mpr valid] at compact pretty
  exact ⟨told, exact, nested, compact, pretty⟩

/-- A list in a list, and so on; the innermost is in this many, and holds nothing but null. -/
def nest (levels : Nat) : Json :=
  Nat.repeat (fun inner => .list [inner]) levels .null

private theorem mem_nodes_nest {levels : Nat} {node : Json} (here : node ∈ (nest levels).nodes) :
    node = .null ∨ ∃ items, node = .list items := by
  induction levels with
  | zero => exact .inl (List.mem_singleton.mp here)
  | succ levels ih =>
      have either : node = .list [nest levels] ∨ node ∈ (nest levels).nodes := by
        simpa [nest, Nat.repeat] using here
      exact either.elim (fun same => .inr ⟨_, same⟩) ih

private theorem exact_nest (levels : Nat) :
    Properties.Exact { Properties.empty with headers := [("h", nest levels)] } := by
  have inside {node : Json} (here : node ∈ (Json.object [("h", nest levels)]).nodes) :
      node = .object [("h", nest levels)] ∨ node = .null ∨ ∃ items, node = .list items := by
    have either : node = .object [("h", nest levels)] ∨ node ∈ (nest levels).nodes := by
      simpa using here
    exact either.imp_right mem_nodes_nest
  refine ⟨nofun, nofun, nofun, ⟨fun n here => ?_, fun x here => ?_, fun members here => ?_⟩, fun x here => ?_⟩
  · simpa using inside here
  · simpa using inside here
  · have same : members = [("h", nest levels)] := by simpa using inside here
    exact same ▸ List.pairwise_singleton _ _
  · simpa using inside here

/-- A leap second behind the first second of a minute is read as the next second; and a header that nests as
deep as JSON is read makes a message that nests too deep. -/
theorem not_read_back_from_either_form :
    let inside : SavedMessage := ⟨"", "", false, some ⟨0, 1500000000⟩, .empty, ""⟩
    let nesting : SavedMessage :=
      ⟨"", "", false, none, { Properties.empty with headers := [("h", nest depthLimit)] }, ""⟩
    (∀ t ∈ inside.receivedAt, t.Told) ∧ inside.properties.Exact ∧
      (codec.write inside).depth ≤ depthLimit ∧
      codec.decode (codec.encode inside) = .ok { inside with receivedAt := some ⟨1, 500000000⟩ } ∧
      nesting.properties.Exact ∧ (nest depthLimit).depth ≤ depthLimit ∧
      (codec.decode (codec.encode nesting)).isOk = false := by
  intro inside nesting
  have told : ∀ t ∈ inside.receivedAt, t.Told := by
    rintro t ⟨⟩
    exact ⟨by decide, by decide, by decide⟩
  have exact : inside.properties.Exact :=
    ⟨nofun, nofun, nofun, ⟨by simp [inside, Properties.empty],
      by simp [inside, Properties.empty],
      by simp [inside, Properties.empty, Keyed.Sorted]⟩,
      by simp [inside, Properties.empty]⟩
  have shallow : (codec.write inside).depth ≤ depthLimit := by decide
  refine ⟨told, exact, shallow, (reads told exact).decode_encode shallow, exact_nest _, by decide +kernel, ?_⟩
  rw [Codec.decode, Codec.encode, compact, String.toList_ofList]
  decide +kernel

@[simp] theorem toOutbound_settled (m : SavedMessage) (exchange routingKey : Option String) :
    m.settled.toOutbound exchange routingKey = m.toOutbound exchange routingKey := rfl

end SavedMessage

end ExchangeTap
