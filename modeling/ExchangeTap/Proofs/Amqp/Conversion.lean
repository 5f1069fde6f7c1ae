import ExchangeTap.Amqp.Properties
import ExchangeTap.Proofs.Json.Nodes
import ExchangeTap.Proofs.Number.Finite
import ExchangeTap.Proofs.Text.Keyed
import ExchangeTap.Proofs.Text.Utf8

namespace ExchangeTap

namespace AmqpValue

open Json (FitsSigned Representable nodes itemNodes memberNodes)

variable {n : Int} {x : Binary64}

theorem itemsToJson_eq_map (items : List AmqpValue) : itemsToJson items = items.map toJson := by
  induction items with
  | nil => rfl
  | cons item rest ih => rw [itemsToJson, ih, List.map_cons]

theorem entriesToJson_eq_map (entries : List (String × AmqpValue)) :
    entriesToJson entries = entries.map fun entry => (entry.1, entry.2.toJson) := by
  induction entries with
  | nil => rfl
  | cons entry rest ih => rw [entriesToJson, ih, List.map_cons]

theorem ofItems_eq_map (items : List Json) : ofItems items = items.map ofJson := by
  induction items with
  | nil => rfl
  | cons item rest ih => rw [ofItems, ih, List.map_cons]

theorem ofMembers_eq_map (members : List (String × Json)) :
    ofMembers members = members.map fun member => (member.1, ofJson member.2) := by
  induction members with
  | nil => rfl
  | cons member rest ih => rw [ofMembers, ih, List.map_cons]

private theorem jsonOfDouble_of_finite (finite : x.isFinite = true) : jsonOfDouble x = .number (.float x) :=
  if_pos finite

theorem ofNumber_of_fits (fits : FitsSigned n) : ofNumber (.integer n) = int64 n :=
  if_pos fits

theorem ofNumber_of_large (large : 2 ^ 63 ≤ n) :
    ofNumber (.integer n) = double (.ofNat n.natAbs) := by
  have misfit : ¬(-(2 ^ 63) ≤ n ∧ n < 2 ^ 63) := by omega
  have positive : ¬n < 0 := by omega
  simp only [ofNumber, if_neg misfit, if_neg positive]

mutual

private theorem toJson_ofJson : ∀ (value : Json), Representable value.nodes →
    (∀ n, .number (.integer n) ∈ value.nodes → FitsSigned n) → (ofJson value).toJson = value
  | .null, _, _ => rfl
  | .boolean _, _, _ => rfl
  | .text value, _, _ => congrArg Json.text (Utf8.lossy_encode value)
  | .number (.integer n), _, fits => by
      rw [ofJson, ofNumber_of_fits (fits n (by simp)), toJson, Json.integer]
  | .number (.float x), representable, _ => by
      rw [ofJson, ofNumber, toJson,
        jsonOfDouble_of_finite (representable.floats x (by simp))]
  | .list items, representable, fits => by
      rw [ofJson, toJson, itemsToJson_ofItems items (representable.mono (by simp))
        fun n here => fits n (by simp [here])]
  | .object members, representable, fits => by
      rw [ofJson, toJson, entriesToJson_ofMembers members (representable.mono (by simp))
        fun n here => fits n (by simp [here])]

private theorem itemsToJson_ofItems : ∀ (items : List Json), Representable (itemNodes items) →
    (∀ n, .number (.integer n) ∈ itemNodes items → FitsSigned n) →
      itemsToJson (ofItems items) = items
  | [], _, _ => rfl
  | item :: rest, representable, fits => by
      rw [ofItems, itemsToJson,
        toJson_ofJson item (representable.mono (by simp))
          fun n here => fits n (by simp [here]),
        itemsToJson_ofItems rest (representable.mono (by simp))
          fun n here => fits n (by simp [here])]

private theorem entriesToJson_ofMembers : ∀ (members : List (String × Json)),
    Representable (memberNodes members) →
      (∀ n, .number (.integer n) ∈ memberNodes members → FitsSigned n) →
        entriesToJson (ofMembers members) = members
  | [], _, _ => rfl
  | (name, value) :: rest, representable, fits => by
      rw [ofMembers, entriesToJson,
        toJson_ofJson value (representable.mono (by simp))
          fun n here => fits n (by simp [here]),
        entriesToJson_ofMembers rest (representable.mono (by simp))
          fun n here => fits n (by simp [here])]

end

private theorem ofNumber_settles (representable : Representable [.number (.integer n)]) :
    ofJson (ofNumber (.integer n)).toJson = ofNumber (.integer n) := by
  obtain ⟨least, most⟩ := representable.integers n (by simp)
  by_cases fits : FitsSigned n
  · rw [ofNumber_of_fits fits]
    exact ofNumber_of_fits fits
  · have large : 2 ^ 63 ≤ n := by
      unfold FitsSigned at fits
      omega
    have finite : (Binary64.ofNat n.natAbs).isFinite = true := Binary64.isFinite_ofNat (by omega)
    rw [ofNumber_of_large large, toJson, jsonOfDouble_of_finite finite]
    rfl

mutual

private theorem ofJson_settles : ∀ (value : Json), Representable value.nodes →
    ofJson (ofJson value).toJson = ofJson value
  | .null, _ => rfl
  | .boolean _, _ => rfl
  | .text value, _ => congrArg (fun text => longText (Utf8.encode text)) (Utf8.lossy_encode value)
  | .number (.integer n), representable => ofNumber_settles representable
  | .number (.float x), representable => by
      have finite := representable.floats x (by simp)
      rw [ofJson, ofNumber, toJson, jsonOfDouble_of_finite finite]
      rfl
  | .list items, representable => by
      rw [ofJson, toJson, ofJson, ofItems_settles items (representable.mono (by simp))]
  | .object members, representable => by
      rw [ofJson, toJson, ofJson, ofMembers_settles members (representable.mono (by simp))]

private theorem ofItems_settles : ∀ (items : List Json), Representable (itemNodes items) →
    ofItems (itemsToJson (ofItems items)) = ofItems items
  | [], _ => rfl
  | item :: rest, representable => by
      rw [ofItems, itemsToJson, ofItems,
        ofJson_settles item (representable.mono (by simp)),
        ofItems_settles rest (representable.mono (by simp))]

private theorem ofMembers_settles : ∀ (members : List (String × Json)),
    Representable (memberNodes members) →
      ofMembers (entriesToJson (ofMembers members)) = ofMembers members
  | [], _ => rfl
  | (name, value) :: rest, representable => by
      rw [ofMembers, entriesToJson, ofMembers,
        ofJson_settles value (representable.mono (by simp)),
        ofMembers_settles rest (representable.mono (by simp))]

end

end AmqpValue

namespace AmqpProperties

open Json (FitsSigned Representable memberNodes)

variable {p : Properties}

private theorem toProperties_ofProperties (p : Properties) : (ofProperties p).toProperties =
    { p with headers := AmqpValue.entriesToJson (AmqpValue.ofMembers p.headers) } := by
  cases headers : p.headers with
  | nil => simp [toProperties, ofProperties, headers, AmqpValue.ofMembers, AmqpValue.entriesToJson]
  | cons member rest => simp [toProperties, ofProperties, headers]

/-- Properties come back from the wire as they were if the integers in their headers have 64 bits with a
sign. In any case the conversion changes them no further the second time. -/
theorem conversion_settles (p : Properties) (representable : Representable (memberNodes p.headers)) :
    ((∀ n, .number (.integer n) ∈ memberNodes p.headers → FitsSigned n) →
        (ofProperties p).toProperties = p) ∧
      ofProperties (ofProperties p).toProperties = ofProperties p := by
  rw [toProperties_ofProperties]
  constructor
  · intro fits
    rw [AmqpValue.entriesToJson_ofMembers p.headers representable fits]
  · have same := AmqpValue.ofMembers_settles p.headers representable
    have unsent : (AmqpValue.entriesToJson (AmqpValue.ofMembers p.headers)).isEmpty =
        p.headers.isEmpty := by
      rw [AmqpValue.entriesToJson_eq_map, AmqpValue.ofMembers_eq_map]
      simp
    simp only [ofProperties, same, unsent]

theorem conversion_settles_at_limits :
    let p : Properties := { Properties.empty with
      headers := [("limits", .list [.integer (2 ^ 63 - 1), .integer (-(2 ^ 63)), .null]),
        ("table", .object [("empty", .object []), ("text", .text "\x00é")])] }
    (ofProperties p).toProperties = p ∧
      ofProperties (ofProperties p).toProperties = ofProperties p := by
  intro p
  have representable : Representable (memberNodes p.headers) := by
    refine ⟨?_, ?_, fun members here => ?_⟩
    · simp [p, Json.integer]
    · simp [p, Json.integer]
    · have either : members = [("empty", .object []), ("text", .text "\x00é")] ∨ members = [] := by
        simpa [p, Json.integer] using here
      rcases either with rfl | rfl <;> decide
  obtain ⟨back, settled⟩ := conversion_settles p representable
  refine ⟨back fun n here => ?_, settled⟩
  have either : n = 2 ^ 63 - 1 ∨ n = -(2 ^ 63) := by
    simpa [p, Json.integer] using here
  rcases either with rfl | rfl <;> decide

end AmqpProperties

end ExchangeTap
