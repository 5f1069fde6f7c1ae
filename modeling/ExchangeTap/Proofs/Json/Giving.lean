import ExchangeTap.Proofs.Json.Accepting
import ExchangeTap.Proofs.Json.Integers
import ExchangeTap.Proofs.Json.Reading

/-! What can be read from a text at all: numbers keep their bounds, and free-form JSON is ordered
and nests no deeper than there was room for. -/

namespace ExchangeTap.Json

variable {α β : Type} {room : Nat}

/-- What free-form JSON is read as: integers have 64 bits, members are in the order of their names, and there
was room for the nesting. -/
structure Given (room : Nat) (value : Json) : Prop where
  integers : ∀ n, .number (.integer n) ∈ value.nodes → IsWord n
  objects : ∀ members, .object members ∈ value.nodes → Keyed.Sorted members
  shallow : value.depth ≤ room

theorem Given.representable {value : Json} (given : Given room value)
    (floatless : ∀ x, .number (.float x) ∉ value.nodes) : Representable value.nodes :=
  ⟨given.integers, fun x here => absurd here (floatless x), given.objects⟩

theorem given_of_alone {value : Json} (alone : value.nodes = [value]) (flat : value.depth = 0)
    (words : ∀ n, .number (.integer n) = value → IsWord n)
    (closed : ∀ members, .object members ≠ value) : Given room value where
  integers n here := words n (List.mem_singleton.mp (alone ▸ here))
  objects members here := absurd (List.mem_singleton.mp (alone ▸ here)) (closed members)
  shallow := flat ▸ Nat.zero_le room

private theorem given_list {values : List Json} (each : ∀ value ∈ values, Given room value) :
    Given (room + 1) (.list values) where
  integers n here := by
    obtain ⟨value, among, here⟩ := mem_itemNodes.mp (by simpa using here)
    exact (each value among).integers n here
  objects members here := by
    obtain ⟨value, among, here⟩ := mem_itemNodes.mp (by simpa using here)
    exact (each value among).objects members here
  shallow := Nat.succ_le_succ (itemDepth_le_iff.mpr fun value among => (each value among).shallow)

private theorem given_object {members : List (String × Json)} (sorted : Keyed.Sorted members)
    (each : ∀ member ∈ members, Given room member.2) : Given (room + 1) (.object members) where
  integers n here := by
    obtain ⟨member, among, here⟩ := mem_memberNodes.mp (by simpa using here)
    exact (each member among).integers n here
  objects inner here := by
    rcases List.mem_cons.mp here with same | here
    · cases same
      exact sorted
    · obtain ⟨member, among, here⟩ := mem_memberNodes.mp here
      exact (each member among).objects inner here
  shallow := Nat.succ_le_succ (memberDepth_le_iff.mpr fun member among => (each member among).shallow)

namespace Tree

theorem Sized.item {items : List Tree} {ending : Option Defect} (sized : (list items ending).Sized) :
    ∀ item ∈ items, item.Sized := by
  intro item among n here
  refine sized n ?_
  rw [integers, itemIntegers_eq]
  exact List.mem_flatMap.mpr ⟨item, among, here⟩

theorem Sized.member {members : List (Option String × Tree)} {ending : Option Defect}
    (sized : (object members ending).Sized) : ∀ member ∈ members, member.2.Sized := by
  intro member among n here
  refine sized n ?_
  rw [integers, memberIntegers_eq]
  exact List.mem_flatMap.mpr ⟨member, among, here⟩

mutual

private theorem given_of_toJson : ∀ (tree : Tree) (room : Nat) {value : Json}, tree.Sized →
    tree.toJson room = .ok value → Given room value
  | .null, _, _, _, rfl => given_of_alone rfl rfl (fun _ => nofun) fun _ => nofun
  | .boolean _, _, _, _, rfl => given_of_alone rfl rfl (fun _ => nofun) fun _ => nofun
  | .text (some _), _, _, _, rfl => given_of_alone rfl rfl (fun _ => nofun) fun _ => nofun
  | .number (some given), _, _, sized, rfl =>
      given_of_alone rfl rfl (fun n same => by cases same; exact sized n (by simp [integers]))
        fun _ => nofun
  | .list items ending, room + 1, _, sized, read => by
      obtain ⟨values, inner, rfl⟩ := map_eq_ok_iff.mp read
      exact given_list (given_of_itemsToJson items room sized.item inner)
  | .object members ending, room + 1, _, sized, read => by
      obtain ⟨values, inner, rfl⟩ := map_eq_ok_iff.mp read
      obtain ⟨sorted, each⟩ := given_of_membersToJson members room sized.member .nil nofun inner
      exact given_object sorted each

private theorem given_of_itemsToJson :
    ∀ (items : List Tree) (room : Nat) {ending : Option Defect}
      {values : List Json}, (∀ item ∈ items, item.Sized) → itemsToJson room items ending = .ok values →
      ∀ value ∈ values, Given room value
  | [], _, _, _, _, read => by
      obtain ⟨-, rfl⟩ := closed_map_eq_ok_iff.mp read
      nofun
  | item :: rest, room, _, _, sized, read => by
      obtain ⟨first, others⟩ := List.forall_mem_cons.mp sized
      obtain ⟨value, values, given, later, rfl⟩ := itemsToJson_cons_eq_ok_iff.mp read
      exact List.forall_mem_cons.mpr ⟨given_of_toJson item room first given,
        given_of_itemsToJson rest room others later⟩

private theorem given_of_membersToJson :
    ∀ (members : List (Option String × Tree)) (room : Nat)
      {ending : Option Defect} {before values : List (String × Json)},
    (∀ member ∈ members, member.2.Sized) → Keyed.Sorted before →
      (∀ member ∈ before, Given room member.2) → membersToJson room before members ending = .ok values →
        Keyed.Sorted values ∧ ∀ member ∈ values, Given room member.2
  | [], _, _, _, _, _, sorted, each, read => by
      obtain ⟨-, rfl⟩ := closed_map_eq_ok_iff.mp read
      exact ⟨sorted, each⟩
  | (key, tree) :: rest, room, _, _, _, sized, sorted, each, read => by
      obtain ⟨first, others⟩ := List.forall_mem_cons.mp sized
      obtain ⟨name, value, -, given, later⟩ := membersToJson_cons_eq_ok_iff.mp read
      refine given_of_membersToJson rest room others sorted.insert (fun member here => ?_) later
      rcases Keyed.eq_or_mem_of_mem_insert here with rfl | here
      · exact given_of_toJson tree room first given
      · exact each member here

end

end Tree

namespace Codec

variable {c : Codec α} {value : α}

/-- The value is read from some tree in which all integers have 64 bits, as they have in any text's. -/
def Gives (c : Codec α) (room : Nat) (value : α) : Prop :=
  ∃ tree : Tree, tree.Sized ∧ c.read room tree = .ok value

theorem gives_of_decode {text : String} (read : c.decode text = .ok value) : c.Gives depthLimit value :=
  ⟨(Tree.ofText text.toList).1, Tree.sized_ofText text.toList, (read_of_decodeChars read).1⟩

theorem Gives.lt_of_natural {bound n : Nat} (gives : (natural bound).Gives room n) : n < bound := by
  obtain ⟨tree, -, read⟩ := gives
  simp only [natural] at read
  split at read
  next =>
    split at read <;> cases read
    omega
  next tree _ => cases tree <;> cases read

theorem Gives.given {value : Json} (gives : any.Gives room value) : Given room value := by
  obtain ⟨tree, sized, read⟩ := gives
  exact Tree.given_of_toJson tree room sized read

theorem Gives.of_some (gives : (optional c).Gives room (some value)) : c.Gives room value := by
  obtain ⟨tree, sized, read⟩ := gives
  refine ⟨tree, sized, ?_⟩
  cases tree with
  | null => cases read
  | _ =>
      obtain ⟨_, read, same⟩ := map_eq_ok_iff.mp read
      cases same
      exact read

private theorem gives_of_readItems {ending : Option Defect} {items : List Tree} {values : List α}
    (sized : ∀ item ∈ items, item.Sized) (read : c.readItems room ending items = .ok values) :
      ∀ value ∈ values, c.Gives room value := by
  induction items generalizing values with
  | nil =>
      obtain ⟨-, rfl⟩ := Tree.closed_map_eq_ok_iff.mp read
      nofun
  | cons item rest ih =>
      obtain ⟨first, others⟩ := List.forall_mem_cons.mp sized
      obtain ⟨value, values, given, later, rfl⟩ := readItems_cons_eq_ok_iff.mp read
      exact List.forall_mem_cons.mpr ⟨⟨item, first, given⟩, ih others later⟩

theorem Gives.list {values : List α} (gives : (list c).Gives room values) :
    ∀ value ∈ values, c.Gives (room - 1) value := by
  obtain ⟨tree, sized, read⟩ := gives
  cases tree with
  | list items ending =>
      cases room with
      | zero => cases read
      | succ room => exact gives_of_readItems sized.item read
  | _ => cases room <;> cases read

end Codec

namespace Presence

def Gives (presence : Presence α) (codec : Codec α) (room : Nat) (value : α) : Prop :=
  codec.Gives room value ∨ presence.default? = some value

variable {c : Codec α}

theorem Gives.of_required {value : α} (gives : required.Gives c room value) : c.Gives room value :=
  gives.resolve_right nofun

theorem Gives.of_optional {value : Option α} (gives : (defaulted none).Gives (.optional c) room value) :
    ∀ known ∈ value, c.Gives room known := by
  rintro known rfl
  rcases gives with read | standard
  · exact read.of_some
  · cases standard

theorem Gives.lt_of_count {bound n : Nat} (positive : 0 < bound)
    (gives : (defaulted 0).Gives (.natural bound) room n) : n < bound := by
  rcases gives with read | standard
  · exact read.lt_of_natural
  · cases standard
    exact positive

end Presence

namespace Fields

def Gives : {α σ : Type} → Fields α σ → Nat → α → Prop
  | _, _, .done, _, _ => True
  | _, _, .field _ codec presence rest, room, (value, more) =>
    presence.Gives codec room value ∧ rest.Gives room more

def Holds : {α σ : Type} → Fields α σ → Nat → σ → Prop
  | _, _, .done, _, _ => True
  | _, _, .field _ codec _ rest, room, (slot, more) =>
    (∀ value ∈ slot, codec.Gives room value) ∧ rest.Holds room more

private theorem holds_empty :
    ∀ {α σ : Type} (fields : Fields α σ) (room : Nat), fields.Holds room fields.empty
  | _, _, .done, _ => trivial
  | _, _, .field _ _ _ rest, room => ⟨nofun, holds_empty rest room⟩

private theorem holds_put :
    ∀ {α σ : Type} (fields : Fields α σ) {name : String} {room : Nat} {tree : Tree}
      {slots filled : σ}, tree.Sized → fields.Holds room slots →
      fields.put name room tree slots = some (.ok filled) → fields.Holds room filled
  | _, _, .done, _, _, _, _, _, _, _, put => nomatch put
  | _, _, .field own codec presence rest, name, room, tree, (slot, more), _, sized, holds, filled => by
      obtain ⟨first, others⟩ := holds
      rcases put_field_eq_ok_iff.mp filled with ⟨-, -, value, read, rfl⟩ | ⟨-, inner, later, rfl⟩
      · refine ⟨fun known here => ?_, others⟩
        cases here
        exact ⟨tree, sized, read⟩
      · exact ⟨first, holds_put rest sized others later⟩

private theorem holds_readMembers {σ : Type} (fields : Fields α σ) {ending : Option Defect}
    {members : List (Option String × Tree)} {slots filled : σ} (sized : ∀ member ∈ members, member.2.Sized)
    (holds : fields.Holds room slots) (read : fields.readMembers room ending slots members = .ok filled) :
      fields.Holds room filled := by
  induction members generalizing slots with
  | nil =>
      obtain ⟨-, rfl⟩ := Tree.closed_map_eq_ok_iff.mp read
      exact holds
  | cons member rest ih =>
      obtain ⟨first, others⟩ := List.forall_mem_cons.mp sized
      obtain ⟨key, tree⟩ := member
      obtain ⟨name, -, ⟨next, put, later⟩ | ⟨-, -, later⟩⟩ := readMembers_cons_eq_ok_iff.mp read
      · exact ih others (holds_put fields first holds put) later
      · exact ih others holds later

private theorem gives_complete : ∀ {α σ : Type} (fields : Fields α σ) {room : Nat} {slots : σ} {value : α},
    fields.Holds room slots → fields.complete slots = .ok value → fields.Gives room value
  | _, _, .done, _, _, _, _, _ => trivial
  | _, _, .field name codec presence rest, room, (slot, more), _, holds, completed => by
      obtain ⟨first, others⟩ := holds
      obtain ⟨value, inner, chosen, later, rfl⟩ := complete_field_eq_ok_iff.mp completed
      refine ⟨?_, gives_complete rest others later⟩
      cases slot with
      | some known =>
          cases chosen
          exact .inl (first _ rfl)
      | none => exact .inr chosen

private theorem gives_readPositions :
    ∀ {α σ : Type} (fields : Fields α σ) {room : Nat} {ending : Option Defect}
    {items : List Tree} {value : α}, (∀ item ∈ items, item.Sized) →
      fields.readPositions room ending items = .ok value → fields.Gives room value
  | _, _, .done, _, _, _, _, _, _ => trivial
  | _, _, .field name codec presence rest, room, ending, item :: items, _, sized, read => by
      obtain ⟨first, others⟩ := List.forall_mem_cons.mp sized
      obtain ⟨value, more, given, later, rfl⟩ := readPositions_cons_eq_ok_iff.mp read
      exact ⟨.inl ⟨item, first, given⟩, gives_readPositions rest others later⟩
  | _, _, .field name codec presence rest, room, ending, [], _, sized, read => by
      obtain ⟨-, value, more, standard, later, rfl⟩ := readPositions_nil_eq_ok_iff.mp read
      exact ⟨.inr standard, gives_readPositions rest (List.forall_mem_nil _) later⟩

end Fields

theorem Codec.Gives.record {σ : Type} {fields : Fields α σ} {make : α → β} {parts : β → α} {whole : β}
    (gives : (fields.codec.convert make parts).Gives room whole) :
      ∃ value, fields.Gives (room - 1) value ∧ make value = whole := by
  obtain ⟨tree, sized, read⟩ := gives
  obtain ⟨value, inner, made⟩ := map_eq_ok_iff.mp read
  refine ⟨value, ?_, made⟩
  cases room with
  | zero => cases tree <;> cases inner
  | succ room =>
      cases tree with
      | object members ending =>
          obtain ⟨slots, filled, completed⟩ := Fields.read_object_eq_ok_iff.mp inner
          have holds := fields.holds_readMembers sized.member (fields.holds_empty room) filled
          exact fields.gives_complete holds completed
      | list items ending => exact fields.gives_readPositions sized.item inner
      | _ => cases inner

end ExchangeTap.Json
