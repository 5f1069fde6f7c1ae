import ExchangeTap.CommandLine.Taps
import ExchangeTap.Proofs.Failing

namespace ExchangeTap.TapSpec

/-- There is no broker, one for all lists, or one for each. -/
def Counted (lists uris : List String) : Prop :=
  uris.length = 0 ∨ uris.length = 1 ∨ uris.length = lists.length

def broker? (uris : List String) (default : String) (index : Nat) : Option String :=
  match uris with
  | [] => some default
  | [uri] => some uri
  | uris => uris[index]?

/-- What a list of bindings asks to tap. -/
structure Tappable (list : String) (bindings : List Binding) : Prop where
  read : Binding.parseList list = .ok bindings
  named : ∀ b ∈ bindings, b.exchange ≠ ""

/-- What is wrong with a list: a piece that is no binding, or else the first exchange without a name. -/
inductive Offends (list : String) : TapSpecError → Prop where
  | malformed {error : TapError} (unread : Binding.parseList list = .error error) :
      Offends list (.invalidBinding error)
  | nameless {bindings : List Binding} {b : Binding} (read : Binding.parseList list = .ok bindings)
      (first : bindings.find? (·.exchange = "") = some b) : Offends list (.missingExchange b)

variable {list default : String} {lists uris : List String} {bindings : List Binding}
  {specs : List TapSpec} {error : TapSpecError}

theorem Tappable.parseBindings (tappable : Tappable list bindings) : parseBindings list = .ok bindings := by
  have none : bindings.find? (·.exchange = "") = none := by simpa using tappable.named
  simp only [TapSpec.parseBindings, tappable.read, none]

theorem Offends.parseBindings (offends : Offends list error) : parseBindings list = .error error := by
  cases offends with
  | malformed unread => simp only [TapSpec.parseBindings, unread]
  | nameless read first => simp only [TapSpec.parseBindings, read, first]

private theorem tappable_or_offends (list : String) :
    (∃ bindings, Tappable list bindings) ∨ ∃ error, Offends list error := by
  cases read : Binding.parseList list with
  | error error => exact .inr ⟨_, .malformed read⟩
  | ok bindings =>
      cases first : bindings.find? (·.exchange = "") with
      | none => exact .inl ⟨bindings, read, by simpa using first⟩
      | some b => exact .inr ⟨_, .nameless read first⟩

private theorem parseBindings_eq_ok_iff :
    TapSpec.parseBindings list = .ok bindings ↔ Tappable list bindings := by
  refine ⟨fun taken => ?_, Tappable.parseBindings⟩
  rcases tappable_or_offends list with ⟨others, tappable⟩ | ⟨error, offends⟩
  · cases taken.symm.trans tappable.parseBindings
    exact tappable
  · cases taken.symm.trans offends.parseBindings

private theorem parseBindings_eq_error_iff :
    TapSpec.parseBindings list = .error error ↔ Offends list error := by
  refine ⟨fun failed => ?_, Offends.parseBindings⟩
  rcases tappable_or_offends list with ⟨bindings, tappable⟩ | ⟨other, offends⟩
  · cases failed.symm.trans tappable.parseBindings
  · cases failed.symm.trans offends.parseBindings
    exact offends

private theorem mapM_parseBindings_eq_ok_iff {read : List (List Binding)} :
    lists.mapM TapSpec.parseBindings = .ok read ↔ List.Forall₂ Tappable lists read := by
  simp only [mapM_eq_ok_iff, parseBindings_eq_ok_iff]

private theorem brokers_of_counted (counted : Counted lists uris) (default : String) :
    ∃ all, brokers lists.length uris default = .ok all ∧ all.length = lists.length ∧
      ∀ index < lists.length, all[index]? = broker? uris default index := by
  match uris, counted with
  | [], _ => exact ⟨_, rfl, by simp, fun index here => by simp [broker?, here]⟩
  | [uri], _ => exact ⟨_, rfl, by simp, fun index here => by simp [broker?, here]⟩
  | first :: second :: rest, counted =>
      have same : (first :: second :: rest).length = lists.length := by
        rcases counted with none | one | same
        · cases none
        · cases one
        · exact same
      exact ⟨first :: second :: rest, if_pos same, same, fun _ _ => rfl⟩

private theorem brokers_of_not_counted (other : ¬Counted lists uris) (default : String) :
    brokers lists.length uris default = .error (.uriCount uris.length lists.length) := by
  unfold brokers
  split
  next => exact absurd (.inl rfl) other
  next => exact absurd (.inr (.inl rfl)) other
  next => exact if_neg fun same => other (.inr (.inr same))

private theorem pair_eq (same : uris.length = lists.length) :
    pair lists uris = (lists.mapM parseBindings).map (List.zipWith .mk uris) := by
  induction lists generalizing uris with
  | nil => cases uris <;> rfl
  | cons list lists ih =>
      cases uris with
      | nil => cases same
      | cons uri uris =>
          have others := ih (Nat.succ.inj same)
          cases first : parseBindings list with
          | error e => rw [pair, first, mapM_cons_of_error first]; rfl
          | ok bindings =>
              rw [mapM_cons_of_ok first, pair, first]
              dsimp only
              rw [others]
              cases lists.mapM parseBindings <;> rfl

private theorem ofArguments_of_not_counted (other : ¬Counted lists uris) (default : String) :
    ofArguments lists uris default = .error (.uriCount uris.length lists.length) := by
  rw [ofArguments, brokers_of_not_counted other]

private theorem ofArguments_of_counted (counted : Counted lists uris) (default : String) :
    ∃ all, all.length = lists.length ∧
      (∀ index < lists.length, all[index]? = broker? uris default index) ∧
      ofArguments lists uris default =
        (lists.mapM TapSpec.parseBindings).map (List.zipWith .mk all) := by
  obtain ⟨all, given, count, own⟩ := brokers_of_counted counted default
  refine ⟨all, count, own, ?_⟩
  rw [ofArguments, given]
  exact pair_eq count

private theorem ofArguments_eq_ok_iff :
    ofArguments lists uris default = .ok specs ↔
      Counted lists uris ∧ specs.length = lists.length ∧
        ∀ index (inLists : index < lists.length) (inSpecs : index < specs.length),
          Tappable lists[index] specs[index].bindings ∧
            broker? uris default index = some specs[index].uri := by
  by_cases counted : Counted lists uris
  case neg => simp [ofArguments_of_not_counted counted, counted]
  obtain ⟨all, count, own, taken⟩ := ofArguments_of_counted counted default
  simp only [taken, map_eq_ok_iff, mapM_parseBindings_eq_ok_iff, counted, true_and]
  constructor
  · rintro ⟨read, each, rfl⟩
    have same := each.length_eq
    refine ⟨by simp [count, same], fun index inLists inSpecs => ⟨?_, ?_⟩⟩
    · simpa using (List.forall₂_iff_get.mp each).2 index inLists (same ▸ inLists)
    · rw [← own index inLists]
      simp [count, inLists]
  · rintro ⟨same, each⟩
    refine ⟨specs.map (·.bindings), List.forall₂_iff_get.mpr ⟨by simp [same], ?_⟩, ?_⟩
    · intro index inLists inSpecs
      simpa using (each index inLists (by simpa using inSpecs)).1
    · refine List.ext_getElem (by simp [count, same]) fun index _ inSpecs => ?_
      have broker := (each index (same ▸ inSpecs) inSpecs).2
      rw [← own index (same ▸ inSpecs), List.getElem?_eq_some_iff] at broker
      obtain ⟨_, broker⟩ := broker
      simp [broker]

private theorem ofArguments_isOk_iff :
    (∃ specs, ofArguments lists uris default = .ok specs) ↔
      Counted lists uris ∧ ∀ list ∈ lists, ∃ bindings, Tappable list bindings := by
  by_cases counted : Counted lists uris
  · obtain ⟨all, -, -, taken⟩ := ofArguments_of_counted counted default
    have ok : (∃ specs, ofArguments lists uris default = .ok specs) ↔
        ∃ read, lists.mapM TapSpec.parseBindings = .ok read := by
      simp [taken, map_eq_ok_iff]
    simp only [ok, mapM_isOk_iff, parseBindings_eq_ok_iff, counted, true_and]
  · simp [ofArguments_of_not_counted counted, counted]

private theorem ofArguments_eq_error_iff :
    ofArguments lists uris default = .error error ↔
      ¬Counted lists uris ∧ error = .uriCount uris.length lists.length ∨
        Counted lists uris ∧ ∃ before list behind, lists = before ++ list :: behind ∧
          (∀ earlier ∈ before, ∃ bindings, Tappable earlier bindings) ∧ Offends list error := by
  by_cases counted : Counted lists uris
  · obtain ⟨all, -, -, taken⟩ := ofArguments_of_counted counted default
    simp only [taken, map_eq_error_iff, mapM_eq_error_iff, parseBindings_eq_ok_iff,
      parseBindings_eq_error_iff, counted, not_true, false_and, false_or, true_and]
  · simp [ofArguments_of_not_counted counted, counted, eq_comm]

/-- There is a tap for each list of bindings, in order, with the bindings that it lists and the broker that
goes with it, if the brokers are counted right and every list can be tapped. Else it is the count that is
complained of, or the first list that cannot be tapped. -/
theorem paired_with_their_brokers (lists uris : List String) (default : String) :
    ((∃ specs, ofArguments lists uris default = .ok specs) ↔
        Counted lists uris ∧ ∀ list ∈ lists, ∃ bindings, Tappable list bindings) ∧
      (∀ specs, ofArguments lists uris default = .ok specs ↔
        Counted lists uris ∧ specs.length = lists.length ∧
          ∀ index (inLists : index < lists.length) (inSpecs : index < specs.length),
            Tappable lists[index] specs[index].bindings ∧
              broker? uris default index = some specs[index].uri) ∧
      ∀ error, ofArguments lists uris default = .error error ↔
        ¬Counted lists uris ∧ error = .uriCount uris.length lists.length ∨
          Counted lists uris ∧ ∃ before list behind, lists = before ++ list :: behind ∧
            (∀ earlier ∈ before, ∃ bindings, Tappable earlier bindings) ∧ Offends list error :=
  ⟨ofArguments_isOk_iff, fun _ => ofArguments_eq_ok_iff, fun _ => ofArguments_eq_error_iff⟩

/-- Two lists with a broker each; and three with one broker, where the piece that is no binding stands behind
an exchange without a name, and a later list cannot be tapped either. -/
theorem paired_with_their_brokers_up_to_malformed_piece :
    let lists := ["a:1,b:2", "c:"]
    let uris := ["amqp://a", "amqp://b"]
    let specs : List TapSpec :=
      [⟨"amqp://a", [⟨"a", "1"⟩, ⟨"b", "2"⟩]⟩, ⟨"amqp://b", [⟨"c", ""⟩]⟩]
    ofArguments lists uris "amqp://c" = .ok specs ∧
      (Tappable lists[1] specs[1].bindings ∧ broker? uris "amqp://c" 1 = some specs[1].uri) ∧
      ofArguments ["a:1", ":k,broken", "x"] ["amqp://a"] "amqp://c" =
        .error (.invalidBinding (.invalidBinding "broken")) := by
  intro lists uris specs
  have taken : ofArguments lists uris "amqp://c" = .ok specs := by decide
  have paired := ((paired_with_their_brokers lists uris "amqp://c").2.1 specs).mp taken
  have first : Tappable "a:1" [⟨"a", "1"⟩] := ⟨by decide, by decide⟩
  have malformed : Offends ":k,broken" (.invalidBinding (.invalidBinding "broken")) := .malformed (by decide)
  refine ⟨taken, paired.2.2 1 (by decide) (by decide), ?_⟩
  refine ((paired_with_their_brokers _ _ _).2.2 _).mpr (.inr ⟨.inr (.inl rfl), ?_⟩)
  exact ⟨["a:1"], ":k,broken", ["x"], rfl, List.forall_mem_singleton.mpr ⟨_, first⟩, malformed⟩

end ExchangeTap.TapSpec
