import ExchangeTap.Worker.Tap

namespace ExchangeTap

namespace Tap

private theorem eq_of_last_dash {before before' after after' : List Char}
    (same : before ++ '-' :: after = before' ++ '-' :: after') (plain : '-' ∉ after)
    (plain' : '-' ∉ after') : before = before' ∧ after = after' := by
  rcases List.append_eq_append_iff.mp same with ⟨rest, left, right⟩ | ⟨rest, left, right⟩
  · cases rest with
    | nil => exact ⟨by simp [left], (List.cons.inj right).2⟩
    | cons dash rest =>
        refine absurd ?_ plain
        rw [(List.cons.inj right).2]
        simp
  · cases rest with
    | nil => exact ⟨by simp [left], (List.cons.inj right).2.symm⟩
    | cons dash rest =>
        refine absurd ?_ plain'
        rw [(List.cons.inj right).2]
        simp

private theorem toList_joined (front suffix : String) :
    (front ++ "-" ++ suffix).toList = front.toList ++ '-' :: suffix.toList := by
  simp

variable {front front' exchange exchange' suffix suffix' : String}

private theorem joined_inj (plain : '-' ∉ suffix.toList) (plain' : '-' ∉ suffix'.toList) :
    front ++ "-" ++ suffix = front' ++ "-" ++ suffix' ↔ front = front' ∧ suffix = suffix' := by
  constructor
  · intro same
    have chars := congrArg String.toList same
    rw [toList_joined, toList_joined] at chars
    obtain ⟨before, after⟩ := eq_of_last_dash chars plain plain'
    exact ⟨String.toList_inj.mp before, String.toList_inj.mp after⟩
  · rintro ⟨rfl, rfl⟩
    rfl

theorem exchangeName_inj (plain : '-' ∉ suffix.toList) (plain' : '-' ∉ suffix'.toList) :
    exchangeName exchange suffix = exchangeName exchange' suffix' ↔
      exchange = exchange' ∧ suffix = suffix' :=
  (joined_inj plain plain').trans (and_congr_left' (String.append_right_inj _))

/-! With dashes in suffixes, names would not do. -/

example : exchangeName "a" "b-c" = exchangeName "a-b" "c" := by decide

theorem queueName_inj (plain : '-' ∉ suffix.toList) (plain' : '-' ∉ suffix'.toList) :
    queueName exchange suffix = queueName exchange' suffix' ↔
      exchange = exchange' ∧ suffix = suffix' :=
  (joined_inj plain plain').trans (and_congr_left' (String.append_right_inj _))

private theorem begins_with_front (front exchange suffix : String) :
    front.toList <+: (front ++ exchange ++ "-" ++ suffix).toList := by
  rw [String.append_assoc, String.append_assoc, String.toList_append]
  exact List.prefix_append _ _

theorem exchangeName_ne_queueName (exchange suffix exchange' suffix' : String) :
    exchangeName exchange suffix ≠ queueName exchange' suffix' := by
  intro same
  have begins : "__tap-exchange-for-".toList <+: (exchangeName exchange suffix).toList :=
    begins_with_front _ _ _
  rw [same] at begins
  have either := List.prefix_or_prefix_of_prefix begins (begins_with_front _ _ _)
  exact absurd either (by decide)

/-- The suffixes are all different, and none has a dash in it. -/
structure Unlike (suffixes : List String) : Prop where
  distinct : suffixes.Nodup
  plain : ∀ suffix ∈ suffixes, '-' ∉ suffix.toList

theorem Unlike.sublist {fewer suffixes : List String} (unlike : Unlike suffixes)
    (sublist : fewer.Sublist suffixes) : Unlike fewer :=
  ⟨sublist.nodup unlike.distinct, fun suffix among => unlike.plain suffix (sublist.subset among)⟩

end Tap

/-- The name of the exchange or the queue that an operation is to create. -/
def Operation.declared? : Operation → Option String
  | declareExchange name | declareQueue name => some name
  | _ => none

namespace TapPlan

def names (plan : TapPlan) : List String :=
  plan.resources.filterMap (·.creation.declared?)

@[simp] theorem names_eq (plan : TapPlan) : plan.names = [plan.exchange, plan.queue] := rfl

private theorem suffix_of_names {plan other : TapPlan} (plain : '-' ∉ plan.suffix.toList)
    (plain' : '-' ∉ other.suffix.toList) {name : String} (own : name ∈ plan.names)
    (others : name ∈ other.names) : plan.suffix = other.suffix := by
  simp only [names_eq, List.mem_cons, List.not_mem_nil, or_false] at own others
  rcases own with rfl | rfl <;> rcases others with same | same
  · exact ((Tap.exchangeName_inj plain plain').mp same).2
  · exact absurd same (Tap.exchangeName_ne_queueName _ _ _ _)
  · exact absurd same.symm (Tap.exchangeName_ne_queueName _ _ _ _)
  · exact ((Tap.queueName_inj plain plain').mp same).2

theorem nodup_names {plans : List TapPlan} (unlike : Tap.Unlike (plans.map (·.suffix))) :
    (plans.flatMap names).Nodup := by
  refine List.pairwise_flatMap.mpr ⟨fun plan _ => ?_, ?_⟩
  · have apart : plan.exchange ≠ plan.queue := Tap.exchangeName_ne_queueName _ _ _ _
    simp [apart]
  · refine (List.pairwise_map.mp unlike.distinct).imp_of_mem fun first second apart => ?_
    rintro name own _ others rfl
    exact apart (suffix_of_names (unlike.plain _ (List.mem_map_of_mem first))
      (unlike.plain _ (List.mem_map_of_mem second)) own others)

end TapPlan

end ExchangeTap
