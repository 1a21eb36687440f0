import GirBind.Proofs.Members

namespace GirBind

namespace Node

def mergeAs (v : Variant) (a b : Node) : Node :=
  if v = .record then a.mergeRecord b else a.merge b

theorem merge_assoc (a b c : Node) : (a.merge b).merge c = a.merge (b.merge c) := by
  simp only [merge, unite_assoc, PlatformSet.union_assoc]

theorem sameFields_comm (a b : Node) : sameFields a b = sameFields b a := sameShapes_comm _ _

theorem sameFields_congr {a b : Node} (h : sameFields a b = true) (c : Node) :
    sameFields a c = sameFields b c :=
  sameShapes_congr h _

theorem childrenOf_merge (a b : Node) (kind : NodeKind) :
    (a.merge b).childrenOf kind = unite (a.childrenOf kind) (b.childrenOf kind) :=
  filter_unite (· == kind) a.children b.children

theorem sameFields_merge {a b : Node} (h : sameFields a b = true) (c : Node) :
    sameFields (a.merge b) c = sameFields a c := by
  refine sameFields_congr ?_ c
  rw [sameFields, childrenOf_merge]
  exact unite_sameShapes h

theorem fields_withoutFields (n : Node) : n.withoutFields.childrenOf .field = [] := by
  rw [childrenOf, withoutFields, List.filter_filter]
  apply List.filter_eq_nil_iff.2
  intro m _
  simp only [Bool.and_eq_true, bne_iff_ne, beq_iff_eq, ne_eq, and_not_self, not_false_eq_true]

theorem withoutFields_eq_self {n : Node} (h : n.childrenOf .field = []) : n.withoutFields = n := by
  have hall := List.filter_eq_nil_iff.1 h
  have hc : n.children.filter (·.kind != .field) = n.children :=
    List.filter_eq_self.2 fun m hm => by rw [bne, Bool.eq_false_iff.2 (hall m hm), Bool.not_false]
  cases n
  rw [withoutFields, hc]

theorem withoutFields_merge (a b : Node) :
    (a.merge b).withoutFields = a.withoutFields.merge b.withoutFields := by
  simp only [withoutFields, merge, filter_unite (· != .field)]

theorem withoutFields_withoutFields (n : Node) : n.withoutFields.withoutFields = n.withoutFields :=
  withoutFields_eq_self n.fields_withoutFields

theorem mergeRecord_of_no_fields {a b : Node}
    (h : a.childrenOf .field = [] ∨ b.childrenOf .field = []) :
    a.mergeRecord b = (a.merge b).withoutFields := by
  rw [mergeRecord]
  split
  case isTrue hs =>
    have hnone : a.childrenOf .field = [] ∧ b.childrenOf .field = [] := by
      rcases h with ha | hb
      · rw [sameFields, ha, sameShapes_nil_left] at hs
        exact ⟨ha, hs⟩
      · rw [sameFields_comm, sameFields, hb, sameShapes_nil_left] at hs
        exact ⟨hs, hb⟩
    refine (withoutFields_eq_self ?_).symm
    rw [childrenOf_merge, hnone.1, hnone.2]
    rfl
  case isFalse => rfl

theorem withoutFields_mergeRecord (a b : Node) :
    (a.mergeRecord b).withoutFields = (a.merge b).withoutFields := by
  rw [mergeRecord]
  split
  case isTrue => rfl
  case isFalse => rw [withoutFields_withoutFields]

theorem mergeRecord_withoutFields_left (a b : Node) :
    a.withoutFields.mergeRecord b = (a.merge b).withoutFields := by
  rw [mergeRecord_of_no_fields (.inl a.fields_withoutFields), withoutFields_merge,
    withoutFields_merge, withoutFields_withoutFields]

theorem mergeRecord_withoutFields_right (a b : Node) :
    a.mergeRecord b.withoutFields = (a.merge b).withoutFields := by
  rw [mergeRecord_of_no_fields (.inr b.fields_withoutFields), withoutFields_merge,
    withoutFields_merge, withoutFields_withoutFields]

theorem mergeRecord_of_sameFields {a b : Node} (h : sameFields a b = true) :
    a.mergeRecord b = a.merge b := if_pos h

theorem mergeRecord_of_differ {a b : Node} (h : sameFields a b = false) :
    a.mergeRecord b = (a.merge b).withoutFields := by
  rw [mergeRecord, h, if_neg Bool.false_ne_true]

/-- Fields that have been left out on the way do not come back, whichever way that was. -/
theorem mergeRecord_assoc (a b c : Node) :
    (a.mergeRecord b).mergeRecord c = a.mergeRecord (b.mergeRecord c) := by
  cases hab : sameFields a b with
  | true =>
    have hac : sameFields a c = sameFields b c := sameFields_congr hab c
    rw [mergeRecord_of_sameFields hab]
    cases hbc : sameFields b c with
    | true =>
      have hleft : sameFields (a.merge b) c = true := by rw [sameFields_merge hab, hac, hbc]
      have hright : sameFields a (b.merge c) = true := by
        rw [sameFields_comm, sameFields_merge hbc, sameFields_comm, hab]
      rw [mergeRecord_of_sameFields hleft, mergeRecord_of_sameFields hbc,
        mergeRecord_of_sameFields hright, merge_assoc]
    | false =>
      have hleft : sameFields (a.merge b) c = false := by rw [sameFields_merge hab, hac, hbc]
      rw [mergeRecord_of_differ hleft, mergeRecord_of_differ hbc,
        mergeRecord_withoutFields_right, merge_assoc]
  | false =>
    rw [mergeRecord_of_differ hab, mergeRecord_withoutFields_left, merge_assoc]
    cases hbc : sameFields b c with
    | true =>
      have hright : sameFields a (b.merge c) = false := by
        rw [sameFields_comm, sameFields_merge hbc, sameFields_comm, hab]
      rw [mergeRecord_of_sameFields hbc, mergeRecord_of_differ hright]
    | false => rw [mergeRecord_of_differ hbc, mergeRecord_withoutFields_right]

theorem mergeAs_assoc (v : Variant) (a b c : Node) :
    (a.mergeAs v b).mergeAs v c = a.mergeAs v (b.mergeAs v c) := by
  unfold mergeAs
  split
  case isTrue => exact mergeRecord_assoc a b c
  case isFalse => exact merge_assoc a b c

end Node

namespace RegisteredType

theorem merge_toOption (a b : RegisteredType) : (a.merge b).toOption =
    if a.variant = b.variant then some ⟨a.variant, a.node.mergeAs a.variant b.node⟩ else none := by
  rw [merge]
  split
  case isTrue => rfl
  case isFalse => rfl

theorem merge_toOption_assoc (a b c : RegisteredType) :
    ((a.merge b).toOption.bind fun t => (t.merge c).toOption) =
      (b.merge c).toOption.bind fun t => (a.merge t).toOption := by
  simp only [merge_toOption]
  by_cases hab : a.variant = b.variant
  · rw [if_pos hab, Option.bind_some]
    by_cases hbc : b.variant = c.variant
    · rw [if_pos hbc, Option.bind_some, if_pos (hab.trans hbc), if_pos hab, ← hab,
        Node.mergeAs_assoc]
    · rw [if_neg hbc, Option.bind_none, if_neg fun hac => hbc (hab.symm.trans hac)]
  · rw [if_neg hab, Option.bind_none]
    by_cases hbc : b.variant = c.variant
    · rw [if_pos hbc, Option.bind_some, if_neg hab]
    · rw [if_neg hbc, Option.bind_none]

end RegisteredType
end GirBind
