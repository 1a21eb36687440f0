import GirBind.Proofs.Declarations
import GirBind.Proofs.Document

namespace GirBind

open PlatformSet (unionAll)

namespace Node

def isNamed (kind : NodeKind) (name : String) (n : Node) : Bool :=
  n.kind == kind && n.name? == some name

theorem filter_isNamed_childrenOf (kind : NodeKind) (name : String) (n : Node) :
    (n.childrenOf kind).filter (isNamed kind name) = n.children.filter (isNamed kind name) := by
  rw [childrenOf, List.filter_filter]
  apply List.filter_congr
  intro m _
  rw [isNamed, Bool.and_right_comm, Bool.and_self]

theorem filter_isNamed_flatMap_childrenOf (kind : NodeKind) (name : String) (ns : List Node) :
    (ns.flatMap (·.childrenOf kind)).filter (isNamed kind name) =
      (ns.flatMap children).filter (isNamed kind name) := by
  rw [List.filter_flatMap, List.filter_flatMap]
  apply List.flatMap_congr
  intro n _
  exact filter_isNamed_childrenOf kind name n

theorem sameMember_eq_isNamed {n : Node} {name : String} (h : n.name? = some name) (m : Node) :
    sameMember m n = isNamed n.kind name m := by
  rw [sameMember, isNamed, h]
  cases m.name? with
  | none => rfl
  | some a => rfl

theorem platforms_of_joinAll {first n : Node} {rest : List Node}
    (h : gathering.joinAll (first :: rest) = some n) :
    n.platforms = unionAll ((first :: rest).map platforms) := by
  induction rest generalizing first with
  | nil =>
    cases h
    exact (PlatformSet.union_empty _).symm
  | cons m rest ih =>
    have hnext : gathering.joinAll
        (first.withOwnPlatforms (first.platforms ∪ m.platforms) :: rest) = some n := h
    rw [ih hnext, List.map_cons, List.map_cons, List.map_cons, unionAll, unionAll, unionAll,
      ← PlatformSet.union_assoc]
    rfl

/-- A named member of a union is available wherever some description has it, if the first one does
not have it twice. -/
theorem platforms_of_mem_unite {first rest : List Node} {n : Node} {name : String}
    (hn : n ∈ unite first rest) (hname : n.name? = some name)
    (hone : first.countP (isNamed n.kind name) ≤ 1) :
    n.platforms = unionAll (((first ++ rest).filter (isNamed n.kind name)).map platforms) := by
  have hsame : (gathering.same · n) = isNamed n.kind name :=
    funext fun m => sameMember_eq_isNamed hname m
  rw [← hsame] at hone ⊢
  have hunion := addAll_eq_unite first rest
  have hfind := Gathering.find?_addAll hunion n
  rw [Gathering.find?_of_countP_le (Gathering.countP_addAll_le hunion n hone) hn,
    Gathering.toList_find? hone, ← List.filter_append] at hfind
  cases hl : (first ++ rest).filter (gathering.same · n) with
  | nil =>
    rw [hl] at hfind
    cases hfind
  | cons m ms =>
    rw [hl] at hfind
    exact platforms_of_joinAll hfind.symm

theorem exists_of_mem_unite {l : Node} {ms ns : List Node} (h : l ∈ unite ms ns) :
    ∃ m ∈ ms ++ ns, m.kind = l.kind ∧ m.name? = l.name? := by
  refine Gathering.forall_mem_addAll
    (P := fun l : Node => ∃ m ∈ ms ++ ns, m.kind = l.kind ∧ m.name? = l.name?) ?_ ?_ ?_
    (addAll_eq_unite ms ns) l h
  · intro x y z hz hx _
    cases hz
    exact hx
  · exact fun m hm => ⟨m, List.mem_append_left ns hm, rfl, rfl⟩
  · exact fun n hn => ⟨n, List.mem_append_right ms hn, rfl, rfl⟩

theorem exists_mem_unite {n : Node} {ms ns : List Node} (h : n ∈ ms ++ ns) :
    ∃ m ∈ unite ms ns, m.kind = n.kind ∧ m.name? = n.name? := by
  have hany := Gathering.any_same_addAll (addAll_eq_unite ms ns) n
  rw [← List.any_append] at hany
  have hsame : (ms ++ ns).any (gathering.same · n) = true :=
    List.any_eq_true.2 ⟨n, h, sameMember_refl n⟩
  obtain ⟨m, hm, hmn⟩ := List.any_eq_true.1 (hany.trans hsame)
  obtain ⟨hkind, hname, -⟩ := sameMember_iff.1 hmn
  exact ⟨m, hm, hkind, hname⟩

/-- Nothing inside an element is available where the element is not. -/
def Covers (n : Node) : Prop := ∀ m ∈ n.children, m.platforms ⊆ n.platforms

theorem unite_subset {p : PlatformSet} {ms ns : List Node} (hms : ∀ m ∈ ms, m.platforms ⊆ p)
    (hns : ∀ n ∈ ns, n.platforms ⊆ p) : ∀ m ∈ unite ms ns, m.platforms ⊆ p := by
  refine Gathering.forall_mem_addAll ?_ hms hns (addAll_eq_unite ms ns)
  intro x y z hz hx hy
  cases hz
  exact PlatformSet.union_subset hx hy

theorem Covers.merge {a b : Node} (ha : a.Covers) (hb : b.Covers) : (a.merge b).Covers :=
  unite_subset
    (fun m hm => PlatformSet.subset_trans (ha m hm) (PlatformSet.subset_union_left _ _))
    fun m hm => PlatformSet.subset_trans (hb m hm) (PlatformSet.subset_union_right _ _)

theorem Covers.withoutFields {n : Node} (h : n.Covers) : n.withoutFields.Covers :=
  fun m hm => h m (List.mem_of_mem_filter hm)

theorem mergeAs_cases (v : Variant) (a b : Node) :
    a.mergeAs v b = a.merge b ∨ a.mergeAs v b = (a.merge b).withoutFields := by
  rw [mergeAs, mergeRecord]
  split
  case isTrue =>
    split
    case isTrue => exact .inl rfl
    case isFalse => exact .inr rfl
  case isFalse => exact .inl rfl

theorem Covers.mergeAs {a b : Node} (ha : a.Covers) (hb : b.Covers) (v : Variant) :
    (a.mergeAs v b).Covers := by
  rcases mergeAs_cases v a b with h | h
  · rw [h]
    exact ha.merge hb
  · rw [h]
    exact (ha.merge hb).withoutFields

theorem IsOn.covers {p : PlatformSet} {n : Node} (h : n.IsOn p) : n.Covers := by
  obtain ⟨hn, hc⟩ := isOn_iff.1 h
  intro m hm
  rw [hn, (isOn_iff.1 (hc m hm)).1]
  exact PlatformSet.subset_refl p

/-- Whether fields are left out or not, all but the children is the same. -/
theorem mergeAs_eq (v : Variant) (a b : Node) : ∃ children,
    a.mergeAs v b = ⟨a.kind, a.attributes, children, a.text, a.platforms ∪ b.platforms, 0⟩ := by
  rcases mergeAs_cases v a b with h | h
  · exact ⟨_, h⟩
  · exact ⟨_, h⟩

theorem childrenOf_withoutFields {kind : NodeKind} (h : kind ≠ .field) (n : Node) :
    n.withoutFields.childrenOf kind = n.childrenOf kind := by
  rw [childrenOf, withoutFields, List.filter_filter]
  apply List.filter_congr
  intro m _
  cases hm : m.kind == kind with
  | false => rw [Bool.false_and]
  | true => rw [eq_of_beq hm, bne_iff_ne.2 h, Bool.and_self]

theorem childrenOf_mergeAs {kind : NodeKind} (hk : kind ≠ .field) (v : Variant) (a b : Node) :
    (a.mergeAs v b).childrenOf kind = unite (a.childrenOf kind) (b.childrenOf kind) := by
  rcases mergeAs_cases v a b with h | h
  · rw [h, childrenOf_merge]
  · rw [h, childrenOf_withoutFields hk, childrenOf_merge]

section

variable {v : Variant} {first : Node} {rest : List Node}

theorem Covers.foldl_mergeAs (hfirst : first.Covers) (hrest : ∀ n ∈ rest, n.Covers) :
    (rest.foldl (Node.mergeAs v) first).Covers := by
  induction rest generalizing first with
  | nil => exact hfirst
  | cons n rest ih =>
    obtain ⟨hn, hrest⟩ := List.forall_mem_cons.1 hrest
    exact ih (hfirst.mergeAs hn v) hrest

theorem foldl_mergeAs_eq (v : Variant) (first : Node) (rest : List Node) : ∃ children line,
    rest.foldl (mergeAs v) first = ⟨first.kind, first.attributes, children, first.text,
      unionAll ((first :: rest).map platforms), line⟩ := by
  induction rest generalizing first with
  | nil =>
    refine ⟨first.children, first.line, ?_⟩
    rw [List.map_singleton, unionAll, unionAll, PlatformSet.union_empty]
    cases first with
    | mk => rfl
  | cons n rest ih =>
    obtain ⟨_, hn⟩ := mergeAs_eq v first n
    obtain ⟨children, line, h⟩ := ih (first.mergeAs v n)
    refine ⟨children, line, ?_⟩
    rw [List.foldl_cons, h, hn]
    simp only [List.map_cons, unionAll, PlatformSet.union_assoc]

theorem childrenOf_foldl_mergeAs {kind : NodeKind} (h : kind ≠ .field) :
    (rest.foldl (mergeAs v) first).childrenOf kind =
      unite (first.childrenOf kind) (rest.flatMap (·.childrenOf kind)) := by
  induction rest generalizing first with
  | nil => rfl
  | cons n rest ih =>
    rw [List.foldl_cons, ih, childrenOf_mergeAs h, List.flatMap_cons, unite_append]

end

end Node
end GirBind
