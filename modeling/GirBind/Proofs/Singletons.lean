import GirBind.Proofs.MemberPlatforms

namespace GirBind

namespace Node

def HasSingletons (n : Node) : Prop :=
  ∀ kind : NodeKind, kind.isSingleton = true → (n.childrenOf kind).length ≤ 1

theorem mem_childrenOf_iff {m n : Node} {kind : NodeKind} :
    m ∈ n.childrenOf kind ↔ m ∈ n.children ∧ m.kind = kind := by
  rw [childrenOf, List.mem_filter, beq_iff_eq]

theorem hasSingletons_iff {n : Node} : n.HasSingletons ↔
    ∀ m ∈ n.children, m.kind.isSingleton = true → (n.childrenOf m.kind).length ≤ 1 := by
  constructor
  · intro h m _
    exact h m.kind
  · intro h kind hkind
    cases hl : n.childrenOf kind with
    | nil => exact Nat.zero_le 1
    | cons m ms =>
      have hm : m ∈ n.childrenOf kind := hl ▸ List.mem_cons_self
      obtain ⟨hchild, rfl⟩ := mem_childrenOf_iff.1 hm
      rw [← hl]
      exact h m hchild hkind

instance (n : Node) : Decidable n.HasSingletons := decidable_of_iff _ hasSingletons_iff.symm

/-- Where both elements have a child of a kind that occurs once, the two go by one name, or both by
none. -/
def SingletonsAgree (a b : Node) : Prop :=
  ∀ m ∈ a.children, ∀ n ∈ b.children, m.kind = n.kind → m.kind.isSingleton = true →
    m.name? = n.name?

instance (a b : Node) : Decidable (a.SingletonsAgree b) :=
  inferInstanceAs (Decidable (∀ m ∈ a.children, ∀ n ∈ b.children, m.kind = n.kind →
    m.kind.isSingleton = true → m.name? = n.name?))

theorem sameMember_iff_name?_eq {m n : Node} (hkind : m.kind = n.kind)
    (hsingle : m.kind.isSingleton = true) : sameMember m n = true ↔ m.name? = n.name? := by
  rw [sameMember_iff]
  constructor
  · intro h
    exact h.2.1
  · intro h
    exact ⟨hkind, h, fun _ => .inl hsingle⟩

theorem length_unite_le_one_iff {ms ns : List Node} (hms : ms.length ≤ 1) (hns : ns.length ≤ 1) :
    (unite ms ns).length ≤ 1 ↔ ∀ m ∈ ms, ∀ n ∈ ns, sameMember m n = true := by
  cases ns with
  | nil => simp only [unite, List.foldl_nil, hms, List.not_mem_nil, false_imp_iff, implies_true]
  | cons n ns =>
    obtain rfl : ns = [] :=
      List.eq_nil_of_length_eq_zero (Nat.le_zero.1 (Nat.le_of_succ_le_succ hns))
    cases ms with
    | nil => simp only [unite, List.foldl_cons, List.foldl_nil, absorb, List.length_singleton,
        Nat.le_refl, List.not_mem_nil, false_imp_iff, implies_true]
    | cons m ms =>
      obtain rfl : ms = [] :=
        List.eq_nil_of_length_eq_zero (Nat.le_zero.1 (Nat.le_of_succ_le_succ hms))
      rw [List.forall_mem_singleton, List.forall_mem_singleton]
      simp only [unite, List.foldl_cons, List.foldl_nil, absorb]
      split
      case isTrue h => simp only [List.length_singleton, Nat.le_refl, h]
      case isFalse h => simp [h]

theorem hasSingletons_mergeAs {a b : Node} (ha : a.HasSingletons) (hb : b.HasSingletons)
    (v : Variant) : (a.mergeAs v b).HasSingletons ↔ a.SingletonsAgree b := by
  have hkinds (kind : NodeKind) (hkind : kind.isSingleton = true) :
      ((a.mergeAs v b).childrenOf kind).length ≤ 1 ↔
        ∀ m ∈ a.childrenOf kind, ∀ n ∈ b.childrenOf kind, sameMember m n = true := by
    have hfield : kind ≠ .field := by
      intro h
      rw [h] at hkind
      cases hkind
    rw [childrenOf_mergeAs hfield]
    exact length_unite_le_one_iff (ha kind hkind) (hb kind hkind)
  constructor
  · intro h m hm n hn hkind hsingle
    have hall := (hkinds m.kind hsingle).1 (h m.kind hsingle)
    apply (sameMember_iff_name?_eq hkind hsingle).1
    apply hall m (mem_childrenOf_iff.2 ⟨hm, rfl⟩)
    exact mem_childrenOf_iff.2 ⟨hn, hkind.symm⟩
  · intro h kind hsingle
    apply (hkinds kind hsingle).2
    intro m hm n hn
    obtain ⟨hleft, rfl⟩ := mem_childrenOf_iff.1 hm
    obtain ⟨hright, hkind⟩ := mem_childrenOf_iff.1 hn
    apply (sameMember_iff_name?_eq hkind.symm hsingle).2
    exact h m hleft n hright hkind.symm hsingle

end Node

namespace RegisteredType

/-- The merge of two types has at most one child of each kind that occurs once, unless the two have
such children of different names. -/
theorem hasSingletons_merge {a b : RegisteredType} (hv : a.variant = b.variant)
    (ha : a.node.HasSingletons) (hb : b.node.HasSingletons) :
    ∃ t, a.merge b = .ok t ∧ (t.node.HasSingletons ↔ a.node.SingletonsAgree b.node) := by
  have hmerge := merge_toOption a b
  rw [if_pos hv, Attempt.toOption_eq_some_iff] at hmerge
  exact ⟨_, hmerge, Node.hasSingletons_mergeAs ha hb a.variant⟩

def handleOn (p : PlatformSet) (file target : String) : RegisteredType :=
  ⟨.aliasType, ⟨.aliasType, .ofList [("name", "Handle")],
    [⟨.sourcePosition, .ofList [("filename", file)], [], "", p, 3⟩,
      ⟨.type, .ofList [("name", target)], [], "", p, 4⟩], "", p, 2⟩⟩

theorem hasSingletons_of_handles : ∃ t,
    (handleOn .linuxOnly "unix.h" "gint").merge (handleOn .windowsOnly "win32.h" "gint") = .ok t ∧
      t.node.HasSingletons := by
  obtain ⟨t, ht, hiff⟩ := hasSingletons_merge (a := handleOn .linuxOnly "unix.h" "gint")
    (b := handleOn .windowsOnly "win32.h" "gint") rfl (by decide) (by decide)
  exact ⟨t, ht, hiff.2 (by decide)⟩

/-- An alias of different types on two platforms gets two targets. -/
theorem exists_second_target : ¬ ∀ a b t : RegisteredType, a.variant = b.variant →
    a.node.HasSingletons → b.node.HasSingletons → a.merge b = .ok t → t.node.HasSingletons := by
  intro hall
  have h := hall (handleOn .linuxOnly "unix.h" "gint") (handleOn .windowsOnly "win32.h" "gpointer")
    _ rfl (by decide) (by decide) rfl
  exact absurd h (by decide)

end RegisteredType
end GirBind
