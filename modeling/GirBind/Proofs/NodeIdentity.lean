import GirBind.Node.Identity
import GirBind.Proofs.OrderedMap

namespace GirBind.Node

mutual

@[elab_as_elim]
theorem children_induction {motive : Node → Prop}
    (step : ∀ n : Node, (∀ m ∈ n.children, motive m) → motive n) : ∀ n : Node, motive n
  | ⟨_, _, children, _, _, _⟩ => step _ (all_children_induction step children)

theorem all_children_induction {motive : Node → Prop}
    (step : ∀ n : Node, (∀ m ∈ n.children, motive m) → motive n) :
    ∀ ns : List Node, ∀ m ∈ ns, motive m
  | [] => fun _ h => absurd h List.not_mem_nil
  | n :: ns => List.forall_mem_cons.2
    ⟨children_induction step n, all_children_induction step ns⟩

end

/-- Elements of the same shape agree in everything but platforms, lines and the order of
attributes. -/
theorem sameShape_iff {m n : Node} : sameShape m n = true ↔
    m.kind = n.kind ∧ m.attributes.entries.Perm n.attributes.entries ∧ m.text = n.text ∧
      sameShapes m.children n.children = true := by
  cases m
  cases n
  simp only [sameShape, Bool.and_eq_true, beq_iff_eq, OrderedMap.sameEntries_iff_perm, and_assoc]

theorem sameShapes_cons {m n : Node} {ms ns : List Node} :
    sameShapes (m :: ms) (n :: ns) = true ↔
      sameShape m n = true ∧ sameShapes ms ns = true := by
  rw [sameShapes, Bool.and_eq_true]

mutual

theorem sameShape_refl : ∀ n : Node, sameShape n n = true
  | ⟨_, _, children, _, _, _⟩ =>
    sameShape_iff.2 ⟨rfl, .refl _, rfl, sameShapes_refl children⟩

theorem sameShapes_refl : ∀ ns : List Node, sameShapes ns ns = true
  | [] => by rw [sameShapes]
  | n :: ns => sameShapes_cons.2 ⟨sameShape_refl n, sameShapes_refl ns⟩

end

mutual

theorem sameShape_symm : ∀ {m n : Node}, sameShape m n = true → sameShape n m = true
  | ⟨_, _, _, _, _, _⟩, ⟨_, _, _, _, _, _⟩, h => by
    obtain ⟨hk, ha, ht, hc⟩ := sameShape_iff.1 h
    exact sameShape_iff.2 ⟨hk.symm, ha.symm, ht.symm, sameShapes_symm hc⟩

theorem sameShapes_symm :
    ∀ {ms ns : List Node}, sameShapes ms ns = true → sameShapes ns ms = true
  | [], [], _ => by rw [sameShapes]
  | [], _ :: _, h => by simp only [sameShapes, Bool.false_eq_true] at h
  | _ :: _, [], h => by simp only [sameShapes, Bool.false_eq_true] at h
  | _ :: _, _ :: _, h => by
    obtain ⟨hn, hns⟩ := sameShapes_cons.1 h
    exact sameShapes_cons.2 ⟨sameShape_symm hn, sameShapes_symm hns⟩

end

mutual

theorem sameShape_trans :
    ∀ {l m n : Node}, sameShape l m = true → sameShape m n = true → sameShape l n = true
  | ⟨_, _, _, _, _, _⟩, ⟨_, _, _, _, _, _⟩, ⟨_, _, _, _, _, _⟩, h, h' => by
    obtain ⟨hk, ha, ht, hc⟩ := sameShape_iff.1 h
    obtain ⟨hk', ha', ht', hc'⟩ := sameShape_iff.1 h'
    exact sameShape_iff.2 ⟨hk.trans hk', ha.trans ha', ht.trans ht', sameShapes_trans hc hc'⟩

theorem sameShapes_trans : ∀ {ls ms ns : List Node},
    sameShapes ls ms = true → sameShapes ms ns = true → sameShapes ls ns = true
  | [], [], _, _, h' => h'
  | [], _ :: _, _, h, _ => by simp only [sameShapes, Bool.false_eq_true] at h
  | _ :: _, [], _, h, _ => by simp only [sameShapes, Bool.false_eq_true] at h
  | _ :: _, _ :: _, [], _, h' => by simp only [sameShapes, Bool.false_eq_true] at h'
  | _ :: _, _ :: _, _ :: _, h, h' => by
    obtain ⟨hn, hns⟩ := sameShapes_cons.1 h
    obtain ⟨hn', hns'⟩ := sameShapes_cons.1 h'
    exact sameShapes_cons.2 ⟨sameShape_trans hn hn', sameShapes_trans hns hns'⟩

end

theorem sameShape_comm (m n : Node) : sameShape m n = sameShape n m :=
  Bool.eq_iff_iff.2 ⟨sameShape_symm, sameShape_symm⟩

theorem sameShapes_comm (ms ns : List Node) : sameShapes ms ns = sameShapes ns ms :=
  Bool.eq_iff_iff.2 ⟨sameShapes_symm, sameShapes_symm⟩

theorem sameShapes_congr {ms ns : List Node} (h : sameShapes ms ns = true) (ls : List Node) :
    sameShapes ms ls = sameShapes ns ls :=
  Bool.eq_iff_iff.2 ⟨sameShapes_trans (sameShapes_symm h), sameShapes_trans h⟩

theorem sameShapes_nil_left {ns : List Node} : sameShapes [] ns = true ↔ ns = [] := by
  cases ns with
  | nil => simp only [sameShapes]
  | cons n ns => simp only [sameShapes, Bool.false_eq_true, reduceCtorEq]

theorem sameShape_attr? {m n : Node} (h : sameShape m n = true) (key : String) :
    m.attr? key = n.attr? key :=
  OrderedMap.get?_eq_of_perm (sameShape_iff.1 h).2.1 key

theorem sameShape_withOwnPlatforms (m n : Node) (p : PlatformSet) :
    sameShape (m.withOwnPlatforms p) n = sameShape m n := by
  cases m
  cases n
  simp only [withOwnPlatforms, sameShape]

theorem sameMember_iff {m n : Node} : sameMember m n = true ↔
    m.kind = n.kind ∧ m.name? = n.name? ∧
      (m.name? = none → m.kind.isSingleton = true ∨ sameShape m n = true) := by
  rw [sameMember, Bool.and_eq_true, beq_iff_eq]
  cases m.name? with
  | none =>
    cases n.name? with
    | none => simp only [Bool.or_eq_true, true_and, forall_const]
    | some b => simp only [Bool.false_eq_true, reduceCtorEq, false_and]
  | some a =>
    cases n.name? with
    | none => simp only [Bool.false_eq_true, reduceCtorEq, false_and]
    | some b => simp only [beq_iff_eq, Option.some.injEq, reduceCtorEq, false_implies, and_true]

theorem sameMember_of_sameShape {m n : Node} (h : sameShape m n = true) :
    sameMember m n = true :=
  sameMember_iff.2 ⟨(sameShape_iff.1 h).1, sameShape_attr? h "name", fun _ => .inr h⟩

theorem sameMember_refl (n : Node) : sameMember n n = true :=
  sameMember_of_sameShape (sameShape_refl n)

theorem sameMember_symm {m n : Node} (h : sameMember m n = true) : sameMember n m = true := by
  obtain ⟨hk, hn, hs⟩ := sameMember_iff.1 h
  refine sameMember_iff.2 ⟨hk.symm, hn.symm, ?_⟩
  intro hnone
  rw [← hk, sameShape_comm]
  exact hs (hn.trans hnone)

theorem sameMember_trans {l m n : Node} (h : sameMember l m = true)
    (h' : sameMember m n = true) : sameMember l n = true := by
  obtain ⟨hk, hn, hs⟩ := sameMember_iff.1 h
  obtain ⟨hk', hn', hs'⟩ := sameMember_iff.1 h'
  refine sameMember_iff.2 ⟨hk.trans hk', hn.trans hn', ?_⟩
  intro hnone
  rcases hs hnone with hs | hs
  · exact .inl hs
  · rcases hs' (hn.symm.trans hnone) with hs' | hs'
    · exact .inl (hk ▸ hs')
    · exact .inr (sameShape_trans hs hs')

theorem sameMember_comm (m n : Node) : sameMember m n = sameMember n m :=
  Bool.eq_iff_iff.2 ⟨sameMember_symm, sameMember_symm⟩

theorem sameMember_congr {m n : Node} (h : sameMember m n = true) (l : Node) :
    sameMember m l = sameMember n l :=
  Bool.eq_iff_iff.2 ⟨sameMember_trans (sameMember_symm h), sameMember_trans h⟩

theorem sameMember_withOwnPlatforms (m n : Node) (p : PlatformSet) :
    sameMember (m.withOwnPlatforms p) n = sameMember m n := by
  rw [sameMember, sameMember, sameShape_withOwnPlatforms]
  rfl

theorem sameShape_congr {m m' n n' : Node} (hm : sameShape m m' = true)
    (hn : sameShape n n' = true) : sameShape m n = sameShape m' n' := by
  rw [Bool.eq_iff_iff]
  constructor
  · intro h
    exact sameShape_trans (sameShape_symm hm) (sameShape_trans h hn)
  · intro h
    exact sameShape_trans hm (sameShape_trans h (sameShape_symm hn))

theorem sameMember_congr_shape {m m' n n' : Node} (hm : sameShape m m' = true)
    (hn : sameShape n n' = true) : sameMember m n = sameMember m' n' := by
  rw [sameMember_congr (sameMember_of_sameShape hm), sameMember_comm,
    sameMember_congr (sameMember_of_sameShape hn), sameMember_comm]

theorem sameShape_map {φ : Node → Node} (h : ∀ n, sameShape (φ n) n = true) (m n : Node) :
    sameShape (φ m) (φ n) = sameShape m n :=
  sameShape_congr (h m) (h n)

theorem sameShapes_map_left {φ : Node → Node} {ns : List Node}
    (h : ∀ n ∈ ns, sameShape (φ n) n = true) : sameShapes (ns.map φ) ns = true := by
  induction ns with
  | nil => rw [List.map_nil, sameShapes]
  | cons n ns ih =>
    obtain ⟨hn, hns⟩ := List.forall_mem_cons.1 h
    exact sameShapes_cons.2 ⟨hn, ih hns⟩

theorem sameShapes_map {φ : Node → Node} {ms ns : List Node}
    (h : ∀ m ∈ ms, ∀ n ∈ ns, sameShape (φ m) (φ n) = sameShape m n) :
    sameShapes (ms.map φ) (ns.map φ) = sameShapes ms ns := by
  induction ms generalizing ns with
  | nil =>
    cases ns with
    | nil => rfl
    | cons n ns => simp only [List.map_nil, List.map_cons, sameShapes]
  | cons m ms ih =>
    cases ns with
    | nil => simp only [List.map_nil, List.map_cons, sameShapes]
    | cons n ns =>
      obtain ⟨hm, hms⟩ := List.forall_mem_cons.1 h
      have hrest := ih fun m hm n hn => hms m hm n (List.mem_cons_of_mem _ hn)
      simp only [List.map_cons, sameShapes, hm n List.mem_cons_self, hrest]

theorem sameMember_map {φ : Node → Node} (h : ∀ n, sameShape (φ n) n = true) (m n : Node) :
    sameMember (φ m) (φ n) = sameMember m n :=
  sameMember_congr_shape (h m) (h n)

end GirBind.Node
