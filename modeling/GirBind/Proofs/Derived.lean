import GirBind.Proofs.Availability

namespace GirBind

/-- Every declaration of a namespace has a name, and is filed under that or under its kind. -/
structure Namespace.IsFiled (ns : Namespace) : Prop where
  types : ∀ e ∈ ns.types.entries, e.2.node.name? = some e.1
  functions : ∀ n ∈ ns.functions, n.kind = .function ∧ n.name?.isSome
  constants : ∀ n ∈ ns.constants, n.kind = .constant ∧ n.name?.isSome

theorem Namespace.IsOn.isFiled {p : PlatformSet} {ns : Namespace} (h : ns.IsOn p) :
    ns.IsFiled where
  types e he := (h.types e he).2
  functions n hn := (h.functions n hn).2
  constants n hn := (h.constants n hn).2

namespace Namespace.IsFiled

variable {ns : Namespace} {key : String} {t : RegisteredType}

theorem type_name (h : ns.IsFiled) (ht : (key, t) ∈ ns.types.entries) : t.name = key := by
  rw [RegisteredType.name, Node.name, h.types _ ht, Option.getD_some]

theorem get?_types_eq_some_iff (h : ns.IsFiled) :
    ns.types.get? key = some t ↔ t ∈ ns.types.values ∧ t.name = key := by
  rw [OrderedMap.get?_eq_some_iff]
  constructor
  · intro ht
    exact ⟨List.mem_map_of_mem ht, h.type_name ht⟩
  · rintro ⟨ht, rfl⟩
    obtain ⟨⟨key, t⟩, he, rfl⟩ := List.mem_map.1 ht
    rwa [h.type_name he]

end Namespace.IsFiled

namespace Patch

variable {ns : Namespace}

theorem isFiled_editMembers (h : ns.IsFiled) (type : String) (f : List Node → List Node) :
    (editMembers ns type f).IsFiled := by
  refine ⟨?_, h.functions, h.constants⟩
  intro e he
  rw [editMembers, OrderedMap.entries_modify] at he
  obtain ⟨e', he', rfl⟩ := List.mem_map.1 he
  split
  case isTrue => exact h.types e' he'
  case isFalse => exact h.types e' he'

theorem isFiled_edit (h : ns.IsFiled) (p : Patch) : (p.edit ns).IsFiled := by
  unfold edit
  split
  case isTrue =>
    cases p with
    | removeType =>
      exact ⟨fun e he => h.types e (List.mem_of_mem_filter he), h.functions, h.constants⟩
    | removeFunction =>
      exact ⟨h.types, fun n hn => h.functions n (List.mem_of_mem_filter hn), h.constants⟩
    | removeMethod => exact isFiled_editMembers h _ _
    | renameMethod => exact isFiled_editMembers h _ _
    | removeConstant =>
      exact ⟨h.types, h.functions, fun n hn => h.constants n (List.mem_of_mem_filter hn)⟩
  case isFalse => exact h

end Patch

namespace Repository

/-- A description that documents and edits can lead to. -/
inductive Derived : Repository → Prop
  | read {s : Source} {r : Repository} (h : s.repository = .ok r) : Derived r
  | merge {a b r : Repository} (ha : Derived a) (hb : Derived b) (h : a.merge b = .ok r) :
    Derived r
  | edit {r : Repository} (hr : Derived r) (p : Patch) :
    Derived { r with library := p.edit r.library }

variable {a b r : Repository}

theorem isFiled_merge (ha : a.library.IsFiled) (hb : b.library.IsFiled)
    (h : a.merge b = .ok r) : r.library.IsFiled := by
  have hunion := IsUnion.of_merge h
  have hnode {n : Node} {kind : NodeKind} {ms ns : List Node} (hn : n ∈ Node.unite ms ns)
      (hall : ∀ m ∈ ms ++ ns, m.kind = kind ∧ m.name?.isSome) : n.kind = kind ∧ n.name?.isSome := by
    obtain ⟨m, hm, hkind, hname⟩ := Node.exists_of_mem_unite hn
    rw [← hkind, ← hname]
    exact hall m hm
  refine ⟨?_, ?_, ?_⟩
  · rintro ⟨key, t⟩ he
    obtain ⟨d, ds, hds, -, rfl⟩ := hunion.type (OrderedMap.get?_eq_some_iff.2 he)
    obtain ⟨s, hs, hd⟩ := List.mem_filterMap.1 (hds ▸ List.mem_cons_self : d ∈ _)
    have hname : d.node.name? = some key := by
      rw [OrderedMap.get?_eq_some_iff] at hd
      rcases List.mem_cons.1 hs with rfl | hs
      · exact ha.types _ hd
      · obtain rfl := List.mem_singleton.1 hs
        exact hb.types _ hd
    obtain ⟨children, line, hmerge⟩ :=
      Node.foldl_mergeAs_eq d.variant d.node (ds.map RegisteredType.node)
    rw [hmerge]
    exact hname
  · intro n hn
    rw [hunion.functions, List.flatMap_singleton] at hn
    exact hnode hn (List.forall_mem_append.2 ⟨ha.functions, hb.functions⟩)
  · intro n hn
    rw [hunion.constants, List.flatMap_singleton] at hn
    exact hnode hn (List.forall_mem_append.2 ⟨ha.constants, hb.constants⟩)

theorem Derived.isFiled (h : r.Derived) : r.library.IsFiled := by
  induction h with
  | read h => exact (Source.repository_isOn h).2.isFiled
  | merge _ _ h iha ihb => exact isFiled_merge iha ihb h
  | edit _ p ih => exact Patch.isFiled_edit ih p

variable {rs merged : List Repository}

theorem Derived.of_absorb (hr : r.Derived) (hrs : ∀ s ∈ rs, s.Derived)
    (h : absorb r rs = .ok merged) : ∀ s ∈ merged, s.Derived := by
  induction rs generalizing merged with
  | nil =>
    cases h
    exact List.forall_mem_singleton.2 hr
  | cons s rs ih =>
    obtain ⟨hs, hrs⟩ := List.forall_mem_cons.1 hrs
    rw [absorb] at h
    split at h
    case isTrue =>
      obtain ⟨m, hm, rfl⟩ := Attempt.map_eq_ok_iff.1 h
      exact List.forall_mem_cons.2 ⟨.merge hs hr hm, hrs⟩
    case isFalse =>
      obtain ⟨rest, hrest, rfl⟩ := Attempt.map_eq_ok_iff.1 h
      exact List.forall_mem_cons.2 ⟨hs, ih hrs hrest⟩

theorem Derived.of_mergeAll (hrs : ∀ r ∈ rs, r.Derived) (h : mergeAll rs = .ok merged) :
    ∀ r ∈ merged, r.Derived := by
  refine Attempt.foldlM_induction (motive := fun l : List Repository => ∀ r ∈ l, r.Derived)
    (fun _ hr => absurd hr List.not_mem_nil) ?_ h
  intro r hr _ _ hall hstep
  exact .of_absorb (hrs r hr) hall hstep

theorem Derived.of_applyEach (hrs : ∀ r ∈ rs, r.Derived) (p : Patch) :
    ∀ r ∈ (p.applyEach rs).1, r.Derived := by
  induction rs with
  | nil => exact hrs
  | cons r rs ih =>
    obtain ⟨hr, hrs⟩ := List.forall_mem_cons.1 hrs
    exact List.forall_mem_cons.2 ⟨hr.edit p, ih hrs⟩

theorem Derived.of_applyAll (hrs : ∀ r ∈ rs, r.Derived) (ps : List Patch) :
    ∀ r ∈ (Patch.applyAll ps rs).1, r.Derived := by
  induction ps generalizing rs with
  | nil => exact hrs
  | cons p ps ih => exact ih (.of_applyEach hrs p)

theorem Derived.of_buildRepositories {o : Options} {sources : List Source} {applied : Nat}
    (h : buildRepositories o sources = .ok (rs, applied)) : ∀ r ∈ rs, r.Derived := by
  obtain ⟨merged, hmerged, hedit⟩ := Attempt.bind_eq_ok_iff.1 h
  obtain ⟨documents, hread, hmerged⟩ := Attempt.bind_eq_ok_iff.1 hmerged
  have hrs : (Patch.applyAll o.allPatches merged).1 = rs := congrArg Prod.fst (Except.ok.inj hedit)
  rw [← hrs]
  refine .of_applyAll (.of_mergeAll ?_ hmerged) o.allPatches
  intro r hr
  obtain ⟨s, -, hs⟩ := Attempt.exists_of_mem_mapM hread hr
  exact .read hs

end Repository
end GirBind
