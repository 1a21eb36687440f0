import GirBind.Compile
import GirBind.Proofs.MemberPlatforms

namespace GirBind

open PlatformSet (unionAll)

/-- The platforms of those documents of a library whose declarations meet a condition. -/
def availability (library : String) (declares : Namespace → Bool) (sources : List Source) :
    PlatformSet :=
  unionAll ((sources.filter fun s => s.repository.toOption.any fun r =>
    r.library.name == library && declares r.library).map Source.platforms)

/-- The platforms of those documents that have a member of the given kind and name in some list of
declarations of a library. -/
def memberAvailability (library : String) (items : Namespace → List Node) (kind : NodeKind)
    (name : String) (sources : List Source) : PlatformSet :=
  availability library (fun ns => (items ns).any (Node.isNamed kind name)) sources

/-- No document of a library has two members of the given kind and name. -/
def DeclaredOnce (library : String) (items : Namespace → List Node) (kind : NodeKind)
    (name : String) (sources : List Source) : Prop :=
  ∀ s ∈ sources, ∀ r, s.repository = .ok r → r.library.name = library →
    (items r.library).countP (Node.isNamed kind name) ≤ 1

variable {sources : List Source} {rs : List Repository} {library : String}

theorem readAll_eq_ok_iff :
    readAll sources = .ok rs ↔ List.Forall₂ (fun s r => s.repository = .ok r) sources rs :=
  Attempt.mapM_eq_ok_iff

theorem isOn_of_readAll (h : readAll sources = .ok rs) {r : Repository} (hr : r ∈ rs) :
    r.library.IsOn r.platforms := by
  obtain ⟨s, -, hs⟩ := Attempt.exists_of_mem_mapM h hr
  obtain ⟨hp, hon⟩ := Source.repository_isOn hs
  exact hp ▸ hon

theorem availability_eq (h : readAll sources = .ok rs) (declares : Namespace → Bool) :
    availability library declares sources =
      unionAll (((Repository.describing library rs).filter (declares ·.library)).map
        Repository.platforms) := by
  rw [Repository.describing, List.filter_filter]
  rw [readAll_eq_ok_iff] at h
  induction h with
  | nil => rfl
  | @cons s r sources rs hs _ ih =>
    have hp := (Source.repository_isOn hs).1
    rw [availability, List.filter_cons, List.filter_cons, hs]
    rw [availability] at ih
    change unionAll (List.map _ (if (r.library.name == library && declares r.library) = true then
      _ else _)) = _
    rw [Bool.and_comm]
    split
    case isTrue => rw [List.map_cons, List.map_cons, unionAll, unionAll, ih, hp]
    case isFalse => exact ih

theorem unionAll_declarations (h : readAll sources = .ok rs) {items : Namespace → List Node}
    (hitems : ∀ {p ns}, ns.IsOn p → ∀ n ∈ items ns, n.platforms = p) (q : Node → Bool) :
    unionAll ((((Repository.describing library rs).flatMap (items ·.library)).filter q).map
      Node.platforms) = availability library (fun ns => (items ns).any q) sources := by
  have hon : ∀ r ∈ Repository.describing library rs, ∀ n ∈ items r.library,
      n.platforms = r.platforms :=
    fun r hr => hitems (isOn_of_readAll h (List.mem_of_mem_filter hr))
  rw [availability_eq h]
  generalize Repository.describing library rs = documents at hon
  induction documents with
  | nil => rfl
  | cons r documents ih =>
    obtain ⟨hr, hrest⟩ := List.forall_mem_cons.1 hon
    rw [List.flatMap_cons, List.filter_append, List.map_append, PlatformSet.unionAll_append,
      ih hrest, PlatformSet.unionAll_map_filter hr, List.filter_cons]
    split
    case isTrue => rw [List.map_cons, unionAll]
    case isFalse => rw [PlatformSet.empty_union]

theorem DeclaredOnce.countP_le {items : Namespace → List Node} {kind : NodeKind} {name : String}
    (hone : DeclaredOnce library items kind name sources) (h : readAll sources = .ok rs)
    {r : Repository} (hr : r ∈ Repository.describing library rs) :
    (items r.library).countP (Node.isNamed kind name) ≤ 1 := by
  obtain ⟨hmem, hname⟩ := List.mem_filter.1 hr
  obtain ⟨s, hs, hsr⟩ := Attempt.exists_of_mem_mapM h hmem
  exact hone s hs r hsr (eq_of_beq hname)

def Namespace.IsSection (items : Namespace → List Node) (kind : NodeKind) : Prop :=
  ∀ ⦃p ns⦄, IsOn p ns → ∀ n ∈ items ns, n.IsOn p ∧ n.kind = kind ∧ n.name?.isSome

theorem Namespace.functions_isSection : IsSection functions .function :=
  fun _ _ h => h.functions

theorem Namespace.constants_isSection : IsSection constants .constant :=
  fun _ _ h => h.constants

namespace Repository

variable {first r : Repository} {rest : List Repository} {n : Node}
  {items : Namespace → List Node} {kind : NodeKind}

theorem name?_of_mem_section (h : readAll sources = .ok rs)
    (hrs : describing library rs = first :: rest) (hitems : Namespace.IsSection items kind)
    (hn : n ∈ Node.unite (items first.library) (rest.flatMap (items ·.library))) :
    n.kind = kind ∧ n.name? = some n.name := by
  obtain ⟨m, hm, hkind, hname⟩ := Node.exists_of_mem_unite hn
  obtain ⟨s, hs, hm⟩ : ∃ s ∈ first :: rest, m ∈ items s.library := List.mem_flatMap.1 hm
  have hmem : s ∈ rs := List.mem_of_mem_filter (hrs ▸ hs)
  obtain ⟨-, hmkind, hsome⟩ := hitems (isOn_of_readAll h hmem) m hm
  obtain ⟨name, hmname⟩ := Option.isSome_iff_exists.1 hsome
  refine ⟨hkind ▸ hmkind, ?_⟩
  rw [Node.name, ← hname, hmname, Option.getD_some]

theorem platforms_of_mem_section (h : readAll sources = .ok rs)
    (hrs : describing library rs = first :: rest) (hitems : Namespace.IsSection items kind)
    (hn : n ∈ Node.unite (items first.library) (rest.flatMap (items ·.library)))
    (hone : DeclaredOnce library items kind n.name sources) :
    n.platforms = memberAvailability library items kind n.name sources := by
  obtain ⟨rfl, hname⟩ := name?_of_mem_section h hrs hitems hn
  have hfirst := hone.countP_le h (hrs ▸ List.mem_cons_self)
  rw [Node.platforms_of_mem_unite hn hname hfirst, memberAvailability,
    ← unionAll_declarations h fun hns m hm => (Node.isOn_iff.1 (hitems hns m hm).1).1, hrs,
    List.flatMap_cons]

theorem IsUnion.platforms_subset (h : readAll sources = .ok rs)
    (hrs : describing library rs = first :: rest) (hunion : IsUnion first rest r)
    (hitems : Namespace.IsSection items kind)
    (hn : n ∈ Node.unite (items first.library) (rest.flatMap (items ·.library))) :
    n.platforms ⊆ r.library.platforms := by
  have hall : r.library.platforms =
      unionAll ((first :: rest).map fun s => s.library.platforms) := by
    rw [hunion.platforms, List.map_cons, ← PlatformSet.foldl_union, List.foldl_map]
  have hsub : ∀ s ∈ first :: rest, ∀ m ∈ items s.library, m.platforms ⊆ r.library.platforms := by
    intro s hs m hm
    have hon := isOn_of_readAll h (List.mem_of_mem_filter (hrs ▸ hs))
    rw [(Node.isOn_iff.1 (hitems hon m hm).1).1, ← hon.platforms, hall]
    exact PlatformSet.subset_unionAll (List.mem_map_of_mem hs)
  refine Node.unite_subset (hsub first List.mem_cons_self) (fun m hm => ?_) n hn
  obtain ⟨s, hs, hm⟩ := List.mem_flatMap.1 hm
  exact hsub s (List.mem_cons_of_mem _ hs) m hm

end Repository

namespace RegisteredType

theorem membersOf_eq (ns : Namespace) (key : String) :
    Patch.membersOf ns key = (ns.types.get? key).toList.flatMap (·.node.children) := by
  rw [Patch.membersOf]
  cases ns.types.get? key with
  | none => rfl
  | some t => exact (List.append_nil _).symm

theorem flatMap_membersOf (rs : List Repository) (key : String) :
    rs.flatMap (fun r => Patch.membersOf r.library key) =
      ((rs.filterMap (·.library.types.get? key)).map node).flatMap Node.children := by
  rw [List.filterMap_eq_flatMap_toList, List.map_flatMap, List.flatMap_assoc]
  apply List.flatMap_congr
  intro r _
  rw [membersOf_eq, List.flatMap_map]

theorem platforms_of_mem_membersOf {p : PlatformSet} {ns : Namespace} {key : String} {n : Node}
    (hns : ns.IsOn p) (hn : n ∈ Patch.membersOf ns key) : n.platforms = p := by
  rw [membersOf_eq] at hn
  obtain ⟨t, ht, hmem⟩ := List.mem_flatMap.1 hn
  have hentry := OrderedMap.get?_eq_some_iff.1 (Option.mem_toList.1 ht)
  have hon := (Node.isOn_iff.1 (hns.types _ hentry).1).2 n hmem
  exact (Node.isOn_iff.1 hon).1

variable {first r : Repository} {rest : List Repository} {key : String} {t : RegisteredType}

theorem exists_declaration (h : readAll sources = .ok rs)
    (hrs : Repository.describing library rs = first :: rest) {d : RegisteredType}
    (hd : d ∈ (first :: rest).filterMap (·.library.types.get? key)) :
    ∃ s ∈ first :: rest, s.library.types.get? key = some d ∧ d.node.IsOn s.platforms ∧
      d.node.name? = some key := by
  obtain ⟨s, hs, hsd⟩ := List.mem_filterMap.1 hd
  have hmem : s ∈ rs := List.mem_of_mem_filter (hrs ▸ hs)
  have hon := (isOn_of_readAll h hmem).types _ (OrderedMap.get?_eq_some_iff.1 hsd)
  exact ⟨s, hs, hsd, hon⟩

/-- A type of a merged library is available where a document declares it. -/
theorem platforms_of_isUnion (h : readAll sources = .ok rs)
    (hrs : Repository.describing library rs = first :: rest)
    (hunion : Repository.IsUnion first rest r) (ht : r.library.types.get? key = some t) :
    t.platforms = availability library (·.types.contains key) sources := by
  obtain ⟨d, ds, hds, -, rfl⟩ := hunion.type ht
  let items (ns : Namespace) : List Node := (ns.types.get? key).toList.map node
  have hitems : ∀ {p ns}, ns.IsOn p → ∀ n ∈ items ns, n.platforms = p := by
    intro p ns hns n hn
    obtain ⟨u, hu, rfl⟩ := List.mem_map.1 hn
    have hentry := OrderedMap.get?_eq_some_iff.1 (Option.mem_toList.1 hu)
    exact (Node.isOn_iff.1 (hns.types _ hentry).1).1
  have hall : (first :: rest).flatMap (items ·.library) = (d :: ds).map node := by
    rw [← hds, List.filterMap_eq_flatMap_toList, List.map_flatMap]
  have hdeclares : (fun ns => (items ns).any fun _ => true) =
      fun ns : Namespace => ns.types.contains key := by
    funext ns
    rw [OrderedMap.contains_eq_isSome]
    change ((ns.types.get? key).toList.map node).any _ = _
    cases ns.types.get? key with
    | none => rfl
    | some u => rfl
  obtain ⟨children, line, hmerge⟩ := Node.foldl_mergeAs_eq d.variant d.node (ds.map node)
  rw [← hdeclares, ← unionAll_declarations h hitems, hrs, hall, List.filter_true]
  exact congrArg Node.platforms hmerge

theorem platforms_of_mem_children (h : readAll sources = .ok rs)
    (hrs : Repository.describing library rs = first :: rest)
    (hunion : Repository.IsUnion first rest r) (ht : r.library.types.get? key = some t) {n : Node}
    (hn : n ∈ t.node.children) (hkind : n.kind ≠ .field) {name : String}
    (hname : n.name? = some name)
    (hone : DeclaredOnce library (Patch.membersOf · key) n.kind name sources) :
    n.platforms = memberAvailability library (Patch.membersOf · key) n.kind name sources := by
  obtain ⟨d, ds, hds, -, rfl⟩ := hunion.type ht
  have hfirst : (d.node.childrenOf n.kind).countP (Node.isNamed n.kind name) ≤ 1 := by
    obtain ⟨s, hs, hsd, -⟩ := exists_declaration h hrs (hds ▸ List.mem_cons_self)
    have hcount := hone.countP_le h (hrs ▸ hs)
    rw [membersOf_eq, hsd, Option.toList_some, List.flatMap_singleton] at hcount
    exact Nat.le_trans (List.filter_sublist.countP_le) hcount
  have hunite : n ∈ Node.unite (d.node.childrenOf n.kind)
      ((ds.map node).flatMap (·.childrenOf n.kind)) := by
    rw [← Node.childrenOf_foldl_mergeAs hkind]
    exact List.mem_filter.2 ⟨hn, beq_self_eq_true _⟩
  have hfilter : (d.node.childrenOf n.kind ++ (ds.map node).flatMap (·.childrenOf n.kind)).filter
      (Node.isNamed n.kind name) =
      (((d :: ds).map node).flatMap Node.children).filter (Node.isNamed n.kind name) :=
    Node.filter_isNamed_flatMap_childrenOf n.kind name ((d :: ds).map node)
  have hmembers : unionAll ((((Repository.describing library rs).flatMap
      fun s => Patch.membersOf s.library key).filter (Node.isNamed n.kind name)).map
        Node.platforms) = memberAvailability library (Patch.membersOf · key) n.kind name sources :=
    unionAll_declarations h (fun hns m hm => platforms_of_mem_membersOf hns hm) _
  rw [hrs, flatMap_membersOf, hds] at hmembers
  rw [Node.platforms_of_mem_unite hunite hname hfirst, hfilter]
  exact hmembers

theorem covers_of_isUnion (h : readAll sources = .ok rs)
    (hrs : Repository.describing library rs = first :: rest)
    (hunion : Repository.IsUnion first rest r) (ht : r.library.types.get? key = some t) :
    t.node.Covers := by
  obtain ⟨d, ds, hds, -, rfl⟩ := hunion.type ht
  have hcovers : ∀ u ∈ d :: ds, u.node.Covers := by
    intro u hu
    obtain ⟨s, -, -, hon, -⟩ := exists_declaration h hrs (hds ▸ hu)
    exact hon.covers
  obtain ⟨hd, hds⟩ := List.forall_mem_cons.1 hcovers
  exact .foldl_mergeAs hd (List.forall_mem_map.2 hds)

theorem name?_of_isUnion (h : readAll sources = .ok rs)
    (hrs : Repository.describing library rs = first :: rest)
    (hunion : Repository.IsUnion first rest r) (ht : r.library.types.get? key = some t) :
    t.node.name? = some key := by
  obtain ⟨d, ds, hds, -, rfl⟩ := hunion.type ht
  obtain ⟨s, -, -, -, hname⟩ := exists_declaration h hrs (hds ▸ List.mem_cons_self)
  obtain ⟨children, line, hmerge⟩ := Node.foldl_mergeAs_eq d.variant d.node (ds.map node)
  rw [hmerge]
  exact hname

end RegisteredType
end GirBind
