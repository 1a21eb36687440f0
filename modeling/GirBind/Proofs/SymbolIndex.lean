import GirBind.Proofs.DiscoveryOrder

namespace GirBind

namespace Symbol

theorem eq_of_entry {library : String} {owner identifier : Option String} {n : Node}
    {e : String × Symbol} (h : entry? library owner identifier n = some e) :
    e.2 = ⟨library, owner, n.name, n⟩ := by
  unfold entry? at h
  split at h
  case h_1 name _ hname =>
    cases h
    rw [Node.name, hname]
    rfl
  case h_2 => cases h

theorem of_mem_ofNamespace {ns : Namespace} {e : String × Symbol} (h : e ∈ ofNamespace ns) :
    e.2.library = ns.name ∧ e.2.name = e.2.node.name ∧
      (e.2.owner = none ∧ e.2.node ∈ ns.functions ++ ns.constants ∨
        ∃ key t, (key, t) ∈ ns.types.entries ∧ e.2.owner = some key ∧
          e.2.node ∈ t.node.children) := by
  rw [ofNamespace, List.mem_append, List.mem_append] at h
  rcases h with (h | h) | h
  · obtain ⟨n, hn, hne⟩ := List.mem_filterMap.1 h
    rw [eq_of_entry hne]
    exact ⟨rfl, rfl, .inl ⟨rfl, List.mem_append_left _ hn⟩⟩
  · obtain ⟨n, hn, hne⟩ := List.mem_filterMap.1 h
    rw [eq_of_entry hne]
    exact ⟨rfl, rfl, .inl ⟨rfl, List.mem_append_right _ hn⟩⟩
  · obtain ⟨⟨key, t⟩, ht, h⟩ := List.mem_flatMap.1 h
    obtain ⟨n, hn, hne⟩ := List.mem_filterMap.1 h
    rw [eq_of_entry hne]
    exact ⟨rfl, rfl, .inr ⟨key, t, ht, rfl, (List.mem_filter.1 hn).1⟩⟩

end Symbol

namespace SymbolTable

variable {rs : List Repository} {naming : PackageNaming}

theorem namespace?_build_eq_some_iff (hnames : (rs.map (·.library.name)).Nodup) {name : String}
    {ns : Namespace} :
    (build rs naming).namespace? name = some ns ↔ ∃ r ∈ rs, r.library = ns ∧ ns.name = name := by
  rw [namespace?, OrderedMap.get?_eq_some_iff, entries_build hnames, List.mem_map]
  refine exists_congr fun r => and_congr_right fun _ => ?_
  rw [Prod.mk.injEq]
  constructor
  · rintro ⟨rfl, rfl⟩
    exact ⟨rfl, rfl⟩
  · rintro ⟨rfl, rfl⟩
    exact ⟨rfl, rfl⟩

theorem symbol?_build_eq_some_iff {identifier : String} {y : Symbol} :
    (build rs naming).symbol? identifier = some y ↔
      (rs.flatMap (Symbol.ofNamespace ·.library)).find? (·.1 == identifier) =
        some (identifier, y) := by
  rw [symbol?_build, Option.map_eq_some_iff]
  constructor
  · rintro ⟨⟨key, y⟩, hy, rfl⟩
    have hkey := List.find?_some hy
    rw [beq_iff_eq] at hkey
    exact hkey ▸ hy
  · intro hy
    exact ⟨_, hy, rfl⟩

theorem exists_of_symbol? {identifier : String} {y : Symbol}
    (h : (build rs naming).symbol? identifier = some y) :
    ∃ r ∈ rs, (identifier, y) ∈ Symbol.ofNamespace r.library :=
  List.mem_flatMap.1 (List.mem_of_find?_eq_some (symbol?_build_eq_some_iff.1 h))

theorem exists_of_nativeType? {cType : String} {e : TypeEntry}
    (h : (build rs naming).nativeType? cType = some e) :
    ∃ r ∈ rs, e.library = r.library.name ∧ e.type ∈ r.library.types.values := by
  rw [nativeType?_build] at h
  obtain ⟨entry, hentry, rfl⟩ := Option.map_eq_some_iff.1 h
  obtain ⟨r, hr, hmem⟩ := List.mem_flatMap.1 (List.mem_of_find?_eq_some hentry)
  obtain ⟨t, ht, hkey⟩ := List.mem_filterMap.1 hmem
  obtain ⟨key, -, rfl⟩ := Option.map_eq_some_iff.1 hkey
  exact ⟨r, hr, rfl, ht⟩

end SymbolTable

/-- A run binds namespaces of different names, each against the table of all of them. -/
theorem exists_bound_of_compileSources {o : Options} {sources : List Source}
    {ds : List NamespaceDecision} {stats : Statistics}
    (h : compileSources o sources = .ok (ds, stats)) : ∃ rs applied floating,
      buildRepositories o sources = .ok (rs, applied) ∧ (rs.map (·.library.name)).Nodup ∧
      ds = rs.map fun r =>
        BindingContext.bindNamespace ⟨.build rs o.naming, r.library⟩ floating := by
  obtain ⟨_, merged, built, applied, _, hmerged, hedit, hbuild, rfl, -⟩ :=
    exists_of_compileSources h
  have hnodup : (built.map (·.library.name)).Nodup := by
    have hnames := Patch.names_applyAll o.allPatches merged
    rw [hedit] at hnames
    exact hnames ▸ Repository.nodup_names_of_mergeAll hmerged
  exact ⟨built, applied, _, hbuild, hnodup, SymbolTable.bind_build hnodup o.naming _⟩

end GirBind
