import GirBind.Proofs.Agreement.Floating
import GirBind.Proofs.Agreement.Namespace
import GirBind.Proofs.DeclaredTypes
import GirBind.Proofs.Patching
import GirBind.Proofs.SymbolTable

namespace GirBind

theorem Node.unedited_outline : Unedited outline where
  kind := keepsMembers_outline.kind
  attributes n := by rw [outline_eq]
  withAttributes n a := by rw [outline_eq, outline_eq]

theorem Patch.applyAll_outline (ps : List Patch) (rs : List Repository) :
    (applyAll ps (rs.map Repository.outline)).1 = (applyAll ps rs).1.map Repository.outline := by
  rw [applyAll_fst, applyAll_fst, List.map_map, List.map_map]
  refine List.map_congr_left fun r _ => ?_
  exact congrArg (Repository.mk r.includes r.packages r.cIncludes · r.platforms)
    (editAll_mapMembers Node.unedited_outline ps r.library)

namespace Symbol

def outline (y : Symbol) : Symbol := { y with node := y.node.outline }

theorem entry?_outline (library : String) (owner : Option String) (identifier : Option String)
    (n : Node) : entry? library owner identifier n.outline =
      ( entry? library owner identifier n).map fun e => (e.1, e.2.outline) := by
  unfold entry?
  rw [Node.keepsMembers_outline.name?]
  cases identifier with
  | none => rfl
  | some identifier =>
    cases n.name? with
    | none => rfl
    | some name => rfl

theorem filterMap_entry?_outline (library : String) (owner : Option String)
    {identifier : Node → Option String} (h : ∀ n : Node, identifier n.outline = identifier n)
    (ns : List Node) :
    (ns.map Node.outline).filterMap (fun n => entry? library owner (identifier n) n) =
      (ns.filterMap fun n => entry? library owner (identifier n) n).map
        fun e => (e.1, e.2.outline) := by
  rw [List.filterMap_map, List.map_filterMap]
  refine congrArg (List.filterMap · ns) (funext fun n => ?_)
  rw [Function.comp_apply, h, entry?_outline]

theorem cIdentifier?_outline (n : Node) : n.outline.cIdentifier? = n.cIdentifier? := by
  rw [Node.outline_eq]
  rfl

theorem ofType_outline (library name : String) (t : RegisteredType) :
    ofType library name t.outline =
      (ofType library name t).map fun e => (e.1, e.2.outline) := by
  rw [ofType, ofType, ← filterMap_entry?_outline library (some name) cIdentifier?_outline,
    ← Node.hides_outline.filterKind isIndexed]
  rfl

theorem ofNamespace_outline (ns : Namespace) :
    ofNamespace ns.outline = (ofNamespace ns).map fun e => (e.1, e.2.outline) := by
  have hcType (n : Node) : n.outline.cType? = n.cType? := by
    rw [Node.outline_eq]
    rfl
  have htypes : (ns.outline.types.entries.flatMap fun e => ofType ns.name e.1 e.2) =
      (ns.types.entries.flatMap fun e => ofType ns.name e.1 e.2).map
        fun e => (e.1, e.2.outline) := by
    change (ns.types.entries.map fun e => (e.1, e.2.outline)).flatMap _ = _
    rw [List.flatMap_map, List.map_flatMap]
    exact List.flatMap_congr fun e _ => ofType_outline ns.name e.1 e.2
  rw [ofNamespace, ofNamespace, List.map_append, List.map_append,
    ← filterMap_entry?_outline ns.name none cIdentifier?_outline,
    ← filterMap_entry?_outline ns.name none hcType, ← htypes]
  rfl

end Symbol

def TypeEntry.outline (e : TypeEntry) : TypeEntry := { e with type := e.type.outline }

theorem TypeEntry.ofNamespace_outline (ns : Namespace) :
    ofNamespace ns.outline = (ofNamespace ns).map fun e => (e.1, e.2.outline) := by
  rw [ofNamespace, ofNamespace, Namespace.outline, Namespace.mapMembers, OrderedMap.values_map,
    List.filterMap_map,
    List.map_filterMap]
  refine congrArg (List.filterMap · _) (funext fun t => ?_)
  rw [Option.map_map]
  rfl

namespace SymbolTable

def outline (table : SymbolTable) : SymbolTable where
  libraries := table.libraries.map Namespace.outline
  naming := table.naming
  byIdentifier := table.byIdentifier.map Symbol.outline
  byNativeType := table.byNativeType.map TypeEntry.outline

theorem foldl_insertNew_map {α : Type u} (f : α → α) (l : List (String × α)) (m : OrderedMap α) :
    (l.map fun e => (e.1, f e.2)).foldl (fun m e => m.insertNew e.1 e.2) (m.map f) =
      (l.foldl (fun m e => m.insertNew e.1 e.2) m).map f := by
  induction l generalizing m with
  | nil => rfl
  | cons e l ih =>
    rw [List.map_cons, List.foldl_cons, List.foldl_cons, OrderedMap.insertNew_map, ih]

theorem add_outline (table : SymbolTable) (ns : Namespace) :
    table.outline.add ns.outline = (table.add ns).outline := by
  simp only [add, outline, Symbol.ofNamespace_outline, TypeEntry.ofNamespace_outline,
    foldl_insertNew_map]
  rw [← OrderedMap.insert_map]
  rfl

theorem build_outline (rs : List Repository) (naming : PackageNaming) :
    build (rs.map Repository.outline) naming = (build rs naming).outline := by
  have h (table : SymbolTable) :
      (rs.map Repository.outline).foldl (fun table r => table.add r.library) table.outline =
        (rs.foldl (fun table r => table.add r.library) table).outline := by
    induction rs generalizing table with
    | nil => rfl
    | cons r rs ih =>
      rw [List.map_cons, List.foldl_cons, List.foldl_cons, ← ih, ← add_outline]
      rfl
  exact h (empty naming)

theorem knows_of_mem {table : SymbolTable} (h : table.IsFiled) {ns : Namespace}
    (hns : ns ∈ table.namespaces) : table.Knows ns.name := by
  obtain ⟨⟨name, ns⟩, hentry, rfl⟩ := List.mem_map.1 hns
  have hget : table.namespace? name = some ns := OrderedMap.get?_eq_some_iff.2 hentry
  change (table.namespace? ns.name).isSome = true
  rw [h name ns hget, hget, Option.isSome_some]

theorem agreesFully_outline {table : SymbolTable} (h : table.IsFiled) :
    table.AgreesFully table.outline where
  naming := rfl
  finds name := by
    change Attempt.Finds _ _ (table.namespace? name) ((table.libraries.map _).get? name)
    rw [OrderedMap.get?_map]
    change Attempt.Finds _ _ (table.namespace? name) ((table.namespace? name).map _)
    cases table.namespace? name with
    | none => exact .missed
    | some ns => exact .found ns.sketch_outline.symm
  filed := h
  symbol? identifier := by
    change Attempt.Finds _ _ (table.symbol? identifier) ((table.byIdentifier.map _).get? identifier)
    rw [OrderedMap.get?_map]
    change Attempt.Finds _ _ (table.symbol? identifier) ((table.symbol? identifier).map _)
    cases table.symbol? identifier with
    | none => exact .missed
    | some y => exact .found (congrArg (Symbol.mk _ _ _) y.node.sketch_outline.symm)
  nativeType? name := by
    change Attempt.Finds _ _ (table.nativeType? name) ((table.byNativeType.map _).get? name)
    rw [OrderedMap.get?_map]
    change Attempt.Finds _ _ (table.nativeType? name) ((table.nativeType? name).map _)
    cases table.nativeType? name with
    | none => exact .missed
    | some e => exact .found (congrArg (TypeEntry.mk _) e.type.sketch_outline.symm)

end SymbolTable

/-- The platforms and lines inside members have no effect on a decision. -/
theorem compileRepositories_outline (o : Options) (rs : List Repository) :
    (compileRepositories o (rs.map Repository.outline)).1 = (compileRepositories o rs).1 := by
  have hfiled := SymbolTable.isFiled_build rs o.naming
  have hfull := SymbolTable.agreesFully_outline hfiled
  have hfiled' : (SymbolTable.build rs o.naming).outline.IsFiled := by
    rw [← SymbolTable.build_outline]
    exact SymbolTable.isFiled_build _ o.naming
  change SymbolTable.bind _ _ = SymbolTable.bind _ _
  rw [SymbolTable.build_outline]
  generalize SymbolTable.build rs o.naming = table at *
  have hnamespaces : table.outline.namespaces = table.namespaces.map Namespace.outline :=
    OrderedMap.values_map table.libraries Namespace.outline
  rw [SymbolTable.bind, SymbolTable.bind, hnamespaces, List.map_map]
  refine List.map_congr_left fun ns hns => ?_
  have hdecision : (BindingContext.bindNamespace ⟨table, ns⟩ (.build table)).mapDocs id =
      (BindingContext.bindNamespace ⟨table.outline, ns⟩ (.build table.outline)).mapDocs id :=
    BindingContext.bindNamespace_agrees hfull.toAgrees (SymbolTable.knows_of_mem hfiled hns)
      (Doc.Context.agrees_of_agreesFully hfull ns.name)
      (FloatingTable.get?_agrees hfull.toAgrees hfiled' ns.name)
  rw [NamespaceDecision.mapDocs_id, NamespaceDecision.mapDocs_id] at hdecision
  rw [Function.comp_apply, BindingContext.bindNamespace_outline, hdecision]

theorem toOption_compileSources (o : Options) (sources : List Source) :
    (compileSources o sources).toOption.map Prod.fst =
      ((readAll sources).toOption.bind fun rs => (Repository.mergeAll rs).toOption).map fun rs =>
        (compileRepositories o (Patch.applyAll o.allPatches rs).1).1 := by
  rw [compileSources, buildRepositories]
  cases readAll sources with
  | error e => rfl
  | ok rs =>
    change Option.map _ (Except.toOption ((Repository.mergeAll rs >>= _) >>= _)) =
      (Repository.mergeAll rs).toOption.map _
    cases Repository.mergeAll rs with
    | error e => rfl
    | ok merged => rfl

theorem nodup_names_of_readAll {sources : List Source} {merged : List Repository}
    (h : ((readAll sources).toOption.bind fun rs => (Repository.mergeAll rs).toOption) =
      some merged) (ps : List Patch) :
    ((Patch.applyAll ps merged).1.map (·.library.name)).Nodup := by
  obtain ⟨rs, -, h⟩ := Option.bind_eq_some_iff.1 h
  rw [Patch.names_applyAll]
  exact Repository.nodup_names_of_mergeAll (Attempt.toOption_eq_some_iff.1 h)

end GirBind
