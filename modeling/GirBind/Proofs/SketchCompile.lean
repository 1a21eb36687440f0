import GirBind.Proofs.OutlineCompile
import GirBind.Proofs.SketchMerge

namespace GirBind

theorem Node.unedited_sketch : Unedited sketch where
  kind := hides_sketch.memberKind
  attributes n := by rw [sketch, outline_eq, mute_eq]
  withAttributes n a := by rw [sketch, sketch, outline_eq, outline_eq, mute_eq, mute_eq]

namespace Patch

/-- An edit is never about the declarations that are not bound. -/
theorem edit_withOther (p : Patch) (ns : Namespace) (other : List Node) :
    p.edit { ns with other } = { p.edit ns with other } := by
  unfold edit
  by_cases hname : ns.name = p.library
  · rw [if_pos hname, if_pos hname]
    cases p with
    | _ => rfl
  · rw [if_neg hname, if_neg hname]

theorem editAll_sketch (ps : List Patch) (ns : Namespace) :
    editAll ps ns.sketch = (editAll ps ns).sketch := by
  induction ps generalizing ns with
  | nil => rfl
  | cons p ps ih =>
    rw [editAll, List.foldl_cons, Namespace.sketch, edit_withOther,
      edit_mapMembers Node.unedited_sketch]
    exact ih (p.edit ns)

theorem applyAll_sketch (ps : List Patch) (rs : List Repository) :
    (applyAll ps (rs.map Repository.sketch)).1 = (applyAll ps rs).1.map Repository.sketch := by
  rw [applyAll_fst, applyAll_fst, List.map_map, List.map_map]
  refine List.map_congr_left fun r _ => ?_
  exact congrArg (Repository.mk r.includes r.packages r.cIncludes · r.platforms)
    (editAll_sketch ps r.library)

end Patch

def NamespaceDecision.withoutDocs (d : NamespaceDecision) : NamespaceDecision :=
  d.editDocs fun _ => none

theorem NamespaceDecision.withoutDocs_mapDocs (f : Doc.Converted → Doc.Converted)
    (d : NamespaceDecision) : (d.mapDocs f).withoutDocs = d.withoutDocs := by
  simp only [withoutDocs, editDocs, mapDocs, List.map_map, Function.comp_def, TypeDecision.editDocs,
    TypeDecision.mapDocs, Option.map_map, EnumerationDecision.editDocs, EnumerationDecision.mapDocs,
    EnumMemberDecision.editDoc, EnumMemberDecision.mapDoc, MemberDecision.editDoc,
    MemberDecision.mapDoc, ConstantDecision.editDoc, ConstantDecision.mapDoc]

theorem BindingContext.bindNamespace_sketch (table : SymbolTable) (ns : Namespace)
    (floating : FloatingTable) :
    (bindNamespace ⟨table, ns.sketch⟩ floating).withoutDocs =
      (bindNamespace ⟨table, ns⟩ floating).withoutDocs :=
  bindNamespace_mapMembers Node.hides_sketch Doc.follows_none table ns floating

namespace SymbolTable

theorem libraries_build_sketch {rs : List Repository} (h : (rs.map (·.library.name)).Nodup)
    (naming : PackageNaming) : (build (rs.map Repository.sketch) naming).libraries =
      (build rs naming).libraries.map Namespace.sketch := by
  have hnames : ((rs.map Repository.sketch).map (·.library.name)).Nodup := by
    rwa [List.map_map]
  apply OrderedMap.ext_entries
  rw [entries_build hnames, OrderedMap.entries_map, entries_build h, List.map_map, List.map_map]
  rfl

theorem agrees_sketch {rs : List Repository} (h : (rs.map (·.library.name)).Nodup)
    (naming : PackageNaming) :
    (build rs naming).Agrees False (build (rs.map Repository.sketch) naming) where
  naming := (naming_build rs naming).trans (naming_build (rs.map Repository.sketch) naming).symm
  finds name := by
    rw [namespace?, namespace?, libraries_build_sketch h, OrderedMap.get?_map]
    cases (build rs naming).libraries.get? name with
    | none => exact .missed
    | some ns => exact .found ns.sketch_sketch.symm
  filed := isFiled_build rs naming

end SymbolTable

/-- The documentation that descriptions still have once they are merged has no effect but on
comments. -/
theorem compileRepositories_sketch (o : Options) {rs : List Repository}
    (h : (rs.map (·.library.name)).Nodup) :
    (compileRepositories o (rs.map Repository.sketch)).1.map NamespaceDecision.withoutDocs =
      (compileRepositories o rs).1.map NamespaceDecision.withoutDocs := by
  have hnames : ((rs.map Repository.sketch).map (·.library.name)).Nodup := by
    rwa [List.map_map]
  have hagrees := SymbolTable.agrees_sketch h o.naming
  have hfiled := SymbolTable.isFiled_build (rs.map Repository.sketch) o.naming
  change (SymbolTable.bind _ _).map _ = (SymbolTable.bind _ _).map _
  rw [SymbolTable.bind, SymbolTable.bind, SymbolTable.namespaces_build hnames,
    SymbolTable.namespaces_build h]
  simp only [List.map_map]
  refine List.map_congr_left fun r hr => ?_
  simp only [Function.comp_apply]
  generalize SymbolTable.build (rs.map Repository.sketch) o.naming = table' at *
  have hknows : (SymbolTable.build rs o.naming).Knows r.library.name := by
    refine SymbolTable.knows_of_mem (SymbolTable.isFiled_build rs o.naming) ?_
    rw [SymbolTable.namespaces_build h]
    exact List.mem_map_of_mem hr
  have hdecision := BindingContext.bindNamespace_agrees hagrees hknows
    (Doc.Context.agrees_blank ⟨_, r.library.name⟩ ⟨table', r.library.name⟩)
    (FloatingTable.get?_agrees hagrees hfiled r.library.name)
  have hplain := congrArg NamespaceDecision.withoutDocs hdecision
  rw [NamespaceDecision.withoutDocs_mapDocs, NamespaceDecision.withoutDocs_mapDocs] at hplain
  exact (BindingContext.bindNamespace_sketch table' r.library _).trans hplain.symm

end GirBind
