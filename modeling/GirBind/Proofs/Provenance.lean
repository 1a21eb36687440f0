import GirBind.Proofs.Accounting
import GirBind.Proofs.DiscoveryOrder
import GirBind.Proofs.MergedLibraries

namespace GirBind

/-- A namespace of the same version with no declarations but those of another. -/
structure Namespace.IsPartOf (ns whole : Namespace) : Prop where
  version : ns.version = whole.version
  types : ns.types.keys ⊆ whole.types.keys
  functions : ns.functions ⊆ whole.functions
  constants : ns.constants ⊆ whole.constants

namespace Namespace.IsPartOf

variable {a b c : Namespace}

theorem refl (ns : Namespace) : ns.IsPartOf ns :=
  ⟨rfl, List.Subset.refl _, List.Subset.refl _, List.Subset.refl _⟩

theorem trans (h : a.IsPartOf b) (h' : b.IsPartOf c) : a.IsPartOf c :=
  ⟨h.version.trans h'.version, List.Subset.trans h.types h'.types,
    List.Subset.trans h.functions h'.functions, List.Subset.trans h.constants h'.constants⟩

end Namespace.IsPartOf

namespace Patch

theorem isPartOf_edit (p : Patch) (ns : Namespace) : (p.edit ns).IsPartOf ns := by
  unfold edit
  split
  case isTrue =>
    have hmembers (type : String) (f : List Node → List Node) :
        (editMembers ns type f).IsPartOf ns :=
      ⟨rfl, fun _ hkey => OrderedMap.keys_modify ns.types type _ ▸ hkey, List.Subset.refl _,
        List.Subset.refl _⟩
    cases p with
    | removeType library name =>
      exact ⟨rfl, List.map_subset _ (List.filter_subset_self _), List.Subset.refl _,
        List.Subset.refl _⟩
    | removeFunction library name =>
      exact ⟨rfl, List.Subset.refl _, List.filter_subset_self _, List.Subset.refl _⟩
    | removeMethod library type name => exact hmembers type _
    | renameMethod library type old new => exact hmembers type _
    | removeConstant library name =>
      exact ⟨rfl, List.Subset.refl _, List.Subset.refl _, List.filter_subset_self _⟩
  case isFalse => exact .refl ns

theorem isPartOf_editAll (ps : List Patch) (ns : Namespace) : (editAll ps ns).IsPartOf ns := by
  induction ps generalizing ns with
  | nil => exact .refl ns
  | cons p ps ih => exact (ih (p.edit ns)).trans (isPartOf_edit p ns)

end Patch

/-- Every decision is about something that one of the descriptions declares. -/
structure NamespaceDecision.IsMadeFrom (rs : List Repository) (d : NamespaceDecision) : Prop where
  types : ∀ t ∈ d.types, ∃ r ∈ rs, t.name ∈ r.library.types.keys
  functions : ∀ f ∈ d.functions, ∃ r ∈ rs, ∃ n ∈ r.library.functions, f.name = n.name
  constants : ∀ c ∈ d.constants, ∃ r ∈ rs, ∃ n ∈ r.library.constants, c.name = n.name

theorem Ledger.exists_of_mem {α : Type u} {δ : Type v}
    {Entry : α → List δ → List SkippedDeclaration → Prop} {l : List α} {ds : List δ}
    {skipped : List SkippedDeclaration} (h : Ledger Entry l ds skipped) {d : δ} (hd : d ∈ ds) :
    ∃ a ∈ l, ∃ first left, Entry a first left ∧ d ∈ first := by
  induction h with
  | nil => cases hd
  | @cons a l first rest left more ha _ ih =>
    rcases List.mem_append.1 hd with hd | hd
    · exact ⟨a, List.mem_cons_self, first, left, ha, hd⟩
    · obtain ⟨b, hb, hentry⟩ := ih hd
      exact ⟨b, List.mem_cons_of_mem a hb, hentry⟩

theorem Outcome.isFor_of_mem {α : Type u} {δ : Type v} {IsFor : α → δ → Prop} {name : α → String}
    {a : α} {ds : List δ} {skipped : List SkippedDeclaration}
    (h : Outcome IsFor name a ds skipped) {d : δ} (hd : d ∈ ds) : IsFor a d := by
  cases h with
  | decided h => exact List.mem_singleton.1 hd ▸ h
  | skipped => cases hd

theorem TypeOutcome.name_of_mem {e : String × RegisteredType} {ds : List TypeDecision}
    {skipped : List SkippedDeclaration} (h : TypeOutcome e ds skipped) {d : TypeDecision}
    (hd : d ∈ ds) : d.name = e.1 := by
  cases h with
  | decided hname => exact List.mem_singleton.1 hd ▸ hname
  | skipped => cases hd

namespace Repository

variable {first r : Repository} {rest : List Repository}

theorem IsUnion.exists_type (h : IsUnion first rest r) {key : String}
    (hkey : key ∈ r.library.types.keys) : ∃ s ∈ first :: rest, key ∈ s.library.types.keys := by
  rw [h.keys, List.mem_eraseDups] at hkey
  exact List.mem_flatMap.1 hkey

theorem exists_of_mem_unite {f : Namespace → List Node} {n : Node}
    (hn : n ∈ Node.unite (f first.library) (rest.flatMap (f ·.library))) :
    ∃ s ∈ first :: rest, ∃ m ∈ f s.library, n.name = m.name := by
  obtain ⟨m, hm, -, hname⟩ := Node.exists_of_mem_unite hn
  rw [← List.flatMap_cons (f := fun s : Repository => f s.library)] at hm
  obtain ⟨s, hs, hm⟩ := List.mem_flatMap.1 hm
  refine ⟨s, hs, m, hm, ?_⟩
  rw [Node.name, Node.name, hname]

theorem version_of_joinAll (h : gathering.joinAll (first :: rest) = some r) :
    r.library.version = first.library.version := by
  refine Gathering.joinAll_eq_of_join (f := fun r : Repository => r.library.version) ?_ h
  intro a b c hc
  obtain ⟨ns, hns, rfl⟩ := Option.map_eq_some_iff.1 ((merge_toOption a b).symm.trans hc)
  rw [Namespace.merge_toOption] at hns
  split at hns
  case isTrue =>
    obtain ⟨types, -, rfl⟩ := Option.map_eq_some_iff.1 hns
    rfl
  case isFalse => cases hns

/-- A merged library is what its own descriptions alone become. -/
theorem mergeAll_describing {rs merged : List Repository} (h : mergeAll rs = .ok merged)
    (hr : r ∈ merged) : mergeAll (describing r.library.name rs) = .ok [r] := by
  have hjoin := joinAll_of_mergeAll h hr
  rw [← Attempt.toOption_eq_some_iff, mergeAll_toOption]
  have hname : ∀ s ∈ describing r.library.name rs, s.library.name = r.library.name :=
    fun s hs => eq_of_beq (List.mem_filter.1 hs).2
  cases hd : describing r.library.name rs with
  | nil => rw [hd] at hjoin; cases hjoin
  | cons first rest =>
    rw [hd] at hjoin hname
    obtain ⟨hfirst, hrest⟩ := List.forall_mem_cons.1 hname
    rw [Gathering.addAll_of_same fun s hs => beq_iff_eq.2 (hfirst.trans (hrest s hs).symm), hjoin]
    rfl

theorem IsUnion.isMadeFrom (h : IsUnion first rest r) {ns : Namespace}
    (hns : ns.IsPartOf r.library) {d : NamespaceDecision} (hd : d.Accounts ns) :
    d.IsMadeFrom (first :: rest) := by
  obtain ⟨_, _, _, htypes, hfunctions, hconstants, -⟩ := hd.declarations
  refine ⟨?_, ?_, ?_⟩
  · intro t ht
    obtain ⟨e, he, _, _, hentry, ht⟩ := htypes.exists_of_mem ht
    rw [hentry.name_of_mem ht]
    exact h.exists_type (hns.types (List.mem_map_of_mem he))
  · intro f hf
    obtain ⟨n, hn, _, _, hentry, hf⟩ := hfunctions.exists_of_mem hf
    rw [(hentry.isFor_of_mem hf).1]
    exact exists_of_mem_unite (f := Namespace.functions) (h.functions ▸ hns.functions hn)
  · intro c hc
    obtain ⟨n, hn, _, _, hentry, hc⟩ := hconstants.exists_of_mem hc
    rw [hentry.isFor_of_mem hc]
    exact exists_of_mem_unite (f := Namespace.constants) (h.constants ▸ hns.constants hn)

end Repository

/-- A namespace goes by its name alone. Each decision is made from the documents of one name, all of
them and no others, whatever their versions. The version is that of the first one. -/
theorem names_of_compileSources {o : Options} {sources : List Source}
    {ds : List NamespaceDecision} {stats : Statistics}
    (h : compileSources o sources = .ok (ds, stats)) :
    ∃ rs, readAll sources = .ok rs ∧
      ds.map NamespaceDecision.name = (rs.map (·.library.name)).eraseDups ∧
      ∀ d ∈ ds, ∃ first rest r, Repository.describing d.name rs = first :: rest ∧
        Repository.mergeAll (first :: rest) = .ok [r] ∧
        d.Accounts (Patch.editAll o.allPatches r.library) ∧
        d.IsMadeFrom (first :: rest) ∧ d.version = first.library.version := by
  obtain ⟨rs, merged, built, applied, hread, hmerged, hedit, hbuild, rfl, -⟩ :=
    exists_of_compileSources h
  have hbuilt : built = merged.map fun r =>
      { r with library := Patch.editAll o.allPatches r.library } := by
    rw [← Patch.applyAll_fst, hedit]
  have hnames : built.map (·.library.name) = merged.map (·.library.name) := by
    rw [← Patch.names_applyAll o.allPatches merged, hedit]
  have hnodup : (built.map (·.library.name)).Nodup :=
    hnames ▸ Repository.nodup_names_of_mergeAll hmerged
  have hds := SymbolTable.bind_build hnodup o.naming (.build (.build built o.naming))
  refine ⟨rs, hread, ?_, ?_⟩
  · change List.map _ (SymbolTable.bind _ _) = _
    rw [hds, List.map_map, ← Repository.names_of_mergeAll hmerged, ← hnames]
    rfl
  · intro d hd
    change d ∈ SymbolTable.bind _ _ at hd
    rw [hds, List.mem_map] at hd
    obtain ⟨b, hb, rfl⟩ := hd
    have haccounts := BindingContext.bindNamespace_accounts
      ⟨.build built o.naming, b.library⟩ (.build (.build built o.naming))
      (Repository.Derived.of_buildRepositories hbuild b hb).isFiled
    obtain ⟨r, hr, rfl⟩ := List.mem_map.1 (hbuilt ▸ hb)
    have hname : (Patch.editAll o.allPatches r.library).name = r.library.name :=
      Patch.name_editAll o.allPatches r.library
    have hpart := Patch.isPartOf_editAll o.allPatches r.library
    obtain ⟨first, rest, hrs, hunion⟩ := Repository.isUnion_of_mergeAll hmerged hr
    have hjoin := hrs ▸ Repository.joinAll_of_mergeAll hmerged hr
    refine ⟨first, rest, r, ?_, hrs ▸ Repository.mergeAll_describing hmerged hr, haccounts,
      hunion.isMadeFrom hpart haccounts,
      hpart.version.trans (Repository.version_of_joinAll hjoin)⟩
    rw [← hrs, ← hname]
    rfl

def oldVersion : Source :=
  ⟨"a", .all, "<repository><namespace name='Gtk' version='3.0'><class name='A'/></namespace>
</repository>"⟩

def newVersion : Source :=
  ⟨"b", .all, "<repository><namespace name='Gtk' version='4.0'><class name='B'/></namespace>
</repository>"⟩

theorem tokens_oldVersion : Markup.tokens oldVersion.content = .ok [
    ⟨.startTag "repository" [] false, ⟨1, 1⟩⟩,
    ⟨.startTag "namespace" [("name", "Gtk"), ("version", "3.0")] false, ⟨1, 13⟩⟩,
    ⟨.startTag "class" [("name", "A")] true, ⟨1, 49⟩⟩, ⟨.endTag "namespace", ⟨1, 66⟩⟩,
    ⟨.text "\n", ⟨1, 78⟩⟩, ⟨.endTag "repository", ⟨2, 1⟩⟩, ⟨.endOfInput, ⟨2, 14⟩⟩] :=
  (Markup.tokens_ofList _).trans (Attempt.toOption_eq_some_iff.1 (by decide +kernel))

theorem tokens_newVersion : Markup.tokens newVersion.content = .ok [
    ⟨.startTag "repository" [] false, ⟨1, 1⟩⟩,
    ⟨.startTag "namespace" [("name", "Gtk"), ("version", "4.0")] false, ⟨1, 13⟩⟩,
    ⟨.startTag "class" [("name", "B")] true, ⟨1, 49⟩⟩, ⟨.endTag "namespace", ⟨1, 66⟩⟩,
    ⟨.text "\n", ⟨1, 78⟩⟩, ⟨.endTag "repository", ⟨2, 1⟩⟩, ⟨.endOfInput, ⟨2, 14⟩⟩] :=
  (Markup.tokens_ofList _).trans (Attempt.toOption_eq_some_iff.1 (by decide +kernel))

theorem decisions_of_versions : ∃ r s ds stats, readAll [oldVersion, newVersion] = .ok [r, s] ∧
    compileSources .default [oldVersion, newVersion] = .ok (ds, stats) ∧
    [r, s].map (fun r => (r.library.name, r.library.version, r.library.types.keys)) =
      [("Gtk", "3.0", ["A"]), ("Gtk", "4.0", ["B"])] ∧
    ds.map (fun d => (d.name, d.version, d.types.map TypeDecision.name)) =
      [("Gtk", "3.0", ["A", "B"])] := by
  have hrun : ∃ r s, readAll [oldVersion, newVersion] = .ok [r, s] ∧
      [r, s].map (fun r => (r.library.name, r.library.version, r.library.types.keys)) =
        [("Gtk", "3.0", ["A"]), ("Gtk", "4.0", ["B"])] ∧
      (compileSources .default [oldVersion, newVersion]).toOption.map (fun out =>
        out.1.map fun d => (d.name, d.version, d.types.map TypeDecision.name)) =
        some [("Gtk", "3.0", ["A", "B"])] := by
    rw [compileSources, buildRepositories, readAll, List.mapM_cons, List.mapM_cons,
      Source.repository, Source.root, tokens_oldVersion, Source.repository, Source.root,
      tokens_newVersion]
    exact ⟨_, _, rfl, by decide +kernel, by decide +kernel⟩
  obtain ⟨r, s, hread, hrs, hrun⟩ := hrun
  obtain ⟨⟨ds, stats⟩, hcompile, hds⟩ := Option.map_eq_some_iff.1 hrun
  exact ⟨r, s, ds, stats, hread, Attempt.toOption_eq_some_iff.1 hcompile, hrs, hds⟩

theorem names_of_versions : ∃ rs ds stats, readAll [oldVersion, newVersion] = .ok rs ∧
    compileSources .default [oldVersion, newVersion] = .ok (ds, stats) ∧
    ds.map NamespaceDecision.name = ["Gtk"] ∧
    ∀ d ∈ ds, ∃ first rest r, Repository.describing d.name rs = first :: rest ∧
      Repository.mergeAll (first :: rest) = .ok [r] ∧
      d.Accounts (Patch.editAll Patch.defaults r.library) ∧
      d.IsMadeFrom (first :: rest) ∧ d.version = first.library.version := by
  obtain ⟨r, s, ds, stats, hread, hcompile, -, hds⟩ := decisions_of_versions
  obtain ⟨rs, hread', -, hall⟩ := names_of_compileSources hcompile
  refine ⟨rs, ds, stats, hread', hcompile, ?_, hall⟩
  have hnames := congrArg (List.map Prod.fst) hds
  rwa [List.map_map] at hnames

/-- One decision can hold declarations of documents of different versions. -/
theorem exists_mixed_versions : ¬ ∀ (o : Options) (sources : List Source) (rs : List Repository)
    (ds : List NamespaceDecision) (stats : Statistics), readAll sources = .ok rs →
    compileSources o sources = .ok (ds, stats) → ∀ d ∈ ds,
      d.IsMadeFrom
        (rs.filter fun r => r.library.name == d.name && r.library.version == d.version) := by
  intro hall
  obtain ⟨r, s, ds, stats, hread, hcompile, hrs, hds⟩ := decisions_of_versions
  obtain ⟨d, rfl, hd⟩ := List.map_eq_singleton_iff.1 hds
  simp only [Prod.mk.injEq] at hd
  obtain ⟨hname, hversion, htypes⟩ := hd
  have hmade := hall .default _ _ _ _ hread hcompile d (List.mem_singleton_self d)
  simp only [List.map_cons, List.map_nil, List.cons.injEq, Prod.mk.injEq, and_true] at hrs
  obtain ⟨⟨hrname, hrversion, hrkeys⟩, hsname, hsversion, -⟩ := hrs
  have hsecond : "B" ∈ d.types.map TypeDecision.name := by
    rw [htypes]
    decide
  obtain ⟨t, ht, hB⟩ := List.mem_map.1 hsecond
  obtain ⟨u, hu, hkey⟩ := hmade.types t ht
  rw [hname, hversion, List.mem_filter, Bool.and_eq_true, beq_iff_eq, beq_iff_eq] at hu
  obtain ⟨hu, -, huversion⟩ := hu
  rw [hB] at hkey
  rcases List.mem_pair.1 hu with rfl | rfl
  · rw [hrkeys] at hkey
    exact absurd hkey (by decide)
  · rw [hsversion] at huversion
    exact absurd huversion (by decide)

end GirBind
