import GirBind.Proofs.Declarations
import GirBind.Proofs.Gathering.Pass
import GirBind.Proofs.Reordering

namespace GirBind

def Source.describes (library : String) (s : Source) : Bool :=
  s.repository.toOption.any (·.library.name == library)

/-- Two lists of documents describe each library by the same documents in the same order. -/
def SameDescriptions (xs ys : List Source) : Prop :=
  ∀ library, xs.filter (Source.describes library) = ys.filter (Source.describes library)

variable {xs ys : List Source}

theorem Source.describes_eq {s : Source} {r : Repository} (h : s.repository = .ok r)
    (library : String) : s.describes library = (r.library.name == library) := by
  rw [describes, h]
  rfl

theorem describing_readAll {rs : List Repository} (h : readAll xs = .ok rs) (library : String) :
    Repository.describing library rs =
      (xs.filter (Source.describes library)).filterMap (·.repository.toOption) := by
  have hall := Attempt.mapM_eq_ok_iff.1 h
  clear h
  induction hall with
  | nil => rfl
  | @cons s r xs rs hr _ ih =>
    rw [Repository.describing, List.filter_cons, List.filter_cons, s.describes_eq hr]
    split
    case isTrue =>
      rw [List.filterMap_cons, hr]
      exact congrArg (r :: ·) ih
    case isFalse => exact ih

theorem exists_describes {rs : List Repository} (h : readAll xs = .ok rs) {s : Source}
    (hs : s ∈ xs) : ∃ library, s.describes library = true := by
  obtain ⟨r, hr⟩ := Attempt.mapM_isOk_iff.1 ⟨rs, h⟩ s hs
  exact ⟨r.library.name, (s.describes_eq hr _).trans (beq_self_eq_true r.library.name)⟩

theorem SameDescriptions.perm (h : SameDescriptions xs ys) {rs ss : List Repository}
    (hx : readAll xs = .ok rs) (hy : readAll ys = .ok ss) : xs.Perm ys := by
  classical
  rw [List.perm_iff_count]
  intro s
  by_cases hs : s ∈ xs ∨ s ∈ ys
  · obtain ⟨library, hlibrary⟩ := hs.elim (exists_describes hx) (exists_describes hy)
    calc xs.count s = (xs.filter (Source.describes library)).count s :=
          (List.count_filter hlibrary).symm
      _ = (ys.filter (Source.describes library)).count s := by rw [h library]
      _ = ys.count s := List.count_filter hlibrary
  · rw [not_or] at hs
    rw [List.count_eq_zero.2 hs.1, List.count_eq_zero.2 hs.2]

namespace Repository

theorem mem_of_mergeAll {rs ss merged merged' : List Repository} (hr : mergeAll rs = .ok merged)
    (hs : mergeAll ss = .ok merged')
    (h : ∀ library, describing library rs = describing library ss) {r : Repository}
    (hmem : r ∈ merged) : r ∈ merged' := by
  rw [← Attempt.toOption_eq_some_iff, mergeAll_toOption] at hr hs
  have hfind : gathering.find? r merged = gathering.find? r merged' :=
    (Gathering.find?_addAll hr r).trans
      ((congrArg gathering.joinAll (h r.library.name)).trans (Gathering.find?_addAll hs r).symm)
  rw [Gathering.find?_of_mem (Gathering.Distinct.addAll .nil hr) hmem] at hfind
  exact List.mem_of_find?_eq_some hfind.symm

theorem mergeAll_perm {rs ss merged merged' : List Repository} (hr : mergeAll rs = .ok merged)
    (hs : mergeAll ss = .ok merged')
    (h : ∀ library, describing library rs = describing library ss) : merged.Perm merged' := by
  have hnodup {rs merged : List Repository} (hr : mergeAll rs = .ok merged) : merged.Nodup :=
    (nodup_names_of_mergeAll hr).of_map _
  rw [List.perm_ext_iff_of_nodup (hnodup hr) (hnodup hs)]
  exact fun _ => ⟨mem_of_mergeAll hr hs h, mem_of_mergeAll hs hr fun library => (h library).symm⟩

theorem mergeAll_of_nodup {rs : List Repository} (h : (rs.map (·.library.name)).Nodup) :
    mergeAll rs = .ok rs := by
  have hdistinct : gathering.Distinct ([] ++ rs) :=
    (List.pairwise_map.1 h).imp fun hne => beq_eq_false_iff_ne.2 hne
  rw [← Attempt.toOption_eq_some_iff, mergeAll_toOption]
  exact Gathering.addAll_of_distinct hdistinct

end Repository

theorem Patch.applyAll_perm {rs ss : List Repository} (h : rs.Perm ss) (ps : List Patch) :
    (applyAll ps rs).1.Perm (applyAll ps ss).1 ∧ (applyAll ps rs).2 = (applyAll ps ss).2 := by
  induction ps generalizing rs ss with
  | nil => exact ⟨h, rfl⟩
  | cons p ps ih =>
    obtain ⟨hedited, hcount⟩ := ih (h.map fun r => { r with library := p.edit r.library })
    simp only [applyAll, applyEach_eq]
    exact ⟨hedited, by rw [hcount, h.countP_eq]⟩

theorem exists_of_compileSources {o : Options} {ds : List NamespaceDecision} {stats : Statistics}
    (h : compileSources o xs = .ok (ds, stats)) : ∃ rs merged built applied,
      readAll xs = .ok rs ∧ Repository.mergeAll rs = .ok merged ∧
      Patch.applyAll o.allPatches merged = (built, applied) ∧
      buildRepositories o xs = .ok (built, applied) ∧ ds = (compileRepositories o built).1 ∧
      stats = { (compileRepositories o built).2 with
        sourceSize := xs.foldl (fun n s => n + s.content.utf8ByteSize) 0
        documents := xs.length
        patchesApplied := applied } := by
  obtain ⟨⟨built, applied⟩, hbuild, h⟩ := Attempt.bind_eq_ok_iff.1 h
  obtain ⟨merged, hmerged, hedit⟩ := Attempt.bind_eq_ok_iff.1 hbuild
  obtain ⟨rs, hread, hmerged⟩ := Attempt.bind_eq_ok_iff.1 hmerged
  cases h
  exact ⟨rs, merged, built, applied, hread, hmerged, Except.ok.inj hedit, hbuild, rfl, rfl⟩

/-- Two runs that find the documents of each library in the same order decide the same, apart from
the order of libraries and what comments refer to. Comments are the same as well if no two
libraries declare the same native name. -/
theorem decisions_of_sameDescriptions {o : Options} (h : SameDescriptions xs ys)
    {ds es : List NamespaceDecision} {stats stats' : Statistics}
    (hx : compileSources o xs = .ok (ds, stats)) (hy : compileSources o ys = .ok (es, stats')) :
    (ds.map NamespaceDecision.name).Nodup ∧
      (ds.map (·.mapDocs .blank)).Perm (es.map (·.mapDocs .blank)) ∧
      stats.withoutDocMisses = stats'.withoutDocMisses ∧
      ∀ built applied, buildRepositories o xs = .ok (built, applied) →
        Repository.NamesApart built → ds.Perm es ∧ stats = stats' := by
  obtain ⟨rs, merged, built, applied, hread, hmerged, hedit, hbuild, rfl, rfl⟩ :=
    exists_of_compileSources hx
  obtain ⟨ss, merged', built', applied', hread', hmerged', hedit', -, rfl, rfl⟩ :=
    exists_of_compileSources hy
  have hsources := h.perm hread hread'
  have hmerge : merged.Perm merged' := Repository.mergeAll_perm hmerged hmerged' fun library => by
    rw [describing_readAll hread, describing_readAll hread', h library]
  have hpatches := Patch.applyAll_perm hmerge o.allPatches
  rw [hedit, hedit'] at hpatches
  obtain ⟨hbuilt, rfl : applied = applied'⟩ := hpatches
  have hnames : (built.map (·.library.name)).Nodup := by
    have happlied := Patch.names_applyAll o.allPatches merged
    rw [hedit] at happlied
    exact happlied ▸ Repository.nodup_names_of_mergeAll hmerged
  obtain ⟨hdecisions, hstats, hapart⟩ := compileRepositories_perm hbuilt hnames o
  have hsize := foldl_add_perm hsources fun s : Source => s.content.utf8ByteSize
  refine ⟨?_, hdecisions, ?_, ?_⟩
  · change ((SymbolTable.bind _ _).map _).Nodup
    rw [SymbolTable.bind_build hnames, List.map_map]
    exact hnames
  · rw [hsize, hsources.length_eq]
    exact congrArg (fun counts : Statistics => { counts with
      sourceSize := ys.foldl (fun n (s : Source) => n + s.content.utf8ByteSize) 0
      documents := ys.length
      patchesApplied := applied }) hstats
  · intro built' applied' hbuild' hnamesApart
    rw [hbuild] at hbuild'
    cases hbuild'
    obtain ⟨hsame, hstats⟩ := hapart hnamesApart
    exact ⟨hsame, by rw [hstats, hsize, hsources.length_eq]⟩

/-- Documents of different libraries can be found in any order. -/
theorem SameDescriptions.swap {s t : Source} {q r : Repository} (hs : s.repository = .ok q)
    (ht : t.repository = .ok r) (hne : q.library.name ≠ r.library.name) :
    SameDescriptions [s, t] [t, s] := by
  intro library
  simp only [List.filter_cons, List.filter_nil, s.describes_eq hs, t.describes_eq ht, beq_iff_eq]
  split
  case isTrue hlibrary => rw [← hlibrary, if_neg hne.symm, if_neg hne.symm]
  case isFalse => rfl

theorem buildRepositories_of_nodup (o : Options) {rs : List Repository}
    (hread : readAll xs = .ok rs) (hnames : (rs.map (·.library.name)).Nodup) :
    buildRepositories o xs = .ok (Patch.applyAll o.allPatches rs) := by
  rw [buildRepositories, hread]
  exact Attempt.bind_eq_ok_iff.2 ⟨rs, Repository.mergeAll_of_nodup hnames, rfl⟩

theorem exists_compileSources {o : Options} {built : List Repository × Nat}
    (h : buildRepositories o xs = .ok built) :
    ∃ ds stats, compileSources o xs = .ok (ds, stats) :=
  ⟨_, _, Attempt.bind_eq_ok_iff.2 ⟨built, h, rfl⟩⟩

def firstSource : Source :=
  ⟨"a", .all, "<repository><namespace name='A'><function name='f' c:identifier='a_f'/></namespace>
</repository>"⟩

def secondSource : Source :=
  ⟨"b", .all, "<repository><namespace name='B'><function name='f' c:identifier='b_f'/></namespace>
</repository>"⟩

def Repository.names (r : Repository) : String × List String × List String :=
  (r.library.name, (Symbol.ofNamespace r.library).map Prod.fst,
    (TypeEntry.ofNamespace r.library).map Prod.fst)

theorem decisions_of_swappedSources : ∃ ds es stats stats',
    compileSources { Options.default with defaultPatches := false } [firstSource, secondSource] =
      .ok (ds, stats) ∧
    compileSources { Options.default with defaultPatches := false } [secondSource, firstSource] =
      .ok (es, stats') ∧
    ds.Perm es ∧ stats = stats' := by
  have hfirst : firstSource.repository.toOption.map Repository.names = some ("A", ["a_f"], []) := by
    decide +kernel
  have hsecond : secondSource.repository.toOption.map Repository.names =
      some ("B", ["b_f"], []) := by
    decide +kernel
  obtain ⟨r, hr, hrnames⟩ := Option.map_eq_some_iff.1 hfirst
  obtain ⟨s, hs, hsnames⟩ := Option.map_eq_some_iff.1 hsecond
  rw [Attempt.toOption_eq_some_iff] at hr hs
  simp only [Repository.names, Prod.mk.injEq] at hrnames hsnames
  obtain ⟨hrname, hrsymbols, hrtypes⟩ := hrnames
  obtain ⟨hsname, hssymbols, hstypes⟩ := hsnames
  have hne : r.library.name ≠ s.library.name := by
    rw [hrname, hsname]
    decide
  have hx := buildRepositories_of_nodup { Options.default with defaultPatches := false }
    (Attempt.mapM_eq_ok_iff.2 (.cons hr (.cons hs .nil))) (List.pairwise_pair.2 hne)
  have hy := buildRepositories_of_nodup { Options.default with defaultPatches := false }
    (Attempt.mapM_eq_ok_iff.2 (.cons hs (.cons hr .nil))) (List.pairwise_pair.2 hne.symm)
  obtain ⟨ds, stats, hds⟩ := exists_compileSources hx
  obtain ⟨es, stats', hes⟩ := exists_compileSources hy
  obtain ⟨-, -, -, hapart⟩ := decisions_of_sameDescriptions (.swap hr hs hne) hds hes
  refine ⟨ds, es, stats, stats', hds, hes, hapart [r, s] 0 hx ?_⟩
  rw [Repository.NamesApart, List.pairwise_pair, hrsymbols, hssymbols, hrtypes, hstypes]
  exact ⟨List.singleton_disjoint.2 (by decide), List.disjoint_nil_left _⟩

end GirBind
