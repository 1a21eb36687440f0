import GirBind.Proofs.OutlineCompile
import GirBind.Proofs.Repetition

namespace GirBind

namespace Node

theorem outline_congr {m n : Node} (h : m.bare = n.bare) (hp : m.platforms = n.platforms) :
    m.outline = n.outline := by
  rw [outline, outline, h, hp]

theorem bare_withOwnPlatforms (n : Node) (p : PlatformSet) :
    (n.withOwnPlatforms p).bare = n.bare := by
  rw [bare_eq, bare_eq]
  rfl

variable {p q : PlatformSet}

theorem platforms_withPlatforms (p : PlatformSet) (n : Node) :
    (n.withPlatforms p).platforms = p := by
  rw [withPlatforms_eq]

/-- Two copies of different members, one for each platform, are united member by member. -/
theorem unite_copies {ms : List Node} (hd : gathering.Distinct ms) :
    (unite (ms.map (withPlatforms p)) (ms.map (withPlatforms q))).map outline =
      (ms.map (withPlatforms (p ∪ q))).map outline := by
  have hsame (φ ψ : Node → Node) (hφ : ∀ n, sameShape (φ n) n = true)
      (hψ : ∀ n, sameShape (ψ n) n = true) (n : Node) : sameMember (φ n) (ψ n) = true :=
    sameMember_of_sameShape (sameShape_trans (hφ n) (sameShape_symm (hψ n)))
  have hcopies : gathering.Distinct (ms.map (withPlatforms p)) :=
    List.pairwise_map.2 (hd.imp fun {m n} h =>
      (sameMember_map (sameShape_withPlatforms p) m n).trans h)
  have hunite := Gathering.addAll_map_map (g := gathering)
    (w := fun m => (m.withPlatforms p).withOwnPlatforms (p ∪ q)) hcopies
    (fun m _ => hsame _ _ (sameShape_withPlatforms p) (sameShape_withPlatforms q) m)
    fun m _ => by
      change some _ = some _
      rw [platforms_withPlatforms, platforms_withPlatforms]
  rw [addAll_eq_unite] at hunite
  rw [Option.some.inj hunite, List.map_map, List.map_map]
  refine List.map_congr_left fun m _ => outline_congr ?_ (platforms_withPlatforms _ m).symm
  rw [bare_withOwnPlatforms, bare_withPlatforms, bare_withPlatforms]

theorem sameFields_copies (p q : PlatformSet) (n : Node) :
    sameFields (n.withPlatforms p) (n.withPlatforms q) = true := by
  have hfields (p : PlatformSet) :
      sameShapes ((n.withPlatforms p).childrenOf .field) (n.childrenOf .field) = true := by
    have hkind : ((·.kind == .field) ∘ withPlatforms p : Node → Bool) = (·.kind == .field) := by
      funext m
      rw [Function.comp_apply, withPlatforms_eq]
    rw [withPlatforms_eq, childrenOf, List.filter_map, hkind]
    exact sameShapes_map_left fun m _ => sameShape_withPlatforms p m
  exact sameShapes_trans (hfields p) (sameShapes_symm (hfields q))

theorem mergeAs_copies {n : Node} (hd : gathering.Distinct n.children) (v : Variant) :
    ((n.withPlatforms p).mergeAs v (n.withPlatforms q)).mapMembers outline =
      (n.withPlatforms (p ∪ q)).mapMembers outline := by
  have hmerge : ((n.withPlatforms p).merge (n.withPlatforms q)).mapMembers outline =
      (n.withPlatforms (p ∪ q)).mapMembers outline := by
    simp only [merge, mapMembers, withPlatforms_eq, unite_copies hd]
  rw [mergeAs, mergeRecord_of_sameFields (sameFields_copies p q n), ite_self, hmerge]

end Node

/-- No two members of a namespace, and no two children of a type in it, are the same member. -/
structure Namespace.HasDistinctMembers (ns : Namespace) : Prop where
  types : ∀ t ∈ ns.types.values, Node.gathering.Distinct t.node.children
  functions : Node.gathering.Distinct ns.functions
  constants : Node.gathering.Distinct ns.constants
  other : Node.gathering.Distinct ns.other

instance (ns : Namespace) : Decidable ns.HasDistinctMembers :=
  decidable_of_iff ((∀ t ∈ ns.types.values, Node.gathering.Distinct t.node.children) ∧
      Node.gathering.Distinct ns.functions ∧ Node.gathering.Distinct ns.constants ∧
      Node.gathering.Distinct ns.other)
    ⟨fun ⟨htypes, hfunctions, hconstants, hother⟩ => ⟨htypes, hfunctions, hconstants, hother⟩,
      fun h => ⟨h.types, h.functions, h.constants, h.other⟩⟩

variable {p q : PlatformSet}

theorem Namespace.mergeTypes_copies {types : OrderedMap RegisteredType}
    (hd : ∀ t ∈ types.values, Node.gathering.Distinct t.node.children) :
    ∃ merged,
      (mergeTypes (types.map (·.withPlatforms p)) (types.map (·.withPlatforms q))).toOption =
        some merged ∧
      merged.map RegisteredType.outline =
        (types.map (·.withPlatforms (p ∪ q))).map RegisteredType.outline := by
  have hadd : RegisteredType.gathering.addAll
      (types.entries.map fun e => (e.1, e.2.withPlatforms p))
      (types.entries.map fun e => (e.1, e.2.withPlatforms q)) =
        some (types.entries.map fun e => (e.1, ⟨e.2.variant,
          (e.2.node.withPlatforms p).mergeAs e.2.variant (e.2.node.withPlatforms q)⟩)) := by
    refine Gathering.addAll_map_map (distinct_types (types.map (·.withPlatforms p)))
      (fun e _ => beq_self_eq_true e.1) fun e _ => ?_
    change Option.map _ (RegisteredType.merge _ _).toOption = _
    rw [RegisteredType.merge_toOption]
    exact congrArg (Option.map _) (if_pos rfl)
  have hentries := mergeTypes_entries (types.map (·.withPlatforms p)) (types.map (·.withPlatforms q))
  obtain ⟨merged, hmerged, hentries⟩ := Option.map_eq_some_iff.1 (hentries.trans hadd)
  refine ⟨merged, hmerged, OrderedMap.ext_entries ?_⟩
  rw [OrderedMap.entries_map, hentries, OrderedMap.entries_map, OrderedMap.entries_map,
    List.map_map, List.map_map]
  refine List.map_congr_left fun e he => congrArg (Prod.mk e.1) ?_
  exact congrArg (RegisteredType.mk e.2.variant)
    (Node.mergeAs_copies (hd e.2 (List.mem_map_of_mem he)) e.2.variant)

theorem Namespace.merge_copies {ns : Namespace} (hd : ns.HasDistinctMembers) :
    ∃ m, ((ns.withPlatforms p).merge (ns.withPlatforms q)).toOption = some m ∧
      m.outline = (ns.withPlatforms (p ∪ q)).outline := by
  obtain ⟨types, htypes, houtline⟩ := mergeTypes_copies (p := p) (q := q) hd.types
  refine ⟨(ns.withPlatforms p).mergeWith (ns.withPlatforms q) types, ?_, ?_⟩
  · rw [merge_toOption]
    exact (if_pos rfl).trans (congrArg (Option.map _) htypes)
  · change Namespace.mk ns.name ns.version
      (ns.attributes.entries.foldl (fun m e => m.insertNew e.1 e.2) ns.attributes)
      (types.map RegisteredType.outline)
      ((Node.unite (ns.functions.map (.withPlatforms p)) (ns.functions.map (.withPlatforms q))).map
        Node.outline)
      ((Node.unite (ns.constants.map (.withPlatforms p)) (ns.constants.map (.withPlatforms q))).map
        Node.outline)
      ((Node.unite (ns.other.map (.withPlatforms p)) (ns.other.map (.withPlatforms q))).map
        Node.outline) (p ∪ q) = _
    rw [foldl_insertNew_self, houtline, Node.unite_copies hd.functions,
      Node.unite_copies hd.constants, Node.unite_copies hd.other]
    rfl

theorem Repository.merge_copies {r : Repository} (hd : r.library.HasDistinctMembers) :
    ∃ m, ((r.withPlatforms p).merge (r.withPlatforms q)).toOption = some m ∧
      m.outline = (r.withPlatforms (p ∪ q)).outline := by
  obtain ⟨ns, hns, houtline⟩ := Namespace.merge_copies (p := p) (q := q) hd
  refine ⟨(r.withPlatforms p).mergeWith (r.withPlatforms q) ns, ?_, ?_⟩
  · rw [merge_toOption]
    exact congrArg (Option.map _) hns
  · change Repository.mk (uniteValues r.includes r.includes) (uniteValues r.packages r.packages)
      (uniteValues r.cIncludes r.cIncludes) ns.outline (p ∪ q) = _
    rw [uniteValues_self, uniteValues_self, uniteValues_self, houtline]
    rfl

def Source.HasDistinctMembers (s : Source) : Prop :=
  ∀ r, s.repository = .ok r → r.library.HasDistinctMembers

instance (s : Source) : Decidable s.HasDistinctMembers :=
  decidable_of_iff (∀ r ∈ s.repository.toOption, r.library.HasDistinctMembers)
    (forall_congr' fun _ => imp_congr_left Attempt.toOption_eq_some_iff)

namespace Repository

theorem mergeAll_outline (rs : List Repository) :
    (mergeAll (rs.map outline)).toOption = (mergeAll rs).toOption.map (List.map outline) :=
  mergeAll_mapMembers Node.keepsMembers_outline rs

/-- Two copies of a description that follow each other are merged as the one description is. -/
theorem mergeAll_copies {r : Repository} (hd : r.library.HasDistinctMembers)
    (before after : List Repository) :
    (mergeAll (before ++ r.withPlatforms p :: r.withPlatforms q :: after)).toOption.map
        (List.map outline) =
      (mergeAll (before ++ r.withPlatforms (p ∪ q) :: after)).toOption.map (List.map outline) := by
  obtain ⟨m, hm, houtline⟩ := merge_copies (p := p) (q := q) hd
  have hsame : gathering.same (r.withPlatforms p) (r.withPlatforms q) = true :=
    beq_self_eq_true r.library.name
  have hjoin : (mergeAll (before ++ r.withPlatforms p :: r.withPlatforms q :: after)).toOption =
      (mergeAll (before ++ m :: after)).toOption := by
    rw [mergeAll_toOption, mergeAll_toOption, Gathering.addAll_append, Gathering.addAll_append]
    exact Option.bind_congr fun l _ => Gathering.addAll_join hsame hm l after
  rw [hjoin, ← mergeAll_outline, ← mergeAll_outline]
  simp only [List.map_append, List.map_cons, houtline]

end Repository

theorem Source.repository_of_platforms {d : Source} (hd : d.platforms = p) :
    d.repository = d.repository.map (Repository.withPlatforms p) := by
  rw [← repository_withPlatforms p d, ← hd]

theorem decisions_of_compileSources (o : Options) (sources : List Source) :
    (compileSources o sources).toOption.map Prod.fst =
      (((readAll sources).toOption.bind fun rs => (Repository.mergeAll rs).toOption).map
        (List.map Repository.outline)).map fun outlines =>
          (compileRepositories o (Patch.applyAll o.allPatches outlines).1).1 := by
  rw [toOption_compileSources, Option.map_map]
  refine Option.map_congr fun rs _ => ?_
  rw [Function.comp_apply, Patch.applyAll_outline, compileRepositories_outline]

/-- A document for several platforms may be split into copies that follow each other, each for some
of them: the run succeeds or fails as before, with the same decisions. -/
theorem decisions_of_split (o : Options) {d : Source} (hd : d.platforms = p ∪ q)
    (hmembers : d.HasDistinctMembers) (before after : List Source) :
    (compileSources o
        (before ++ { d with platforms := p } :: { d with platforms := q } :: after)).toOption.map
        Prod.fst =
      (compileSources o (before ++ d :: after)).toOption.map Prod.fst := by
  rw [decisions_of_compileSources, decisions_of_compileSources]
  refine congrArg (Option.map _) ?_
  simp only [readAll, List.mapM_append, List.mapM_cons, Source.repository_withPlatforms]
  cases before.mapM Source.repository with
  | error e => rfl
  | ok rs =>
    cases hr : d.repository with
    | error e => rfl
    | ok r =>
      cases after.mapM Source.repository with
      | error e => rfl
      | ok ss =>
        have hself : r.withPlatforms (p ∪ q) = r := by
          have hmap := Source.repository_of_platforms hd
          rw [hr] at hmap
          exact (Except.ok.inj hmap).symm
        have hcopies := Repository.mergeAll_copies (p := p) (q := q) (hmembers r hr) rs ss
        rw [hself] at hcopies
        exact hcopies

def unixSource : Source :=
  ⟨"a", ⟨true, false, true⟩,
    "<repository><namespace name='G'><class name='C'><method name='m'/><method name='n'/></class>
<function name='f'/></namespace></repository>"⟩

set_option maxRecDepth 2000 in
theorem tokens_unixSource : Markup.tokens unixSource.content = .ok [
    ⟨.startTag "repository" [] false, ⟨1, 1⟩⟩,
    ⟨.startTag "namespace" [("name", "G")] false, ⟨1, 13⟩⟩,
    ⟨.startTag "class" [("name", "C")] false, ⟨1, 33⟩⟩,
    ⟨.startTag "method" [("name", "m")] true, ⟨1, 49⟩⟩,
    ⟨.startTag "method" [("name", "n")] true, ⟨1, 67⟩⟩, ⟨.endTag "class", ⟨1, 85⟩⟩,
    ⟨.text "\n", ⟨1, 93⟩⟩, ⟨.startTag "function" [("name", "f")] true, ⟨2, 1⟩⟩,
    ⟨.endTag "namespace", ⟨2, 21⟩⟩, ⟨.endTag "repository", ⟨2, 33⟩⟩, ⟨.endOfInput, ⟨2, 46⟩⟩] :=
  (Markup.tokens_ofList _).trans (Attempt.toOption_eq_some_iff.1 (by decide +kernel))

theorem decisions_of_unixSource_split : ∃ decisions,
    (compileSources .default [unixSource]).toOption.map Prod.fst = some decisions ∧
    (compileSources .default [{ unixSource with platforms := .linuxOnly },
      { unixSource with platforms := .macosOnly }]).toOption.map Prod.fst = some decisions ∧
    decisions.map (·.types.map (·.members.map MemberDecision.platforms)) =
      [[[⟨true, false, true⟩, ⟨true, false, true⟩]]] := by
  obtain ⟨r, hr, hdistinct, hplatforms⟩ : ∃ r, unixSource.repository = .ok r ∧
      r.library.HasDistinctMembers ∧
      (compileRepositories .default (Patch.applyAll Options.default.allPatches [r]).1).1.map
        (·.types.map (·.members.map MemberDecision.platforms)) =
          [[[⟨true, false, true⟩, ⟨true, false, true⟩]]] := by
    rw [Source.repository, Source.root, tokens_unixSource]
    exact ⟨_, rfl, by decide +kernel, by decide +kernel⟩
  have hmembers : unixSource.HasDistinctMembers := by
    intro s hs
    cases hr.symm.trans hs
    exact hdistinct
  have hrun : (compileSources .default [unixSource]).toOption.map Prod.fst = some
      (compileRepositories .default (Patch.applyAll Options.default.allPatches [r]).1).1 := by
    rw [compileSources, buildRepositories, readAll, List.mapM_cons, List.mapM_nil, hr]
    rfl
  refine ⟨_, hrun, Eq.trans ?_ hrun, hplatforms⟩
  exact decisions_of_split (p := .linuxOnly) (q := .macosOnly) .default rfl hmembers [] []

end GirBind
