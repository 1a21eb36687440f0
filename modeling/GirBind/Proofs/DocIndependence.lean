import GirBind.Proofs.Recast
import GirBind.Proofs.SketchCompile

namespace GirBind

theorem Variant.holdsText_eq_false {kind : NodeKind} {v : Variant} (h : ofKind? kind = some v) :
    kind.holdsText = false := by
  cases kind with
  | doc | docDeprecated | docVersion | docStability => cases h
  | _ => rfl

def Recast.mute : Recast where
  node := Node.mute
  type := RegisteredType.mapMembers Node.mute
  drops := NodeKind.holdsText
  holdsText_of_drops h := h
  platforms := id
  position _ := ⟨0, 0⟩
  line _ := 0
  line_position _ := rfl
  line_zero := rfl
  node_eq := Node.mute_eq
  ofNode?_node n := by
    have hkind : n.mute.kind = n.kind := by rw [Node.mute_eq]
    rw [RegisteredType.ofNode?, RegisteredType.ofNode?, hkind, Option.map_map]
    refine Option.map_congr fun v hv => congrArg (RegisteredType.mk v) ?_
    rw [Node.mute_eq, Node.mapMembers, NodeKind.mutedText, Variant.holdsText_eq_false hv]
    rfl

namespace Source

/-- The tokens of a document without the character data of documentation, if it has tokens. -/
def markup? (s : Source) : Option (List Markup.Token) :=
  (Markup.tokens s.content).toOption.map fun ts =>
    (Node.withoutText NodeKind.holdsText [] ts).map Markup.PlacedToken.token

theorem toOption_repository (s : Source) :
    s.repository.toOption = (Markup.tokens s.content).toOption.bind fun ts =>
      (Node.ofTokens s.platforms ts).toOption.bind fun n =>
        (Repository.ofNode s.platforms n).toOption := by
  rw [repository, root]
  cases Markup.tokens s.content with
  | error e => rfl
  | ok ts =>
    dsimp only [Except.toOption, Option.bind_some]
    cases Node.ofTokens s.platforms ts with
    | error e => rfl
    | ok n =>
      dsimp only [Option.bind_some]
      cases Repository.ofNode s.platforms n with
      | error e => rfl
      | ok r => rfl

theorem mute_repository (s : Source) :
    s.repository.toOption.map (Repository.mapMembers Node.mute) = s.markup?.bind fun ts =>
      (Node.ofTokens s.platforms (ts.map fun t => ⟨t, 0, 0⟩)).toOption.bind fun n =>
        (Repository.ofNode s.platforms n).toOption := by
  have hread (n : Node) : (Repository.ofNode s.platforms n.mute).toOption =
      (Repository.ofNode s.platforms n).toOption.map (Repository.mapMembers Node.mute) := by
    have h := congrArg Except.toOption (Recast.mute.ofNode_repository s.platforms n)
    rwa [Attempt.toOption_map, Attempt.toOption_mapError] at h
  have hroot (ts : List Markup.PlacedToken) :
      (Node.ofTokens s.platforms
        (((Node.withoutText NodeKind.holdsText [] ts).map Markup.PlacedToken.token).map
          fun t => ⟨t, 0, 0⟩)).toOption =
      (Node.ofTokens s.platforms ts).toOption.map Node.mute := by
    have h := congrArg Except.toOption (Recast.mute.run_tokens s.platforms .start ts)
    rw [Attempt.toOption_map, Attempt.toOption_mapError] at h
    rw [List.map_map]
    exact h
  rw [toOption_repository, markup?, Option.map_bind, Option.bind_map]
  refine Option.bind_congr fun ts _ => ?_
  rw [Function.comp_apply, Function.comp_apply, hroot, Option.map_bind, Option.bind_map]
  exact Option.bind_congr fun n _ => (hread n).symm

/-- Two documents for the same platforms that differ at most in the character data of
documentation, and not in that of members that merging compares as a whole. -/
structure SameButDocs (s s' : Source) : Prop where
  platforms : s.platforms = s'.platforms
  markup : s.markup? = s'.markup?
  whole : s.repository.toOption.map (·.library.wholeMembers) =
    s'.repository.toOption.map (·.library.wholeMembers)

theorem SameButDocs.refl (s : Source) : s.SameButDocs s := ⟨rfl, rfl, rfl⟩

theorem SameButDocs.quiet {s s' : Source} (h : SameButDocs s s') :
    s.repository.toOption.map MergeMap.quiet.repository =
      s'.repository.toOption.map MergeMap.quiet.repository := by
  have hmute : s.repository.toOption.map (Repository.mapMembers Node.mute) =
      s'.repository.toOption.map (Repository.mapMembers Node.mute) := by
    rw [mute_repository, mute_repository, h.markup, h.platforms]
  have hwhole := h.whole
  cases hr : s.repository.toOption with
  | none =>
    rw [hr, Option.map_none, eq_comm, Option.map_eq_none_iff] at hmute
    rw [hmute]
  | some r =>
    rw [hr, Option.map_some, eq_comm, Option.map_eq_some_iff] at hmute
    obtain ⟨r', hr', hmute⟩ := hmute
    rw [hr, hr', Option.map_some, Option.map_some, Option.some.injEq] at hwhole
    rw [hr', Option.map_some, Option.map_some]
    obtain ⟨hincludes, hpackages, hcIncludes, hlibrary, hplatforms⟩ := Repository.mk.inj hmute
    have hon := (Source.repository_isOn (Attempt.toOption_eq_some_iff.1 hr)).2
    have hon' := (Source.repository_isOn (Attempt.toOption_eq_some_iff.1 hr')).2
    refine congrArg some ?_
    rw [MergeMap.repository, MergeMap.repository, hincludes, hpackages, hcIncludes, hplatforms,
      MergeMap.quiet_library_congr hon hon' hlibrary.symm hwhole]

end Source

theorem quiet_readAll {xs ys : List Source} (h : List.Forall₂ Source.SameButDocs xs ys) :
    (readAll xs).toOption.map (List.map MergeMap.quiet.repository) =
      (readAll ys).toOption.map (List.map MergeMap.quiet.repository) := by
  have hcons (s : Source) (sources : List Source) :
      (readAll (s :: sources)).toOption.map (List.map MergeMap.quiet.repository) =
        (s.repository.toOption.map MergeMap.quiet.repository).bind fun r =>
          ((readAll sources).toOption.map (List.map MergeMap.quiet.repository)).map (r :: ·) := by
    rw [readAll, List.mapM_cons, Attempt.toOption_bind, Option.map_bind, Option.bind_map]
    refine Option.bind_congr fun r _ => ?_
    rw [Function.comp_apply, Function.comp_apply, Attempt.toOption_bind, Option.map_map,
      Option.map_bind]
    exact Option.map_eq_bind.symm
  induction h with
  | nil => rfl
  | cons hs _ ih => rw [hcons, hcons, hs.quiet, ih]

/-- Documentation decides nothing but comments, apart from that of the members that merging
compares as a whole. -/
theorem decisions_of_sameButDocs (o : Options) {xs ys : List Source}
    (h : List.Forall₂ Source.SameButDocs xs ys) :
    (compileSources o xs).toOption.map (·.1.map NamespaceDecision.withoutDocs) =
      (compileSources o ys).toOption.map (·.1.map NamespaceDecision.withoutDocs) := by
  have hsketch (sources : List Source) :
      (compileSources o sources).toOption.map (·.1.map NamespaceDecision.withoutDocs) =
        (((readAll sources).toOption.bind fun rs => (Repository.mergeAll rs).toOption).map
          (List.map Repository.sketch)).map fun sketches =>
            (compileRepositories o (Patch.applyAll o.allPatches sketches).1).1.map
              NamespaceDecision.withoutDocs := by
    have hdecisions := congrArg (Option.map (List.map NamespaceDecision.withoutDocs))
      (toOption_compileSources o sources)
    rw [Option.map_map, Option.map_map] at hdecisions
    refine hdecisions.trans ?_
    rw [Option.map_map]
    refine Option.map_congr fun rs hrs => ?_
    rw [Function.comp_apply, Function.comp_apply, Patch.applyAll_sketch,
      compileRepositories_sketch o (nodup_names_of_readAll hrs o.allPatches)]
  have hread := quiet_readAll h
  rw [hsketch, hsketch]
  refine congrArg (Option.map _) ?_
  cases hx : (readAll xs).toOption with
  | none =>
    rw [hx, Option.map_none, eq_comm, Option.map_eq_none_iff] at hread
    rw [hread]
  | some rs =>
    rw [hx, Option.map_some, eq_comm, Option.map_eq_some_iff] at hread
    obtain ⟨ss, hy, hquiet⟩ := hread
    rw [hy, Option.bind_some, Option.bind_some]
    exact MergeMap.sketch_mergeAll_congr hquiet.symm

def describedRecord : Source :=
  ⟨"a", .linuxOnly, "<repository><namespace name='X'><record name='R'><doc>one</doc>
<field name='f'><doc>one</doc><type name='gint'/></field></record></namespace></repository>"⟩

def revisedRecord : Source :=
  ⟨"b", .linuxOnly, "<repository><namespace name='X'><record name='R'><doc>two</doc>
<field name='f'><doc>one</doc><type name='gint'/></field></record></namespace></repository>"⟩

def revisedField : Source :=
  ⟨"c", .windowsOnly, "<repository><namespace name='X'><record name='R'><doc>one</doc>
<field name='f'><doc>two</doc><type name='gint'/></field></record></namespace></repository>"⟩

def windowsRecord : Source :=
  { describedRecord with platforms := .windowsOnly }

def recordTokens (record field : String) : List Markup.PlacedToken := [
    ⟨.startTag "repository" [] false, ⟨1, 1⟩⟩,
    ⟨.startTag "namespace" [("name", "X")] false, ⟨1, 13⟩⟩,
    ⟨.startTag "record" [("name", "R")] false, ⟨1, 33⟩⟩, ⟨.startTag "doc" [] false, ⟨1, 50⟩⟩,
    ⟨.text record, ⟨1, 55⟩⟩, ⟨.endTag "doc", ⟨1, 58⟩⟩, ⟨.text "\n", ⟨1, 64⟩⟩,
    ⟨.startTag "field" [("name", "f")] false, ⟨2, 1⟩⟩, ⟨.startTag "doc" [] false, ⟨2, 17⟩⟩,
    ⟨.text field, ⟨2, 22⟩⟩, ⟨.endTag "doc", ⟨2, 25⟩⟩,
    ⟨.startTag "type" [("name", "gint")] true, ⟨2, 31⟩⟩, ⟨.endTag "field", ⟨2, 50⟩⟩,
    ⟨.endTag "record", ⟨2, 58⟩⟩, ⟨.endTag "namespace", ⟨2, 67⟩⟩, ⟨.endTag "repository", ⟨2, 79⟩⟩,
    ⟨.endOfInput, ⟨2, 92⟩⟩]

set_option maxRecDepth 2000 in
theorem tokens_describedRecord :
    Markup.tokens describedRecord.content = .ok (recordTokens "one" "one") :=
  (Markup.tokens_ofList _).trans (Attempt.toOption_eq_some_iff.1 (by decide +kernel))

set_option maxRecDepth 2000 in
theorem tokens_revisedRecord :
    Markup.tokens revisedRecord.content = .ok (recordTokens "two" "one") :=
  (Markup.tokens_ofList _).trans (Attempt.toOption_eq_some_iff.1 (by decide +kernel))

theorem tokens_windowsRecord :
    Markup.tokens windowsRecord.content = .ok (recordTokens "one" "one") :=
  tokens_describedRecord

set_option maxRecDepth 2000 in
theorem tokens_revisedField :
    Markup.tokens revisedField.content = .ok (recordTokens "one" "two") :=
  (Markup.tokens_ofList _).trans (Attempt.toOption_eq_some_iff.1 (by decide +kernel))

def describedField : Node :=
  ⟨.field, .ofList [("name", "f")], [⟨.doc, .empty, [], "one", .empty, 0⟩,
    ⟨.type, .ofList [("name", "gint")], [], "", .empty, 0⟩], "", .linuxOnly, 0⟩

theorem wholeMembers_describedRecord :
    describedRecord.repository.toOption.map (·.library.wholeMembers) =
      some [("R", [describedField])] := by
  rw [Source.toOption_repository, tokens_describedRecord]
  rfl

theorem wholeMembers_revisedRecord :
    revisedRecord.repository.toOption.map (·.library.wholeMembers) =
      some [("R", [describedField])] := by
  rw [Source.toOption_repository, tokens_revisedRecord]
  rfl

theorem describedRecord_sameButDocs : describedRecord.SameButDocs revisedRecord where
  platforms := rfl
  markup := by
    rw [Source.markup?, Source.markup?, tokens_describedRecord, tokens_revisedRecord]
    rfl
  whole := wholeMembers_describedRecord.trans wholeMembers_revisedRecord.symm

def NamespaceDecision.fieldNames (d : NamespaceDecision) : List (Option (List String)) :=
  d.types.map (·.record.map (·.fields.map FieldDecision.name))

def NamespaceDecision.typeDocs (d : NamespaceDecision) : List (Option String) :=
  d.types.map (·.doc.map Doc.Converted.text)

/-- The comment on the record differs, and nothing else. -/
theorem decisions_of_revisedRecord : ∃ ds ds' stats stats',
    compileSources .default [describedRecord, windowsRecord] = .ok (ds, stats) ∧
    compileSources .default [revisedRecord, windowsRecord] = .ok (ds', stats') ∧
    ds.map NamespaceDecision.withoutDocs = ds'.map NamespaceDecision.withoutDocs ∧
    ds.map (fun d => (d.fieldNames, d.typeDocs)) =
      [([some ["f"]], [some "/**\n * one\n */"])] ∧
    ds'.map (fun d => (d.fieldNames, d.typeDocs)) =
      [([some ["f"]], [some "/**\n * two\n */"])] := by
  have hsame := decisions_of_sameButDocs .default (.cons describedRecord_sameButDocs
    (.cons (.refl windowsRecord) .nil))
  have hrun : (compileSources .default [describedRecord, windowsRecord]).toOption.map
      (·.1.map fun d => (d.fieldNames, d.typeDocs)) =
        some [([some ["f"]], [some "/**\n * one\n */"])] := by
    rw [compileSources, buildRepositories, readAll, List.mapM_cons, List.mapM_cons,
      Source.repository, Source.root, tokens_describedRecord, Source.repository, Source.root,
      tokens_windowsRecord]
    decide +kernel
  have hrun' : (compileSources .default [revisedRecord, windowsRecord]).toOption.map
      (·.1.map fun d => (d.fieldNames, d.typeDocs)) =
        some [([some ["f"]], [some "/**\n * two\n */"])] := by
    rw [compileSources, buildRepositories, readAll, List.mapM_cons, List.mapM_cons,
      Source.repository, Source.root, tokens_revisedRecord, Source.repository, Source.root,
      tokens_windowsRecord]
    decide +kernel
  obtain ⟨⟨ds, stats⟩, hcompile, hds⟩ := Option.map_eq_some_iff.1 hrun
  obtain ⟨⟨ds', stats'⟩, hcompile', hds'⟩ := Option.map_eq_some_iff.1 hrun'
  rw [hcompile, hcompile', Option.map_some, Option.map_some, Option.some.injEq] at hsame
  exact ⟨ds, ds', stats, stats', Attempt.toOption_eq_some_iff.1 hcompile,
    Attempt.toOption_eq_some_iff.1 hcompile', hsame, hds, hds'⟩

/-- The documentation of a field can decide whether the field is bound. -/
theorem exists_deciding_doc : ¬ ∀ (o : Options) (xs ys : List Source),
    List.Forall₂ (fun s s' => s.platforms = s'.platforms ∧ s.markup? = s'.markup?) xs ys →
    (compileSources o xs).toOption.map (·.1.map NamespaceDecision.withoutDocs) =
      (compileSources o ys).toOption.map (·.1.map NamespaceDecision.withoutDocs) := by
  intro hall
  have hmarkup : describedRecord.markup? = revisedField.markup? := by
    rw [Source.markup?, Source.markup?, tokens_describedRecord, tokens_revisedField]
    rfl
  have hsame := hall .default [describedRecord, windowsRecord] [describedRecord, revisedField]
    (.cons ⟨rfl, rfl⟩ (.cons ⟨rfl, hmarkup⟩ .nil))
  have hbound : ((compileSources .default [describedRecord, windowsRecord]).toOption.map
      (·.1.map NamespaceDecision.withoutDocs)).map (List.map NamespaceDecision.fieldNames) =
        some [[some ["f"]]] := by
    rw [compileSources, buildRepositories, readAll, List.mapM_cons, List.mapM_cons,
      Source.repository, Source.root, tokens_describedRecord, Source.repository, Source.root,
      tokens_windowsRecord]
    decide +kernel
  have hunbound : ((compileSources .default [describedRecord, revisedField]).toOption.map
      (·.1.map NamespaceDecision.withoutDocs)).map (List.map NamespaceDecision.fieldNames) =
        some [[some []]] := by
    rw [compileSources, buildRepositories, readAll, List.mapM_cons, List.mapM_cons,
      Source.repository, Source.root, tokens_describedRecord, Source.repository, Source.root,
      tokens_revisedField]
    decide +kernel
  rw [← hsame, hbound] at hunbound
  exact absurd hunbound (by decide)

end GirBind
