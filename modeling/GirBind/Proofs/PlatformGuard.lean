import GirBind.Proofs.Accounting
import GirBind.Proofs.MergedLibraries

namespace GirBind

/-- What is available on the given platforms lists just these, and is guarded unless they are all
that there are. -/
def ListsExactly (listed : PlatformSet) (guarded : Bool) (p : PlatformSet) : Prop :=
  listed = p ∧ (guarded = true ↔ p ≠ .all)

theorem listsExactly_of_eq {listed p : PlatformSet} (h : listed = p) :
    ListsExactly listed listed.needsGuard p := by
  rw [h]
  exact ⟨rfl, PlatformSet.needsGuard_iff⟩

theorem Node.name_of_name? {n : Node} {name : String} (h : n.name? = some name) :
    n.name = name := by
  rw [Node.name, h, Option.getD_some]

theorem Callable.kind_ne_field {n : Node} {c : Callable} (h : Callable.ofNode? n = some c) :
    n.kind ≠ .field := by
  intro hfield
  have hcallable := Callable.isSome_ofNode? n
  rw [h, hfield] at hcallable
  cases hcallable

/-- An element of a merged library is listed for all its platforms. They are those of the documents
that have an element of its kind and name among the given declarations, if none has two. -/
structure Node.HasExactPlatforms (library : String) (items : Namespace → List Node)
    (sources : List Source) (n : Node) (listed : PlatformSet) : Prop where
  complete : listed = n.platforms
  declared : ∀ name, n.name? = some name → DeclaredOnce library items n.kind name sources →
    listed = memberAvailability library items n.kind name sources

structure MemberDecision.HasExactPlatforms (library : String) (items : Namespace → List Node)
    (sources : List Source) (n : Node) (d : MemberDecision) : Prop where
  isFor : d.IsFor n
  platforms : n.HasExactPlatforms library items sources d.platforms
  guard : d.platformGuard = true ↔ d.platforms ≠ .all

/-- A decision about a type and all those inside it list the platforms of the documents that declare
what they are about. The type is the merged one, and every callable in it has its outcome. -/
structure TypeDecision.HasExactPlatforms (library : String) (sources : List Source) (key : String)
    (t : RegisteredType) (d : TypeDecision) (skipped : List SkippedDeclaration) : Prop where
  name : d.name = key
  variant : d.variant = t.variant
  type : ListsExactly d.platforms d.platformGuard
    (availability library (·.types.contains key) sources)
  callback : ∀ m, d.callback = some m → ListsExactly m.platforms m.platformGuard
    (availability library (·.types.contains key) sources)
  members : Ledger
    (Outcome (MemberDecision.HasExactPlatforms library (Patch.membersOf · key) sources)
      fun n => s!"{key}.{n.name}")
    (t.node.children.filter (·.kind.isCallable)) d.members skipped
  enumeration : d.enumeration.isSome = true ↔ t.variant = .enumeration
  enumMembers : ∀ e, d.enumeration = some e → List.Forall₂ (fun n m => m.name = n.name ∧
    n.HasExactPlatforms library (Patch.membersOf · key) sources m.platforms) t.members e.members

/-- A merged type leads to one decision with exact platforms, or is skipped. -/
inductive RegisteredType.ExactOutcome (library : String) (sources : List Source) :
    String × RegisteredType → List TypeDecision → List SkippedDeclaration → Prop
  | decided {key : String} {t : RegisteredType} {d : TypeDecision}
    {skipped : List SkippedDeclaration} (h : d.HasExactPlatforms library sources key t skipped) :
    ExactOutcome library sources (key, t) [d] skipped
  | skipped {key : String} {t : RegisteredType} (e : Error) (h : e.isFatal = false) :
    ExactOutcome library sources (key, t) [] [⟨key, e.message⟩]

/-- Every declaration of a merged namespace is skipped or has a decision that lists the platforms of
the documents that declare it. -/
structure NamespaceDecision.HasExactPlatforms (sources : List Source) (ns : Namespace)
    (d : NamespaceDecision) : Prop where
  name : d.name = ns.name
  declarations : ∃ types functions constants,
    Ledger (RegisteredType.ExactOutcome ns.name sources) ns.types.entries d.types types ∧
    Ledger
      (Outcome (MemberDecision.HasExactPlatforms ns.name Namespace.functions sources) Node.name)
      ns.functions d.functions functions ∧
    Ledger (Outcome (fun n c => ConstantDecision.name c = n.name ∧
        n.HasExactPlatforms ns.name Namespace.constants sources c.platforms) Node.name)
      ns.constants d.constants constants ∧
    d.skipped = types ++ functions ++ constants

/-- A namespace has all types, functions and constants of another one, and all members of its types
but fields, which merging may leave out. -/
structure Namespace.DeclaresAllOf (ns other : Namespace) : Prop where
  types : ∀ key ∈ other.types.keys, key ∈ ns.types.keys
  members : ∀ key, ∀ n ∈ Patch.membersOf other key, n.kind ≠ .field →
    ∃ m ∈ Patch.membersOf ns key, m.kind = n.kind ∧ m.name? = n.name?
  functions : ∀ n ∈ other.functions, ∃ m ∈ ns.functions, m.kind = n.kind ∧ m.name? = n.name?
  constants : ∀ n ∈ other.constants, ∃ m ∈ ns.constants, m.kind = n.kind ∧ m.name? = n.name?

namespace Repository

variable {sources : List Source} {rs rest : List Repository} {first r s : Repository}

theorem IsUnion.mem_keys (h : IsUnion first rest r) (hs : s ∈ first :: rest) {key : String}
    (hkey : key ∈ s.library.types.keys) : key ∈ r.library.types.keys := by
  rw [h.keys, List.mem_eraseDups]
  exact List.mem_flatMap.2 ⟨s, hs, hkey⟩

theorem IsUnion.exists_mem_membersOf (h : IsUnion first rest r) (hs : s ∈ first :: rest)
    {key : String} {n : Node} (hn : n ∈ Patch.membersOf s.library key) (hkind : n.kind ≠ .field) :
    ∃ m ∈ Patch.membersOf r.library key, m.kind = n.kind ∧ m.name? = n.name? := by
  rw [RegisteredType.membersOf_eq] at hn
  obtain ⟨u, hu, hnu⟩ := List.mem_flatMap.1 hn
  have hu := Option.mem_toList.1 hu
  have hkey := h.mem_keys hs (List.mem_map.2 ⟨_, OrderedMap.get?_eq_some_iff.1 hu, rfl⟩)
  obtain ⟨⟨key, t⟩, hentry, rfl⟩ := List.mem_map.1 hkey
  have ht := OrderedMap.get?_eq_some_iff.2 hentry
  rw [RegisteredType.membersOf_eq, ht, Option.toList_some, List.flatMap_singleton]
  obtain ⟨d, ds, hds, -, rfl⟩ := h.type ht
  have hdeclared : u ∈ d :: ds := hds ▸ List.mem_filterMap.2 ⟨s, hs, hu⟩
  have hchild : n ∈ u.node.childrenOf n.kind := List.mem_filter.2 ⟨hnu, beq_self_eq_true _⟩
  have hall : n ∈ ((d :: ds).map RegisteredType.node).flatMap (·.childrenOf n.kind) :=
    List.mem_flatMap.2 ⟨u.node, List.mem_map_of_mem hdeclared, hchild⟩
  rw [List.map_cons, List.flatMap_cons] at hall
  obtain ⟨m, hm, hsame⟩ := Node.exists_mem_unite hall
  rw [← Node.childrenOf_foldl_mergeAs hkind] at hm
  exact ⟨m, List.mem_of_mem_filter hm, hsame⟩

theorem IsUnion.declaresAllOf (h : IsUnion first rest r) (hs : s ∈ first :: rest) :
    r.library.DeclaresAllOf s.library := by
  have hmem {items : Namespace → List Node} {n : Node} (hn : n ∈ items s.library) :
      ∃ m ∈ Node.unite (items first.library) (rest.flatMap (items ·.library)),
        m.kind = n.kind ∧ m.name? = n.name? := by
    have hall : n ∈ (first :: rest).flatMap (items ·.library) := List.mem_flatMap.2 ⟨s, hs, hn⟩
    exact Node.exists_mem_unite hall
  refine ⟨fun _ => h.mem_keys hs, fun _ _ => h.exists_mem_membersOf hs, ?_, ?_⟩
  · intro n hn
    rw [h.functions]
    exact hmem hn
  · intro n hn
    rw [h.constants]
    exact hmem hn

theorem hasExactPlatforms_of_mem_section (h : readAll sources = .ok rs)
    (hrs : describing r.library.name rs = first :: rest) {items : Namespace → List Node}
    {kind : NodeKind} (hitems : Namespace.IsSection items kind) {n : Node}
    (hn : n ∈ Node.unite (items first.library) (rest.flatMap (items ·.library))) :
    n.HasExactPlatforms r.library.name items sources n.platforms := by
  obtain ⟨rfl, hnamed⟩ := name?_of_mem_section h hrs hitems hn
  refine ⟨rfl, fun name hname hone => ?_⟩
  obtain rfl : n.name = name := Option.some.inj (hnamed.symm.trans hname)
  exact platforms_of_mem_section h hrs hitems hn hone

end Repository

namespace BindingContext

variable {ctx : BindingContext} {floating : FloatingTable} {sources : List Source}
  {rs rest : List Repository} {first r : Repository}

/-- A callable that its owner covers keeps all its platforms. -/
theorem hasExactPlatforms_of_bindCallable {declaration : String} {owner : Option RegisteredType}
    {n : Node} {c : Callable} {m : MemberDecision} {library : String}
    {items : Namespace → List Node}
    (hcovered : n.platforms ⊆ (owner.map RegisteredType.platforms).getD ctx.library.platforms)
    (hn : n.HasExactPlatforms library items sources n.platforms)
    (hc : Callable.ofNode? n = some c) (h : ctx.bindCallable declaration owner c = .ok m) :
    m.HasExactPlatforms library items sources n := by
  have hfor := isFor_of_bindCallable hc h
  obtain ⟨sig, -, rfl⟩ := bindCallable_eq_ok_iff.1 h
  refine ⟨hfor, ?_, PlatformSet.needsGuard_iff⟩
  change n.HasExactPlatforms library items sources (ctx.callablePlatforms owner c)
  rw [callablePlatforms, (Callable.ofNode?_eq_some hc).2.2, PlatformSet.inter_of_subset hcovered]
  exact hn

theorem listsExactly_of_callbackPart {t : RegisteredType} {m : MemberDecision}
    (h : ctx.callbackPart t = .ok (some m)) :
    ListsExactly m.platforms m.platformGuard t.node.platforms := by
  obtain ⟨-, c, hc, hbind⟩ := callbackPart_eq_ok h
  obtain ⟨sig, -, rfl⟩ := bindCallable_eq_ok_iff.1 hbind
  apply listsExactly_of_eq
  change ctx.callablePlatforms (some t) c = t.node.platforms
  rw [callablePlatforms, (Callable.ofNode?_eq_some hc).2.2]
  exact PlatformSet.inter_of_subset (PlatformSet.subset_refl _)

theorem bindType_hasExactPlatforms (hread : readAll sources = .ok rs)
    (hrs : Repository.describing r.library.name rs = first :: rest)
    (hunion : Repository.IsUnion first rest r) {key : String} {t : RegisteredType}
    (ht : r.library.types.get? key = some t) {d : TypeDecision}
    {skipped : List SkippedDeclaration} (h : ctx.bindType floating t = .ok (d, skipped)) :
    d.HasExactPlatforms r.library.name sources key t skipped := by
  obtain ⟨parent, implements, aliasType, callback, -, -, -, hcallback, rfl, rfl⟩ :=
    bindType_eq_ok_iff.1 h
  obtain rfl : t.name = key :=
    Node.name_of_name? (RegisteredType.name?_of_isUnion hread hrs hunion ht)
  have htype := RegisteredType.platforms_of_isUnion hread hrs hunion ht
  have hcovers := RegisteredType.covers_of_isUnion hread hrs hunion ht
  have hchild : ∀ n ∈ t.node.children, n.kind ≠ .field →
      n.HasExactPlatforms r.library.name (Patch.membersOf · t.name) sources n.platforms :=
    fun n hn hkind => ⟨rfl, fun name hname hone =>
      RegisteredType.platforms_of_mem_children hread hrs hunion ht hn hkind hname hone⟩
  refine ⟨rfl, rfl, listsExactly_of_eq htype, ?_, ?_, ?_, ?_⟩
  · rintro m rfl
    rw [← htype]
    exact listsExactly_of_callbackPart hcallback
  · refine ledger_callables (fun name => s!"{t.name}.{name}") fun n hn c m hc hbind => ?_
    have hexact := hchild n hn (Callable.kind_ne_field hc)
    refine hasExactPlatforms_of_bindCallable ?_ hexact hc hbind
    exact hcovers n hn
  · change (ite _ _ _ : Option EnumerationDecision).isSome = true ↔ _
    rw [Option.isSome_ite]
  · intro e he
    change (if t.variant = .enumeration then some (ctx.enumerationDecision t) else none) = some e
      at he
    split at he
    case isTrue =>
      cases he
      change List.Forall₂ _ t.members (t.members.map ctx.enumMemberDecision)
      rw [List.forall₂_map_right_iff, List.forall₂_same]
      intro n hn
      obtain ⟨hmem, hkind⟩ := List.mem_filter.1 hn
      exact ⟨rfl, hchild n hmem (by rw [eq_of_beq hkind]; decide)⟩
    case isFalse => cases he

theorem bindNamespace_hasExactPlatforms {table : SymbolTable} (hread : readAll sources = .ok rs)
    (hrs : Repository.describing r.library.name rs = first :: rest)
    (hunion : Repository.IsUnion first rest r) :
    (bindNamespace ⟨table, r.library⟩ floating).HasExactPlatforms sources r.library := by
  have hname : ∀ e ∈ r.library.types.entries, e.2.name = e.1 := fun e he =>
    Node.name_of_name? (RegisteredType.name?_of_isUnion hread hrs hunion
      (OrderedMap.get?_eq_some_iff.2 he))
  have hfunctions := Namespace.functions_isSection
  have hcallable :
      r.library.functions.filter (·.kind.isCallable) = r.library.functions := by
    apply List.filter_eq_self.2
    intro n hn
    rw [(Repository.name?_of_mem_section hread hrs hfunctions (hunion.functions ▸ hn)).1]
    rfl
  refine ⟨rfl, _, _, _, ledger_types hname ?_ ?_, ?_, ?_, rfl⟩
  · intro e he d skipped hbind
    exact .decided
      (bindType_hasExactPlatforms hread hrs hunion (OrderedMap.get?_eq_some_iff.2 he) hbind)
  · intro e _ o
    exact .skipped (.declaration o) rfl
  · rw [← hcallable]
    refine ledger_callables id fun n hn c m hc hbind => ?_
    have hmem := hunion.functions ▸ hn
    refine hasExactPlatforms_of_bindCallable ?_
      (Repository.hasExactPlatforms_of_mem_section hread hrs hfunctions hmem) hc hbind
    exact hunion.platforms_subset hread hrs hfunctions hmem
  · refine ledger_constants fun n hn c hbind => ?_
    obtain ⟨hcname, hplatforms⟩ := bindConstant_eq_ok hbind
    refine ⟨hcname, hplatforms.symm ▸ ?_⟩
    exact Repository.hasExactPlatforms_of_mem_section hread hrs Namespace.constants_isSection
      (hunion.constants ▸ hn)

end BindingContext

theorem Options.allPatches_eq_nil {o : Options} (hdefault : o.defaultPatches = false)
    (hpatches : o.patches = []) : o.allPatches = [] := by
  rw [allPatches, hdefault, hpatches]
  rfl

theorem compileSources_eq_ok {o : Options} {sources : List Source}
    {decisions : List NamespaceDecision} {stats : Statistics}
    (h : compileSources o sources = .ok (decisions, stats)) (hpatches : o.allPatches = []) :
    ∃ rs merged, readAll sources = .ok rs ∧ Repository.mergeAll rs = .ok merged ∧
      ∃ table floating, decisions =
        merged.map fun r => BindingContext.bindNamespace ⟨table, r.library⟩ floating := by
  obtain ⟨⟨libraries, applied⟩, hbuild, h⟩ := Attempt.bind_eq_ok_iff.1 h
  obtain ⟨merged, hmerged, hedit⟩ := Attempt.bind_eq_ok_iff.1 hbuild
  obtain ⟨rs, hread, hmerged⟩ := Attempt.bind_eq_ok_iff.1 hmerged
  rw [hpatches] at hedit
  cases hedit
  cases h
  exact ⟨rs, libraries, hread, hmerged, _, _,
    SymbolTable.bind_build (Repository.nodup_names_of_mergeAll hmerged) o.naming _⟩

/-- Without edits every declaration of the documents has its place in one merged namespace, and what
is not skipped lists the platforms of the documents that declare it. -/
theorem platforms_of_compileSources {o : Options} {sources : List Source}
    {decisions : List NamespaceDecision} {stats : Statistics}
    (h : compileSources o sources = .ok (decisions, stats)) (hdefault : o.defaultPatches = false)
    (hpatches : o.patches = []) :
    ∃ merged, (readAll sources >>= Repository.mergeAll) = .ok merged ∧
      (merged.map (·.library.name)).Nodup ∧
      List.Forall₂ (fun (r : Repository) d => d.HasExactPlatforms sources r.library)
        merged decisions ∧
      ∀ s ∈ sources, ∃ document, s.repository = .ok document ∧
        ∃ r ∈ merged, r.library.name = document.library.name ∧
          r.library.DeclaresAllOf document.library := by
  obtain ⟨rs, merged, hread, hmerged, table, floating, rfl⟩ :=
    compileSources_eq_ok h (Options.allPatches_eq_nil hdefault hpatches)
  refine ⟨merged, Attempt.bind_eq_ok_iff.2 ⟨rs, hread, hmerged⟩,
    Repository.nodup_names_of_mergeAll hmerged, ?_, ?_⟩
  · rw [List.forall₂_map_right_iff, List.forall₂_same]
    intro r hr
    obtain ⟨first, rest, hrs, hunion⟩ := Repository.isUnion_of_mergeAll hmerged hr
    exact BindingContext.bindNamespace_hasExactPlatforms hread hrs hunion
  · intro s hs
    obtain ⟨document, hmem, hdocument⟩ := Attempt.exists_mem_of_mapM hread hs
    have hname : document.library.name ∈ merged.map (·.library.name) := by
      rw [Repository.names_of_mergeAll hmerged, List.mem_eraseDups]
      exact List.mem_map_of_mem hmem
    obtain ⟨r, hr, hname⟩ := List.mem_map.1 hname
    obtain ⟨first, rest, hrs, hunion⟩ := Repository.isUnion_of_mergeAll hmerged hr
    refine ⟨document, hdocument, r, hr, hname, hunion.declaresAllOf ?_⟩
    rw [← hrs]
    exact List.mem_filter.2 ⟨hmem, beq_iff_eq.2 hname.symm⟩

def linuxSource : Source :=
  ⟨"a", .linuxOnly, "<repository><namespace name='G'><class name='C'><method name='m'/></class>
<enumeration name='E'><member name='x'/></enumeration><function name='f'/>
<constant name='K' value='1'><type name='gint'/></constant></namespace></repository>"⟩

def macosSource : Source :=
  ⟨"b", .macosOnly, "<repository><namespace name='G'><class name='C'><method name='m'/>
<method name='k'/></class><enumeration name='E'><member name='x'/><member name='y'/></enumeration>
<constant name='K' value='1'><type name='gint'/></constant></namespace></repository>"⟩

def windowsSource : Source :=
  ⟨"c", .windowsOnly, "<repository><namespace name='G'><class name='C'><method name='m'/></class>
</namespace></repository>"⟩

def partialSources : List Source := [linuxSource, macosSource, windowsSource]

set_option maxRecDepth 2000 in
theorem tokens_linuxSource : Markup.tokens linuxSource.content = .ok [
    ⟨.startTag "repository" [] false, ⟨1, 1⟩⟩,
    ⟨.startTag "namespace" [("name", "G")] false, ⟨1, 13⟩⟩,
    ⟨.startTag "class" [("name", "C")] false, ⟨1, 33⟩⟩,
    ⟨.startTag "method" [("name", "m")] true, ⟨1, 49⟩⟩, ⟨.endTag "class", ⟨1, 67⟩⟩,
    ⟨.text "\n", ⟨1, 75⟩⟩, ⟨.startTag "enumeration" [("name", "E")] false, ⟨2, 1⟩⟩,
    ⟨.startTag "member" [("name", "x")] true, ⟨2, 23⟩⟩, ⟨.endTag "enumeration", ⟨2, 41⟩⟩,
    ⟨.startTag "function" [("name", "f")] true, ⟨2, 55⟩⟩, ⟨.text "\n", ⟨2, 75⟩⟩,
    ⟨.startTag "constant" [("name", "K"), ("value", "1")] false, ⟨3, 1⟩⟩,
    ⟨.startTag "type" [("name", "gint")] true, ⟨3, 30⟩⟩, ⟨.endTag "constant", ⟨3, 49⟩⟩,
    ⟨.endTag "namespace", ⟨3, 60⟩⟩, ⟨.endTag "repository", ⟨3, 72⟩⟩, ⟨.endOfInput, ⟨3, 85⟩⟩] :=
  (Markup.tokens_ofList _).trans (Attempt.toOption_eq_some_iff.1 (by decide +kernel))

set_option maxRecDepth 2000 in
theorem tokens_macosSource : Markup.tokens macosSource.content = .ok [
    ⟨.startTag "repository" [] false, ⟨1, 1⟩⟩,
    ⟨.startTag "namespace" [("name", "G")] false, ⟨1, 13⟩⟩,
    ⟨.startTag "class" [("name", "C")] false, ⟨1, 33⟩⟩,
    ⟨.startTag "method" [("name", "m")] true, ⟨1, 49⟩⟩, ⟨.text "\n", ⟨1, 67⟩⟩,
    ⟨.startTag "method" [("name", "k")] true, ⟨2, 1⟩⟩, ⟨.endTag "class", ⟨2, 19⟩⟩,
    ⟨.startTag "enumeration" [("name", "E")] false, ⟨2, 27⟩⟩,
    ⟨.startTag "member" [("name", "x")] true, ⟨2, 49⟩⟩,
    ⟨.startTag "member" [("name", "y")] true, ⟨2, 67⟩⟩, ⟨.endTag "enumeration", ⟨2, 85⟩⟩,
    ⟨.text "\n", ⟨2, 99⟩⟩, ⟨.startTag "constant" [("name", "K"), ("value", "1")] false, ⟨3, 1⟩⟩,
    ⟨.startTag "type" [("name", "gint")] true, ⟨3, 30⟩⟩, ⟨.endTag "constant", ⟨3, 49⟩⟩,
    ⟨.endTag "namespace", ⟨3, 60⟩⟩, ⟨.endTag "repository", ⟨3, 72⟩⟩, ⟨.endOfInput, ⟨3, 85⟩⟩] :=
  (Markup.tokens_ofList _).trans (Attempt.toOption_eq_some_iff.1 (by decide +kernel))

theorem tokens_windowsSource : Markup.tokens windowsSource.content = .ok [
    ⟨.startTag "repository" [] false, ⟨1, 1⟩⟩,
    ⟨.startTag "namespace" [("name", "G")] false, ⟨1, 13⟩⟩,
    ⟨.startTag "class" [("name", "C")] false, ⟨1, 33⟩⟩,
    ⟨.startTag "method" [("name", "m")] true, ⟨1, 49⟩⟩, ⟨.endTag "class", ⟨1, 67⟩⟩,
    ⟨.text "\n", ⟨1, 75⟩⟩, ⟨.endTag "namespace", ⟨2, 1⟩⟩, ⟨.endTag "repository", ⟨2, 13⟩⟩,
    ⟨.endOfInput, ⟨2, 26⟩⟩] :=
  (Markup.tokens_ofList _).trans (Attempt.toOption_eq_some_iff.1 (by decide +kernel))

def NamespaceDecision.listedPlatforms (d : NamespaceDecision) : List (String × PlatformSet) :=
  d.types.flatMap (fun t =>
      (t.name, t.platforms) :: t.members.map fun m => (m.name, m.platforms)) ++
    (d.types.filterMap TypeDecision.enumeration).flatMap
      (fun e => e.members.map fun m => (m.name, m.platforms)) ++
    d.functions.map (fun f => (f.name, f.platforms)) ++
    d.constants.map fun c => (c.name, c.platforms)

theorem lists_partialSources : ∃ rs merged, readAll partialSources = .ok rs ∧
    Repository.mergeAll rs = .ok merged ∧
    (compileRepositories { Options.default with defaultPatches := false } merged).1.map
      (fun d => (d.listedPlatforms, d.skipped)) =
    [([("C", .all), ("m", .all), ("k", .macosOnly), ("E", ⟨true, false, true⟩),
      ("x", ⟨true, false, true⟩), ("y", .macosOnly), ("f", .linuxOnly),
      ("K", ⟨true, false, true⟩)], [])] := by
  rw [readAll, partialSources, List.mapM_cons, List.mapM_cons, List.mapM_cons, Source.repository,
    Source.root, tokens_linuxSource, Source.repository, Source.root, tokens_macosSource,
    Source.repository, Source.root, tokens_windowsSource]
  refine ⟨_, _, rfl, rfl, ?_⟩
  decide +kernel

theorem platforms_of_partialSources : ∃ merged decisions stats,
    compileSources { Options.default with defaultPatches := false } partialSources =
      .ok (decisions, stats) ∧
    decisions.map (fun d => (d.listedPlatforms, d.skipped)) =
      [([("C", .all), ("m", .all), ("k", .macosOnly), ("E", ⟨true, false, true⟩),
        ("x", ⟨true, false, true⟩), ("y", .macosOnly), ("f", .linuxOnly),
        ("K", ⟨true, false, true⟩)], [])] ∧
    List.Forall₂ (fun (r : Repository) d => d.HasExactPlatforms partialSources r.library)
      merged decisions := by
  obtain ⟨rs, libraries, hread, hmerged, hlists⟩ := lists_partialSources
  have hok : compileSources { Options.default with defaultPatches := false } partialSources =
      .ok _ := Attempt.bind_eq_ok_iff.2 ⟨(libraries, 0), Attempt.bind_eq_ok_iff.2
    ⟨libraries, Attempt.bind_eq_ok_iff.2 ⟨rs, hread, hmerged⟩, rfl⟩, rfl⟩
  obtain ⟨merged, -, -, hexact, -⟩ := platforms_of_compileSources hok rfl rfl
  exact ⟨merged, _, _, hok, hlists, hexact⟩

end GirBind
