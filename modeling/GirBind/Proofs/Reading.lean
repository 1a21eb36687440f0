import GirBind.Proofs.Decided
import GirBind.Proofs.MemberMap

namespace GirBind

def Parameter.editDoc (δ : Option String → Option String) (p : Parameter) : Parameter :=
  { p with doc := δ p.doc }

def Callable.editDocs (δ : Option String → Option String) (c : Callable) : Callable :=
  { c with
    doc := δ c.doc
    docDeprecated := δ c.docDeprecated
    parameters := c.parameters.map (·.editDoc δ)
    instanceParameter := c.instanceParameter.map (·.editDoc δ)
    returnValue := c.returnValue.map (·.editDoc δ) }

theorem Callable.editDocs_id (c : Callable) : c.editDocs id = c := by
  simp only [editDocs, Parameter.editDoc, id, List.map_id_fun', Option.map_id_fun']

def MemberDecision.editDoc (g : Option Doc.Converted → Option Doc.Converted) (d : MemberDecision) :
    MemberDecision :=
  { d with doc := g d.doc }

def EnumMemberDecision.editDoc (g : Option Doc.Converted → Option Doc.Converted)
    (d : EnumMemberDecision) : EnumMemberDecision :=
  { d with doc := g d.doc }

def EnumerationDecision.editDocs (g : Option Doc.Converted → Option Doc.Converted)
    (d : EnumerationDecision) : EnumerationDecision :=
  { d with members := d.members.map (·.editDoc g) }

def ConstantDecision.editDoc (g : Option Doc.Converted → Option Doc.Converted)
    (d : ConstantDecision) : ConstantDecision :=
  { d with doc := g d.doc }

def TypeDecision.editDocs (g : Option Doc.Converted → Option Doc.Converted) (d : TypeDecision) :
    TypeDecision :=
  { d with
    enumeration := d.enumeration.map (·.editDocs g)
    callback := d.callback.map (·.editDoc g)
    members := d.members.map (·.editDoc g)
    doc := g d.doc }

def NamespaceDecision.editDocs (g : Option Doc.Converted → Option Doc.Converted)
    (d : NamespaceDecision) : NamespaceDecision :=
  { d with
    types := d.types.map (·.editDocs g)
    functions := d.functions.map (·.editDoc g)
    constants := d.constants.map (·.editDoc g) }

theorem NamespaceDecision.editDocs_id (d : NamespaceDecision) : d.editDocs id = d := by
  simp only [editDocs, TypeDecision.editDocs, EnumerationDecision.editDocs,
    EnumMemberDecision.editDoc, MemberDecision.editDoc, ConstantDecision.editDoc, id,
    List.map_id_fun', Option.map_id_fun']

/-- After `g`, comments are the same where the documentation is the same after `δ`. -/
structure Doc.Follows (δ : Option String → Option String)
    (g : Option Doc.Converted → Option Doc.Converted) : Prop where
  text : ∀ {x y : Option String}, δ x = δ y → ∀ k : String → Doc.Converted,
    g (x.map k) = g (y.map k)
  callable : ∀ {c c' : Callable}, c.editDocs δ = c'.editDocs δ →
    ∀ (ctx : Doc.Context) (use : Doc.CallableUse),
      g (ctx.callableComment c use) = g (ctx.callableComment c' use)

theorem Doc.follows_id : Doc.Follows id id where
  text h _ := by
    change _ = _ at h
    exact congrArg (Option.map _) h
  callable h _ _ := by
    rw [Callable.editDocs_id, Callable.editDocs_id] at h
    rw [h]

theorem Doc.follows_none : Doc.Follows (fun _ => none) fun _ => none where
  text _ _ := rfl
  callable _ _ _ := rfl

section

variable {δ : Option String → Option String}

theorem Parameter.hiddenIndexes_editDoc (ps : List Parameter) :
    hiddenIndexes (ps.map (·.editDoc δ)) = hiddenIndexes ps := by
  have hides (p : Parameter) : (p.editDoc δ).hides (ps.map (·.editDoc δ)) = p.hides ps := by
    simp only [Parameter.hides, List.getElem?_map, Option.map_map, Function.comp_def]
    rfl
  simp only [hiddenIndexes, List.flatMap_map, hides]

theorem Callable.returnType?_editDocs (c : Callable) :
    (c.editDocs δ).returnType? = c.returnType? := by
  rw [returnType?, editDocs, Option.bind_map]
  rfl

theorem Callable.name_congr {c c' : Callable} (h : c.editDocs δ = c'.editDocs δ) :
    c.name = c'.name :=
  (congrArg name h : (c.editDocs δ).name = (c'.editDocs δ).name)

theorem SymbolTable.descriptor_editDocs (table : SymbolTable) (library declaration : String)
    (c : Callable) :
    table.descriptor library declaration (c.editDocs δ) =
      table.descriptor library declaration c := by
  have hrules : ((c.parameters.map (·.editDoc δ)).takeWhile fun p => !p.isVariadic).mapM
        (table.parameterRule library declaration) =
      (c.parameters.takeWhile fun p => !p.isVariadic).mapM
        (table.parameterRule library declaration) := by
    rw [List.takeWhile_map, List.mapM_map]
    rfl
  have hvariadic : (c.parameters.map (·.editDoc δ)).any Parameter.isVariadic =
      c.parameters.any Parameter.isVariadic := by
    rw [List.any_map]
    rfl
  have hresult : table.returnRule library declaration (c.editDocs δ) =
      table.returnRule library declaration c := by
    rw [returnRule, returnRule, Callable.returnType?_editDocs]
  rw [descriptor, descriptor, hresult]
  simp only [Callable.editDocs, hrules, hvariadic]
  rfl

namespace BindingContext

variable {ctx : BindingContext} {declaration : String} {owner : Option RegisteredType}

theorem parameterDecisions_editDoc (ps : List Parameter) :
    ctx.parameterDecisions declaration (ps.map (·.editDoc δ)) =
      ctx.parameterDecisions declaration ps := by
  rw [parameterDecisions, parameterDecisions, Parameter.hiddenIndexes_editDoc, List.zipIdx_map,
    List.mapM_map]
  rfl

theorem signature_editDocs (c : Callable) :
    ctx.signature declaration owner (c.editDocs δ) = ctx.signature declaration owner c := by
  have hreturn : ctx.returnType declaration owner (c.editDocs δ) =
      ctx.returnType declaration owner c := by
    unfold returnType
    rw [Callable.returnType?_editDocs]
    rfl
  rw [signature, signature, SymbolTable.descriptor_editDocs, hreturn]
  simp only [Callable.editDocs, parameterDecisions_editDoc]

theorem bindingForm_editDocs (c : Callable) :
    BindingForm.of owner (c.editDocs δ) = BindingForm.of owner c :=
  rfl

theorem suppression?_editDocs (c : Callable) :
    suppression? owner (c.editDocs δ) = suppression? owner c :=
  rfl

theorem memberDecision_editDocs (c : Callable) (sig : Signature) :
    (ctx.memberDecision owner (c.editDocs δ) sig).editDoc (fun _ => none) =
      (ctx.memberDecision owner c sig).editDoc fun _ => none := by
  have hhelper (t : RegisteredType) (form : BindingForm) :
      ctx.constructorHelper t form (c.editDocs δ) = ctx.constructorHelper t form c := by
    simp only [constructorHelper, Callable.editDocs, Option.map_map]
    rfl
  have hvisible (form : BindingForm) :
      (c.editDocs δ).visibleName owner form = c.visibleName owner form :=
    rfl
  have hsignal : signalInfo (c.editDocs δ) = signalInfo c := rfl
  simp only [memberDecision, MemberDecision.editDoc, hhelper, hvisible, hsignal,
    bindingForm_editDocs, suppression?_editDocs]
  rfl

/-- Apart from the comment, the documentation of a callable decides nothing. -/
theorem bindCallable_congr {g : Option Doc.Converted → Option Doc.Converted}
    (hg : Doc.Follows δ g) {c c' : Callable} (h : c.editDocs δ = c'.editDocs δ) :
    (ctx.bindCallable declaration owner c).map (·.editDoc g) =
      (ctx.bindCallable declaration owner c').map (·.editDoc g) := by
  have hdecision (sig : Signature) :
      (ctx.memberDecision owner c sig).editDoc g = (ctx.memberDecision owner c' sig).editDoc g := by
    have hplain : (ctx.memberDecision owner c sig).editDoc (fun _ => none) =
        (ctx.memberDecision owner c' sig).editDoc fun _ => none := by
      rw [← memberDecision_editDocs (δ := δ) c, h, memberDecision_editDocs]
    have huse : (⟨BindingForm.of owner c == .constructor, ctx.callablePlatforms owner c,
          c.kind == .signal⟩ : Doc.CallableUse) =
        ⟨BindingForm.of owner c' == .constructor, ctx.callablePlatforms owner c',
          c'.kind == .signal⟩ :=
      congrArg (fun d : MemberDecision =>
        (⟨d.binding == .constructor, d.platforms, d.kind == .signal⟩ : Doc.CallableUse)) hplain
    have hdoc : g (ctx.memberDecision owner c sig).doc =
        g (ctx.memberDecision owner c' sig).doc := by
      rw [memberDecision, memberDecision, huse]
      exact hg.callable h ctx.doc _
    exact congrArg₂ (fun d doc => { d with doc }) hplain hdoc
  have hsuppression : suppression? owner c = suppression? owner c' := by
    rw [← suppression?_editDocs (δ := δ) c, h, suppression?_editDocs]
  have hsignature : ctx.signature declaration owner c = ctx.signature declaration owner c' := by
    rw [← signature_editDocs (δ := δ) c, h, signature_editDocs]
  rw [bindCallable, bindCallable, boundSignature, boundSignature, hsuppression, hsignature]
  cases if (suppression? owner c').isSome = true then Except.ok Signature.none
      else ctx.signature declaration owner c' with
  | error o => rfl
  | ok sig => exact congrArg Except.ok (hdecision sig)

theorem map_attempts_congr {g : Option Doc.Converted → Option Doc.Converted}
    (hg : Doc.Follows δ g) (label : String → String) {l l' : List Callable}
    (hl : l.map (·.editDocs δ) = l'.map (·.editDocs δ)) :
    (l.map fun c => (ctx.bindCallable (label c.name) owner c).mapError
        (SkippedDeclaration.of (label c.name))).map (Except.map (·.editDoc g)) =
      (l'.map fun c => (ctx.bindCallable (label c.name) owner c).mapError
        (SkippedDeclaration.of (label c.name))).map (Except.map (·.editDoc g)) := by
  induction l generalizing l' with
  | nil =>
    rw [List.map_nil, eq_comm, List.map_eq_nil_iff] at hl
    rw [hl]
  | cons c l ih =>
    rw [List.map_cons, eq_comm, List.map_eq_cons_iff] at hl
    obtain ⟨c', l', rfl, hc, hl⟩ := hl
    simp only [List.map_cons, ih hl.symm, map_mapError, Callable.name_congr hc,
      bindCallable_congr hg hc]

theorem skippedByType_map (f : TypeDecision → TypeDecision)
    (x : Except SkippedDeclaration (TypeDecision × List SkippedDeclaration)) :
    skippedByType (x.map (Prod.map f id)) = skippedByType x := by
  cases x with
  | error s => rfl
  | ok d => rfl

/-- Decisions about a namespace follow from what is attempted in it. -/
theorem bindNamespace_congr {g : Option Doc.Converted → Option Doc.Converted}
    {ctx' : BindingContext} {floating floating' : FloatingTable}
    (hheader : { ctx.library with types := ∅, functions := [], constants := [], other := [] } =
      { ctx'.library with types := ∅, functions := [], constants := [], other := [] })
    (hnaming : ctx.table.naming = ctx'.table.naming)
    (htypes : (ctx.typeAttempts floating).map (Except.map (Prod.map (·.editDocs g) id)) =
      (ctx'.typeAttempts floating').map (Except.map (Prod.map (·.editDocs g) id)))
    (hfunctions : ctx.functionAttempts.map (Except.map (·.editDoc g)) =
      ctx'.functionAttempts.map (Except.map (·.editDoc g)))
    (hconstants : ctx.constantAttempts.map (Except.map (·.editDoc g)) =
      ctx'.constantAttempts.map (Except.map (·.editDoc g))) :
    (ctx.bindNamespace floating).editDocs g = (ctx'.bindNamespace floating').editDocs g := by
  obtain ⟨hname, hversion, hattributes, -, -, -, -, hplatforms⟩ := Namespace.mk.inj hheader
  have hskipped : (ctx.typeAttempts floating).flatMap skippedByType =
      (ctx'.typeAttempts floating').flatMap skippedByType := by
    have hmap := congrArg (List.flatMap skippedByType) htypes
    simpa only [List.flatMap_map, skippedByType_map] using hmap
  obtain ⟨hdecidedTypes, -⟩ := decided_refused_congr htypes
  obtain ⟨hdecidedFunctions, hrefusedFunctions⟩ := decided_refused_congr hfunctions
  obtain ⟨hdecidedConstants, hrefusedConstants⟩ := decided_refused_congr hconstants
  have hdecided : ((decided (ctx.typeAttempts floating)).map Prod.fst).map (·.editDocs g) =
      ((decided (ctx'.typeAttempts floating')).map Prod.fst).map (·.editDocs g) := by
    have hfst := congrArg (List.map Prod.fst) hdecidedTypes
    rw [List.map_map, List.map_map] at hfst ⊢
    exact hfst
  simp only [bindNamespace, NamespaceDecision.editDocs, Namespace.sharedLibrary?,
    SymbolTable.package, hnaming, hname, hversion, hattributes, hplatforms, hdecided,
    hdecidedFunctions, hdecidedConstants, hskipped, hrefusedFunctions, hrefusedConstants]

end BindingContext
end

namespace TypeRef

theorem ofNode?_eq (n : Node) : ofNode? n =
    if n.kind = .type ∨ n.kind = .array then
      some {
        isArray := n.kind == .array
        name := n.name?
        cType := n.cType?
        element := if n.kind = .array then firstOf? n.children else none
        length := (n.attr? "length").bind Numeral.index?
        fixedSize := (n.attr? "fixed-size").bind Numeral.index?
        zeroTerminated := n.flag "zero-terminated" false }
    else
      none := by
  cases n
  rw [ofNode?]

theorem firstOf?_map {φ : Node → Node} {ns : List Node}
    (h : ∀ n ∈ ns, ofNode? (φ n) = ofNode? n) : firstOf? (ns.map φ) = firstOf? ns := by
  induction ns with
  | nil => rfl
  | cons n ns ih =>
    obtain ⟨hn, hns⟩ := List.forall_mem_cons.1 h
    rw [List.map_cons, firstOf?, firstOf?, hn, ih hns]

end TypeRef

/-- A change of elements and of everything in them that leaves what they declare. Their
documentation stays the same after `δ`. -/
structure Node.Forgets (δ : Option String → Option String) (ψ : Node → Node) : Prop where
  kind : ∀ n, (ψ n).kind = n.kind
  attributes : ∀ n, (ψ n).attributes = n.attributes
  children : ∀ n, (ψ n).children = n.children.map ψ
  doc? : ∀ n, δ (ψ n).doc? = δ n.doc?
  docDeprecated? : ∀ n, δ (ψ n).docDeprecated? = δ n.docDeprecated?

namespace Node.Forgets

variable {δ : Option String → Option String} {ψ : Node → Node} (h : Forgets δ ψ) {m n : Node}

include h

theorem attr? (n : Node) (key : String) : (ψ n).attr? key = n.attr? key := by
  rw [Node.attr?, h.attributes, Node.attr?]

theorem child? (n : Node) (kind : NodeKind) : (ψ n).child? kind = (n.child? kind).map ψ := by
  rw [Node.child?, h.children, List.find?_map]
  simp only [Function.comp_def, h.kind, Node.child?]

theorem childrenOf (n : Node) (kind : NodeKind) :
    (ψ n).childrenOf kind = (n.childrenOf kind).map ψ := by
  rw [Node.childrenOf, h.children, List.filter_map]
  simp only [Function.comp_def, h.kind, Node.childrenOf]

theorem typeRef (n : Node) : TypeRef.ofNode? (ψ n) = TypeRef.ofNode? n := by
  induction n using children_induction with
  | step n ih =>
    rw [TypeRef.ofNode?_eq, TypeRef.ofNode?_eq n, h.children, TypeRef.firstOf?_map ih]
    simp only [h.kind, name?, cType?, flag, h.attr?]

theorem ofParent? (n : Node) : TypeRef.ofParent? (ψ n) = TypeRef.ofParent? n := by
  rw [TypeRef.ofParent?, h.children]
  exact TypeRef.firstOf?_map fun m _ => h.typeRef m

theorem parameter (n : Node) :
    (Parameter.ofNode (ψ n)).editDoc δ = (Parameter.ofNode n).editDoc δ := by
  simp only [Parameter.ofNode, Parameter.editDoc, h.ofParent?, h.child?, h.doc?, Option.isSome_map,
    name?, flag, h.attr?]

theorem callable (n : Node) :
    (Callable.ofNode? (ψ n)).map (fun c => { c.editDocs δ with platforms := n.platforms }) =
      (Callable.ofNode? n).map (·.editDocs δ) := by
  have hparameters : ((((n.child? .parameters).map ψ).map fun ps =>
      (ps.childrenOf .parameter).map Parameter.ofNode).getD []).map (·.editDoc δ) =
        ((((n.child? .parameters).map fun ps =>
          (ps.childrenOf .parameter).map Parameter.ofNode)).getD []).map (·.editDoc δ) := by
    cases n.child? .parameters with
    | none => rfl
    | some ps =>
      simp only [Option.map_some, Option.getD_some, h.childrenOf, List.map_map, Function.comp_def,
        h.parameter]
  have hinstance : ((((n.child? .parameters).map ψ).bind
      (·.child? .instanceParameter)).map Parameter.ofNode).map (·.editDoc δ) =
        (((n.child? .parameters).bind (·.child? .instanceParameter)).map Parameter.ofNode).map
          (·.editDoc δ) := by
    rw [Option.bind_map, Option.map_bind, Option.map_bind, Option.map_bind, Option.map_bind]
    simp only [Function.comp_def, h.child?, Option.map_map, h.parameter]
  have hreturn : (((n.child? .returnValue).map ψ).map Parameter.ofNode).map (·.editDoc δ) =
      ((n.child? .returnValue).map Parameter.ofNode).map (·.editDoc δ) := by
    simp only [Option.map_map, Function.comp_def, h.parameter]
  rw [Callable.ofNode?, Callable.ofNode?, Option.map_map, Option.map_map, h.kind]
  simp only [Function.comp_def, Callable.editDocs, h.child?, hparameters, hinstance, hreturn,
    h.doc?, h.docDeprecated?, name, name?, cIdentifier?, deprecated, introspectable, flag, h.attr?]

theorem attr?_congr (hmn : ψ m = ψ n) (key : String) : m.attr? key = n.attr? key := by
  rw [← h.attr? m, hmn, h.attr?]

theorem ofParent?_congr (hmn : ψ m = ψ n) : TypeRef.ofParent? m = TypeRef.ofParent? n := by
  rw [← h.ofParent? m, hmn, h.ofParent?]

theorem doc?_congr (hmn : ψ m = ψ n) : δ m.doc? = δ n.doc? := by
  rw [← h.doc? m, hmn, h.doc?]

theorem callable_congr (hmn : ψ m = ψ n) (hp : m.platforms = n.platforms) :
    (Callable.ofNode? m).map (·.editDocs δ) = (Callable.ofNode? n).map (·.editDocs δ) := by
  rw [← h.callable m, ← h.callable n, hmn, hp]

end Node.Forgets
end GirBind
