import GirBind.Proofs.Reading

namespace GirBind

/-- A change `φ` of members that no decision about their owner depends on, since `ψ` forgets it. -/
structure Node.Hides (δ : Option String → Option String) (ψ φ : Node → Node) : Prop
    extends Forgets δ ψ where
  member : ∀ n, ψ (φ n) = ψ n
  owner : ∀ n : Node, ψ (n.mapMembers φ) = ψ n
  platforms : ∀ n, (φ n).platforms = n.platforms

variable {δ : Option String → Option String} {ψ φ : Node → Node}

namespace Node.Hides

variable (h : Hides δ ψ φ)

include h

theorem memberKind (n : Node) : (φ n).kind = n.kind := by
  rw [← h.kind, h.member, h.kind]

theorem memberAttr? (n : Node) (key : String) : (φ n).attr? key = n.attr? key :=
  h.attr?_congr (h.member n) key

theorem memberName? (n : Node) : (φ n).name? = n.name? := h.memberAttr? n "name"

theorem memberCallable (n : Node) :
    (Callable.ofNode? (φ n)).map (·.editDocs δ) = (Callable.ofNode? n).map (·.editDocs δ) :=
  h.callable_congr (h.member n) (h.platforms n)

theorem filterKind (q : NodeKind → Bool) (ns : List Node) :
    (ns.map φ).filter (fun n => q n.kind) = (ns.filter fun n => q n.kind).map φ := by
  rw [List.filter_map]
  simp only [Function.comp_def, h.memberKind]

theorem filterMap_name? (ns : List Node) :
    (ns.map φ).filterMap Node.name? = ns.filterMap Node.name? := by
  rw [List.filterMap_map]
  exact congrArg (List.filterMap · ns) (funext h.memberName?)

theorem filterMap_callable (ns : List Node) :
    ((ns.map φ).filterMap Callable.ofNode?).map (·.editDocs δ) =
      (ns.filterMap Callable.ofNode?).map (·.editDocs δ) := by
  rw [List.filterMap_map, List.map_filterMap, List.map_filterMap]
  exact congrArg (List.filterMap · ns) (funext h.memberCallable)

end Node.Hides

namespace RegisteredType

variable (h : Node.Hides δ ψ φ) (t : RegisteredType)

include h

theorem childrenOf_mapMembers (kind : NodeKind) :
    (t.mapMembers φ).node.childrenOf kind = (t.node.childrenOf kind).map φ :=
  h.filterKind (· == kind) t.node.children

theorem aliasTarget?_mapMembers : (t.mapMembers φ).aliasTarget? = t.aliasTarget? := by
  rw [aliasTarget?, aliasTarget?, mapMembers, h.ofParent?_congr (h.owner t.node)]

theorem implements_mapMembers : (t.mapMembers φ).implements = t.implements := by
  rw [implements, childrenOf_mapMembers h, h.filterMap_name?]
  rfl

theorem prerequisites_mapMembers : (t.mapMembers φ).prerequisites = t.prerequisites := by
  rw [prerequisites, childrenOf_mapMembers h, h.filterMap_name?]
  rfl

theorem hasMethod_mapMembers (name : String) :
    (t.mapMembers φ).hasMethod name = t.hasMethod name := by
  rw [hasMethod, methods, childrenOf_mapMembers h, List.any_map]
  exact congrArg (List.any _) (funext fun n => by rw [Function.comp_apply, h.memberName?])

theorem hasNoLayout_mapMembers : (t.mapMembers φ).hasNoLayout = t.hasNoLayout := by
  have hunion : ((t.mapMembers φ).node.child? .union).isNone = (t.node.child? .union).isNone := by
    have hchild := congrArg Option.isNone (h.child? (t.node.mapMembers φ) .union)
    rw [h.owner, h.child?, Option.isNone_map, Option.isNone_map] at hchild
    exact hchild.symm
  rw [hasNoLayout, hunion, fields, childrenOf_mapMembers h, List.isEmpty_map]
  rfl

end RegisteredType

namespace BindingContext

variable (h : Node.Hides δ ψ φ) (ctx : BindingContext) (t : RegisteredType)

theorem bindingForm_mapMembers (c : Callable) :
    BindingForm.of (some (t.mapMembers φ)) c = BindingForm.of (some t) c := by
  unfold BindingForm.of
  cases c.kind with
  | _ => rfl

theorem bindCallable_mapMembers (declaration : String) (c : Callable) :
    ctx.bindCallable declaration (some (t.mapMembers φ)) c =
      ctx.bindCallable declaration (some t) c := by
  have hsuppression : suppression? (some (t.mapMembers φ)) c = suppression? (some t) c := by
    rw [suppression?, bindingForm_mapMembers]
    rfl
  have hdecision : ctx.memberDecision (some (t.mapMembers φ)) c =
      ctx.memberDecision (some t) c := by
    funext sig
    simp only [memberDecision, bindingForm_mapMembers, hsuppression]
    rfl
  have hreturn : ctx.returnType declaration (some (t.mapMembers φ)) c =
      ctx.returnType declaration (some t) c := by
    unfold returnType
    cases c.kind with
    | _ => rfl
  rw [bindCallable, bindCallable, boundSignature, boundSignature, signature, signature,
    hsuppression, hdecision, hreturn]

include h

theorem fieldDecisions_mapMembers :
    ctx.fieldDecisions (t.mapMembers φ) = ctx.fieldDecisions t := by
  rw [fieldDecisions, fieldDecisions, RegisteredType.fields,
    RegisteredType.childrenOf_mapMembers h, List.filterMap_map]
  refine congrArg (List.filterMap · _) (funext fun field => ?_)
  have htype (declaration : String) :
      ctx.fieldType declaration (φ field) = ctx.fieldType declaration field := by
    rw [fieldType, fieldType, h.ofParent?_congr (h.member field)]
  rw [Function.comp_apply, h.memberName?]
  simp only [htype]
  rfl

theorem recordDecision_mapMembers :
    ctx.recordDecision (t.mapMembers φ) = ctx.recordDecision t := by
  rw [recordDecision, fieldDecisions_mapMembers h, RegisteredType.hasNoLayout_mapMembers h]
  rfl

theorem aliasPart_mapMembers : ctx.aliasPart (t.mapMembers φ) = ctx.aliasPart t := by
  rw [aliasPart, aliasDecision, RegisteredType.aliasTarget?_mapMembers h]
  rfl

variable {g : Option Doc.Converted → Option Doc.Converted} (hg : Doc.Follows δ g)

include hg

theorem nodeComment_congr {m n : Node} (hmn : ψ m = ψ n) :
    g (ctx.doc.nodeComment m) = g (ctx.doc.nodeComment n) :=
  hg.text (h.doc?_congr hmn) _

theorem enumMemberDecision_member (n : Node) :
    (ctx.enumMemberDecision (φ n)).editDoc g = (ctx.enumMemberDecision n).editDoc g := by
  simp only [enumMemberDecision, EnumMemberDecision.editDoc,
    nodeComment_congr h ctx hg (h.member n), Node.name, Node.name?, Node.cIdentifier?,
    h.memberAttr?, h.platforms]

theorem enumerationDecision_mapMembers :
    (ctx.enumerationDecision (t.mapMembers φ)).editDocs g =
      (ctx.enumerationDecision t).editDocs g := by
  have hmembers : ((t.mapMembers φ).members.map ctx.enumMemberDecision).map (·.editDoc g) =
      (t.members.map ctx.enumMemberDecision).map (·.editDoc g) := by
    rw [RegisteredType.members, RegisteredType.childrenOf_mapMembers h, List.map_map, List.map_map,
      List.map_map]
    exact List.map_congr_left fun n _ => enumMemberDecision_member h ctx hg n
  exact congrArg (EnumerationDecision.mk _ _) hmembers

theorem callbackPart_mapMembers :
    (ctx.callbackPart (t.mapMembers φ)).map (Option.map (·.editDoc g)) =
      (ctx.callbackPart t).map (Option.map (·.editDoc g)) := by
  have hsome (x : Except Obstacle MemberDecision) :
      (x.map some).map (Option.map (·.editDoc g)) = (x.map (·.editDoc g)).map some := by
    cases x with
    | error o => rfl
    | ok d => rfl
  have hcallable : (Callable.ofNode? (t.mapMembers φ).node).map (·.editDocs δ) =
      (Callable.ofNode? t.node).map (·.editDocs δ) := h.callable_congr (h.owner t.node) rfl
  unfold callbackPart
  change Except.map _ (if t.variant = .callback then _ else _) = _
  by_cases hvariant : t.variant = .callback
  · rw [if_pos hvariant, if_pos hvariant]
    cases hc : Callable.ofNode? t.node with
    | none =>
      rw [hc, Option.map_none, Option.map_eq_none_iff] at hcallable
      rw [hcallable]
    | some c =>
      rw [hc, Option.map_some, Option.map_eq_some_iff] at hcallable
      obtain ⟨c', hc', hdocs⟩ := hcallable
      rw [hc']
      dsimp only
      rw [hsome, hsome, bindCallable_mapMembers, Callable.name_congr hdocs,
        bindCallable_congr hg hdocs]
  · rw [if_neg hvariant, if_neg hvariant]

theorem memberAttempts_mapMembers :
    (ctx.memberAttempts (t.mapMembers φ)).map (Except.map (·.editDoc g)) =
      (ctx.memberAttempts t).map (Except.map (·.editDoc g)) := by
  simp only [memberAttempts, bindCallable_mapMembers]
  exact map_attempts_congr hg (fun name => s!"{t.name}.{name}")
    (h.filterMap_callable t.node.children)

theorem typeDecision_mapMembers (floating : FloatingTable) (parent : Option String)
    (implements : List String) (aliasType : Option AliasDecision)
    {callback callback' : Option MemberDecision}
    (hcallback : callback.map (·.editDoc g) = callback'.map (·.editDoc g)) :
    (ctx.typeDecision floating (t.mapMembers φ) parent implements aliasType callback).editDocs g =
      (ctx.typeDecision floating t parent implements aliasType callback').editDocs g := by
  have henumeration : (if t.variant = .enumeration then
        some (ctx.enumerationDecision (t.mapMembers φ)) else none).map (·.editDocs g) =
      (if t.variant = .enumeration then some (ctx.enumerationDecision t) else none).map
        (·.editDocs g) := by
    split
    case isTrue => exact congrArg some (enumerationDecision_mapMembers h ctx t hg)
    case isFalse => rfl
  have hmembers := (decided_refused_congr (memberAttempts_mapMembers h ctx t hg)).1
  have hdoc : g (ctx.doc.typeComment (t.mapMembers φ)) = g (ctx.doc.typeComment t) :=
    hg.text (h.doc?_congr (h.owner t.node)) _
  simp only [typeDecision, TypeDecision.editDocs, recordDecision_mapMembers h, hcallback, hmembers,
    hdoc]
  exact congrArg (fun enumeration => { (ctx.typeDecision floating t parent implements aliasType
    callback').editDocs g with enumeration }) henumeration

theorem bindType_mapMembers (floating : FloatingTable) :
    (ctx.bindType floating (t.mapMembers φ)).map (Prod.map (·.editDocs g) id) =
      (ctx.bindType floating t).map (Prod.map (·.editDocs g) id) := by
  have hrefused := (decided_refused_congr (memberAttempts_mapMembers h ctx t hg)).2
  have hcallback := callbackPart_mapMembers h ctx t hg
  rw [bindType, bindType, RegisteredType.implements_mapMembers h,
    RegisteredType.prerequisites_mapMembers h, aliasPart_mapMembers h, hrefused]
  change Except.map _ (t.parent?.mapM (ctx.superType t.name) >>= fun parent =>
    (t.implements ++ t.prerequisites).mapM (ctx.superType t.name) >>= _) = _
  cases t.parent?.mapM (ctx.superType t.name) with
  | error o => rfl
  | ok parent =>
    cases (t.implements ++ t.prerequisites).mapM (ctx.superType t.name) with
    | error o => rfl
    | ok implements =>
      cases ctx.aliasPart t with
      | error o => rfl
      | ok aliasType =>
        revert hcallback
        generalize ctx.callbackPart (t.mapMembers φ) = x
        generalize ctx.callbackPart t = y
        intro hcallback
        cases x with
        | error o =>
          cases y with
          | error o' =>
            cases hcallback
            rfl
          | ok callback' => cases hcallback
        | ok callback =>
          cases y with
          | error o' => cases hcallback
          | ok callback' =>
            have hdecision := typeDecision_mapMembers h ctx t hg floating parent implements
              aliasType (Except.ok.inj hcallback)
            exact congrArg (fun d => Except.ok (d, refused (ctx.memberAttempts t))) hdecision

theorem bindConstant_member (n : Node) :
    (ctx.bindConstant (φ n)).map (·.editDoc g) = (ctx.bindConstant n).map (·.editDoc g) := by
  have hdoc := nodeComment_congr h ctx hg (h.member n)
  simp only [bindConstant, h.ofParent?_congr (h.member n), Node.name, Node.name?, h.memberAttr?,
    h.platforms]
  cases TypeRef.ofParent? n with
  | none => rfl
  | some t =>
    dsimp only
    cases ctx.table.resolveRef ctx.library.name ((n.attr? "name").getD "") t with
    | error o => rfl
    | ok resolved =>
      dsimp only [bind, Except.bind]
      cases ctx.table.underlying ((n.attr? "name").getD "") resolved with
      | error o => rfl
      | ok underlying =>
        cases underlying with
        | registered e => rfl
        | primitive p =>
          dsimp only
          cases Java.literal? p ((n.attr? "value").getD "") with
          | none => rfl
          | some value =>
            exact congrArg (fun doc => Except.ok (ConstantDecision.mk _ _ _ _ _ doc)) hdoc

/-- Decisions about a namespace differ at most in comments after a change of members that hides
nothing else. -/
theorem bindNamespace_mapMembers (table : SymbolTable) (ns : Namespace)
    (floating : FloatingTable) :
    (bindNamespace ⟨table, ns.mapMembers φ⟩ floating).editDocs g =
      (bindNamespace ⟨table, ns⟩ floating).editDocs g := by
  refine bindNamespace_congr rfl rfl ?_ ?_ ?_
  · rw [typeAttempts, typeAttempts, Namespace.mapMembers, OrderedMap.values_map, List.map_map,
      List.map_map, List.map_map]
    refine List.map_congr_left fun t _ => ?_
    simp only [Function.comp_apply, map_mapError]
    exact congrArg (Except.mapError _) (bindType_mapMembers h ⟨table, ns⟩ t hg floating)
  · exact map_attempts_congr hg id (h.filterMap_callable ns.functions)
  · rw [constantAttempts, constantAttempts, Namespace.mapMembers, List.map_map, List.map_map,
      List.map_map]
    refine List.map_congr_left fun n _ => ?_
    simp only [Function.comp_apply, map_mapError, Node.name, h.memberName?]
    exact congrArg (Except.mapError _) (bindConstant_member h ⟨table, ns⟩ hg n)

end BindingContext
end GirBind
