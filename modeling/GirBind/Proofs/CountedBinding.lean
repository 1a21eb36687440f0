import GirBind.Binding.Namespace
import GirBind.Proofs.Doc.Counting
import GirBind.Proofs.EmittedComments

namespace GirBind

open Counting (Adds)

/-- An attempt to bind a declaration that counts as it goes. What it has added to the count stays
there if it fails. -/
abbrev CountedAttempt : Type → Type := ExceptT Obstacle Counting

section

variable {ε α β : Type}

def weighed (w : α → Nat) : Except ε α → Nat
  | .ok a => w a
  | .error _ => 0

theorem sum_weighed (w : α → Nat) (l : List (Except ε α)) :
    (l.map (weighed w)).sum = ((decided l).map w).sum := by
  rw [decided, sum_map_filterMap]
  refine congrArg List.sum (List.map_congr_left fun x _ => ?_)
  cases x with
  | error e => rfl
  | ok a => rfl

namespace CountedAttempt

/-- The attempt has the given outcome and adds its weight to the count. -/
def Weighs (w : α → Nat) (x : CountedAttempt α) (y : Except Obstacle α) : Prop :=
  Adds x.run y (weighed w y)

def noted (name : String) (x : CountedAttempt α) : Counting (Except SkippedDeclaration α) :=
  Except.mapError (.of name) <$> x.run

variable {w : β → Nat} {y : Except Obstacle α} {f : α → CountedAttempt β}

theorem adds_lift {x : Counting α} {a : α} {k : Nat} (hx : Adds x a k) :
    Adds (liftM x : CountedAttempt α).run (.ok a) k :=
  hx.map Except.ok

theorem adds_bind {x : Counting α} {a : α} {b : Except Obstacle β} {j k : Nat} (hx : Adds x a j)
    (hf : Adds (f a).run b k) : Adds (liftM x >>= f : CountedAttempt β).run b (j + k) := by
  rw [ExceptT.run_bind]
  exact Adds.bind (adds_lift hx) hf

theorem weighs_lift (y : Except Obstacle α) : Weighs (fun _ => 0) (liftM y) y := by
  cases y with
  | error o => exact .pure _
  | ok a => exact .pure _

theorem weighs_bind_uncounted {x : Counting α} {a : α} {b : Except Obstacle β} (hx : Adds x a 0)
    (hf : Weighs w (f a) b) : Weighs w (liftM x >>= f) b := by
  have hbind := adds_bind hx hf
  rw [Nat.zero_add] at hbind
  exact hbind

/-- A step that counts nothing may fail. -/
theorem weighs_bind {g : α → Except Obstacle β} (hf : ∀ a, Weighs w (f a) (g a)) :
    Weighs w (liftM y >>= f) (y >>= g) := by
  cases y with
  | error o => exact .pure _
  | ok a => exact hf a

/-- After a step that counts, nothing may fail. -/
theorem weighs_bind_map {v : α → Nat} {x : CountedAttempt α} {g : α → β} (hx : Weighs v x y)
    (hf : ∀ a, ∃ k, Adds (f a).run (.ok (g a)) k ∧ v a + k = w (g a)) :
    Weighs w (x >>= f) (y.map g) := by
  rw [Weighs, ExceptT.run_bind]
  cases y with
  | error o =>
    change Adds _ (Except.error o) (0 + 0)
    apply Adds.bind hx
    exact .pure _
  | ok a =>
    obtain ⟨k, hk, hsum⟩ := hf a
    change Adds _ (Except.ok (g a)) (w (g a))
    rw [← hsum]
    apply Adds.bind hx
    exact hk

theorem adds_noted {x : CountedAttempt β} {y : Except Obstacle β} (h : Weighs w x y)
    (name : String) :
    Adds (x.noted name) (y.mapError (SkippedDeclaration.of name))
      (weighed w (y.mapError (SkippedDeclaration.of name))) := by
  have hweight : weighed w (y.mapError (SkippedDeclaration.of name)) = weighed w y := by
    cases y with
    | error o => rfl
    | ok b => rfl
  rw [hweight]
  exact Adds.map h _

theorem adds_attempts {g : α → Except Obstacle β} (name : α → String)
    (h : ∀ a, Weighs w (f a) (g a)) (l : List α) :
    Adds (l.mapM fun a => (f a).noted (name a))
      (l.map fun a => (g a).mapError (SkippedDeclaration.of (name a)))
      (((decided (l.map fun a =>
        (g a).mapError (SkippedDeclaration.of (name a)))).map w).sum) := by
  rw [← sum_weighed]
  apply Adds.listMapM
  intro a
  exact adds_noted (h a) (name a)

end CountedAttempt
end

open CountedAttempt (Weighs adds_attempts adds_bind adds_lift weighs_bind weighs_bind_map
  weighs_bind_uncounted weighs_lift)
open Doc (missesOf)

def MemberDecision.withDoc (d : MemberDecision) (doc : Option Doc.Converted) : MemberDecision :=
  { d with doc }

def EnumMemberDecision.withDoc (d : EnumMemberDecision) (doc : Option Doc.Converted) :
    EnumMemberDecision :=
  { d with doc }

theorem EnumMemberDecision.withDoc_self (d : EnumMemberDecision) : d.withDoc d.doc = d := rfl

def EnumerationDecision.withMembers (d : EnumerationDecision) (members : List EnumMemberDecision) :
    EnumerationDecision :=
  { d with members }

def MemberDecision.misses (d : MemberDecision) : Nat := missesOf d.doc

def EnumMemberDecision.misses (d : EnumMemberDecision) : Nat := missesOf d.doc

def EnumerationDecision.misses (d : EnumerationDecision) : Nat :=
  (d.members.map EnumMemberDecision.misses).sum

def ConstantDecision.misses (d : ConstantDecision) : Nat := missesOf d.doc

def TypeDecision.misses (d : TypeDecision) : Nat := (d.docs.map Doc.Converted.misses).sum

theorem TypeDecision.misses_eq (d : TypeDecision) :
    d.misses = d.enumeration.elim 0 EnumerationDecision.misses +
      (d.callback.elim 0 MemberDecision.misses +
        ((d.members.map MemberDecision.misses).sum + missesOf d.doc)) := by
  have henumeration : (((d.enumeration.map fun e => e.members.filterMap (·.doc)).getD []).map
      Doc.Converted.misses).sum = d.enumeration.elim 0 EnumerationDecision.misses := by
    cases d.enumeration with
    | none => rfl
    | some e => exact sum_map_filterMap _ _ _
  have hcallback : (d.callback.bind (·.doc)).elim 0 Doc.Converted.misses =
      d.callback.elim 0 MemberDecision.misses := by
    cases d.callback with
    | none => rfl
    | some m => rfl
  rw [misses, docs, List.map_append, List.map_append, List.map_append, List.sum_append, List.sum_append,
    List.sum_append, henumeration, sum_map_toList, sum_map_toList, hcallback, sum_map_filterMap]
  change missesOf d.doc + _ + _ + (d.members.map MemberDecision.misses).sum = _
  omega

theorem NamespaceDecision.docMisses_eq_sum (d : NamespaceDecision) :
    d.docMisses = (d.docs.map Doc.Converted.misses).sum := by
  rw [docMisses, List.sum_eq_foldl, List.foldl_map]

theorem NamespaceDecision.docMisses_eq (d : NamespaceDecision) :
    d.docMisses = (d.types.map TypeDecision.misses).sum +
      (d.functions.map MemberDecision.misses).sum +
      (d.constants.map ConstantDecision.misses).sum := by
  rw [docMisses_eq_sum, docs, List.map_append, List.map_append, List.sum_append, List.sum_append,
    List.map_flatMap, List.flatMap_def, List.sum_flatten, List.map_map, sum_map_filterMap,
    sum_map_filterMap]
  rfl

namespace BindingContext

variable (ctx : BindingContext) (floating : FloatingTable)

/-- Binds a callable. Its comment is converted when the signature has been resolved. -/
def countedCallable (declaration : String) (owner : Option RegisteredType) (c : Callable) :
    CountedAttempt MemberDecision := do
  let sig ← ctx.boundSignature declaration owner c
  let doc ← ctx.doc.countedCallableComment c
    ⟨BindingForm.of owner c == .constructor, ctx.callablePlatforms owner c, c.kind == .signal⟩
  return (ctx.memberDecision owner c sig).withDoc doc

def countedEnumMember (n : Node) : Counting EnumMemberDecision := do
  let doc ← ctx.doc.countedNodeComment n
  return (ctx.enumMemberDecision n).withDoc doc

def countedEnumeration (t : RegisteredType) : Counting (Option EnumerationDecision) :=
  if t.variant = .enumeration then do
    let members ← t.members.mapM ctx.countedEnumMember
    return some ((ctx.enumerationDecision t).withMembers members)
  else
    return none

def countedCallback (t : RegisteredType) : CountedAttempt (Option MemberDecision) :=
  if t.variant = .callback then
    match Callable.ofNode? t.node with
    | some c => do
      let d ← ctx.countedCallable c.name (some t) c
      return some d
    | none => return none
  else
    return none

def countedMembers (t : RegisteredType) :
    Counting (List (Except SkippedDeclaration MemberDecision)) :=
  t.callables.mapM fun c =>
    let declaration := s!"{t.name}.{c.name}"
    (ctx.countedCallable declaration (some t) c).noted declaration

def countedContents (t : RegisteredType) (enumeration : Option EnumerationDecision)
    (d : TypeDecision) : Counting (TypeDecision × List SkippedDeclaration) := do
  let attempts ← ctx.countedMembers t
  let doc ← ctx.doc.countedTypeComment t
  return ({ d with enumeration, members := decided attempts, doc }, refused attempts)

/-- Binds a type, step by step. The comments on the members of an enumeration are converted before
aliases and callback types are looked at. -/
def countedType (t : RegisteredType) :
    CountedAttempt (TypeDecision × List SkippedDeclaration) := do
  let parent ← (t.parent?.mapM (ctx.superType t.name) : Except Obstacle _)
  let implements ← ((t.implements ++ t.prerequisites).mapM (ctx.superType t.name) :
    Except Obstacle _)
  let enumeration ← ctx.countedEnumeration t
  let aliasType ← ctx.aliasPart t
  let callback ← ctx.countedCallback t
  ctx.countedContents t enumeration
    (ctx.typeDecision floating t parent implements aliasType callback)

def countedConstant (n : Node) : CountedAttempt ConstantDecision := do
  let d ← ctx.bindConstant n
  let doc ← ctx.doc.countedNodeComment n
  return { d with doc }

def gathered
    (types : List (Except SkippedDeclaration (TypeDecision × List SkippedDeclaration)))
    (functions : List (Except SkippedDeclaration MemberDecision))
    (constants : List (Except SkippedDeclaration ConstantDecision)) : NamespaceDecision where
  name := ctx.library.name
  version := ctx.library.version
  package := ctx.table.package ctx.library.name
  sharedLibrary := ctx.library.sharedLibrary?
  platforms := ctx.library.platforms
  types := (decided types).map Prod.fst
  functions := decided functions
  constants := decided constants
  skipped := types.flatMap skippedByType ++ refused functions ++ refused constants

def countedNamespace : Counting NamespaceDecision := do
  let types ← ctx.library.types.values.mapM fun t => (ctx.countedType floating t).noted t.name
  let functions ← (ctx.library.functions.filterMap Callable.ofNode?).mapM fun c =>
    (ctx.countedCallable c.name none c).noted c.name
  let constants ← ctx.library.constants.mapM fun n => (ctx.countedConstant n).noted n.name
  return ctx.gathered types functions constants

variable {ctx floating}

theorem weighs_callable (declaration : String) (owner : Option RegisteredType) (c : Callable) :
    Weighs MemberDecision.misses (ctx.countedCallable declaration owner c)
      (ctx.bindCallable declaration owner c) := by
  apply weighs_bind_map (weighs_lift _)
  intro sig
  have hcomment := ctx.doc.adds_callableComment c
    ⟨BindingForm.of owner c == .constructor, ctx.callablePlatforms owner c, c.kind == .signal⟩
  exact ⟨_, adds_bind hcomment (.pure _), Nat.zero_add _⟩

theorem adds_enumMember (n : Node) :
    Adds (ctx.countedEnumMember n) (ctx.enumMemberDecision n)
      (ctx.enumMemberDecision n).misses := by
  have hdoc : Adds (ctx.doc.countedNodeComment n) (ctx.enumMemberDecision n).doc
      (ctx.enumMemberDecision n).misses := Doc.Context.adds_nodeComment n
  have hmember := hdoc.yield (ctx.enumMemberDecision n).withDoc
  rw [EnumMemberDecision.withDoc_self] at hmember
  exact hmember

theorem adds_enumeration (t : RegisteredType) :
    Adds (ctx.countedEnumeration t)
      (if t.variant = .enumeration then some (ctx.enumerationDecision t) else none)
      ((if t.variant = .enumeration then some (ctx.enumerationDecision t) else none).elim 0
        EnumerationDecision.misses) := by
  rw [countedEnumeration]
  split
  case isTrue => exact (Adds.listMapM adds_enumMember t.members).yield _
  case isFalse => exact .pure none

theorem adds_members (t : RegisteredType) :
    Adds (ctx.countedMembers t) (ctx.memberAttempts t)
      (((decided (ctx.memberAttempts t)).map MemberDecision.misses).sum) :=
  adds_attempts (fun c : Callable => s!"{t.name}.{c.name}") (fun _ => weighs_callable _ _ _)
    t.callables

theorem weighs_callback (t : RegisteredType) :
    Weighs (fun callback => callback.elim 0 MemberDecision.misses) (ctx.countedCallback t)
      (ctx.callbackPart t) := by
  rw [countedCallback, callbackPart]
  split
  case isTrue =>
    cases Callable.ofNode? t.node with
    | none => exact .pure _
    | some c =>
      apply weighs_bind_map (weighs_callable _ _ _)
      intro d
      exact ⟨0, .pure _, rfl⟩
  case isFalse => exact .pure _

theorem adds_contents {t : RegisteredType} {d : TypeDecision}
    (hmembers : d.members = decided (ctx.memberAttempts t))
    (hdoc : d.doc = ctx.doc.typeComment t) :
    Adds (ctx.countedContents t d.enumeration d) (d, refused (ctx.memberAttempts t))
      ((d.members.map MemberDecision.misses).sum + missesOf d.doc) := by
  have hattempts : Adds (ctx.countedMembers t) (ctx.memberAttempts t) _ := adds_members t
  have hcomment := @Doc.Context.adds_typeComment ctx.doc t
  rw [← hdoc] at hcomment
  have hcontents : Adds (ctx.countedContents t d.enumeration d)
      ({ d with members := decided (ctx.memberAttempts t) }, refused (ctx.memberAttempts t)) _ :=
    hattempts.bind (hcomment.yield _)
  rw [← hmembers] at hcontents
  exact hcontents

/-- Only an alias and a callback type can fail after the members of an enumeration are converted,
and they are no enumerations. -/
theorem weighs_type (t : RegisteredType) :
    Weighs (fun result => result.1.misses) (ctx.countedType floating t)
      (ctx.bindType floating t) := by
  rw [countedType, bindType]
  apply weighs_bind
  intro parent
  apply weighs_bind
  intro implements
  have henumeration : Adds (ctx.countedEnumeration t) _ _ := adds_enumeration t
  by_cases h : t.variant = .enumeration
  case pos =>
    have hother {v : Variant} (hv : v ≠ .enumeration) : ¬ t.variant = v := fun ht =>
      hv (ht.symm.trans h)
    rw [aliasPart, callbackPart, countedCallback, if_neg (hother (by decide)),
      if_neg (hother (by decide)), if_neg (hother (by decide))]
    let d := ctx.typeDecision floating t parent implements none none
    have hcontents : Adds (ctx.countedContents t d.enumeration d) _ _ := adds_contents rfl rfl
    change Adds _ (Except.ok (d, _)) d.misses
    rw [TypeDecision.misses_eq]
    apply adds_bind henumeration
    change Adds _ _ (0 + _)
    rw [Nat.zero_add]
    exact adds_lift hcontents
  case neg =>
    rw [if_neg h] at henumeration
    apply weighs_bind_uncounted henumeration
    apply weighs_bind
    intro aliasType
    rw [bind_pure_comp]
    apply weighs_bind_map (weighs_callback t)
    intro callback
    let d := ctx.typeDecision floating t parent implements aliasType callback
    have hnone : d.enumeration = none := if_neg h
    have hcontents : Adds (ctx.countedContents t d.enumeration d) _ _ := adds_contents rfl rfl
    rw [hnone] at hcontents
    refine ⟨_, adds_lift hcontents, ?_⟩
    change _ = d.misses
    rw [TypeDecision.misses_eq, hnone]
    exact (Nat.zero_add _).symm

theorem weighs_constant (n : Node) :
    Weighs ConstantDecision.misses (ctx.countedConstant n) (ctx.bindConstant n) := by
  rw [countedConstant]
  cases hd : ctx.bindConstant n with
  | error o => exact .pure _
  | ok d =>
    have hdoc : d.doc = ctx.doc.nodeComment n := by
      obtain ⟨javaType, value, rfl⟩ := exists_of_bindConstant hd
      rfl
    have hcomment := @Doc.Context.adds_nodeComment ctx.doc n
    rw [← hdoc] at hcomment
    exact adds_lift (hcomment.yield fun doc => { d with doc })

theorem adds_namespace :
    Adds (ctx.countedNamespace floating) (ctx.bindNamespace floating)
      (ctx.bindNamespace floating).docMisses := by
  have htypes := adds_attempts RegisteredType.name (@weighs_type ctx floating)
    ctx.library.types.values
  have hfunctions := adds_attempts Callable.name (fun c => @weighs_callable ctx c.name none c)
    (ctx.library.functions.filterMap Callable.ofNode?)
  have hconstants := adds_attempts Node.name (@weighs_constant ctx) ctx.library.constants
  have hsum : (ctx.bindNamespace floating).docMisses =
      ((decided (ctx.typeAttempts floating)).map fun result => result.1.misses).sum +
        (((decided ctx.functionAttempts).map MemberDecision.misses).sum +
          ((decided ctx.constantAttempts).map ConstantDecision.misses).sum) := by
    rw [NamespaceDecision.docMisses_eq, Nat.add_assoc]
    exact congrArg (List.sum · + _) (List.map_map ..)
  rw [hsum]
  exact htypes.bind (hfunctions.bind (hconstants.yield _))

end BindingContext

theorem Doc.IsPiece.exists_body {ctx : Doc.Context} {ns : Namespace} {e : Doc.Entry}
    (h : Doc.IsPiece ctx ns e) : (∃ text ∈ ns.docTexts, e.body = Doc.convert ctx text) ∨
      ∃ text, e.body = Doc.Converted.ofText text := by
  cases h with
  | text _ htext => exact .inl ⟨_, htext, rfl⟩
  | parameter hc hp htext =>
    exact .inl ⟨_, Namespace.mem_docTexts hc (Callable.mem_docTexts hp htext), rfl⟩
  | version => exact .inr ⟨_, rfl⟩
  | fixed he =>
    simp only [Doc.Context.throwsEntries, Doc.Context.signalEntries, List.mem_append,
      List.mem_cons, List.mem_ite_nil_right, List.not_mem_nil, or_false] at he
    rcases he with (⟨-, rfl⟩ | ⟨-, rfl⟩) | ⟨-, rfl⟩ | rfl | rfl <;> exact .inr ⟨_, rfl⟩

/-- The references that lead nowhere in a namespace are counted once for each text that goes into a
comment on a declaration with a decision. A declaration that meets an obstacle adds nothing to the
count, and a callable that gets no binding adds what is missed in its comment. -/
theorem BindingContext.docMisses_counts (ctx : BindingContext) (floating : FloatingTable) :
    (∀ n, (ctx.countedNamespace floating).run n =
      (ctx.bindNamespace floating, n + (ctx.bindNamespace floating).docMisses)) ∧
    (∀ doc ∈ (ctx.bindNamespace floating).docs, ∃ entries, doc = Doc.comment entries ∧
      doc.misses = (entries.map Doc.Entry.misses).sum ∧
      ∀ e ∈ entries, (∃ text ∈ ctx.library.docTexts, e.body = Doc.convert ctx.doc text) ∨
        ∃ text, e.body = .ofText text) ∧
    (∀ t o, ctx.bindType floating t = .error o →
      ∀ n, (ctx.countedType floating t).run.run n = (.error o, n)) ∧
    (∀ declaration owner c o, ctx.bindCallable declaration owner c = .error o →
      ∀ n, (ctx.countedCallable declaration owner c).run.run n = (.error o, n)) ∧
    (∀ constant o, ctx.bindConstant constant = .error o →
      ∀ n, (ctx.countedConstant constant).run.run n = (.error o, n)) ∧
    ∀ declaration owner c, (suppression? owner c).isSome → ∃ d,
      ctx.bindCallable declaration owner c = .ok d ∧
      d.doc = ctx.doc.callableComment c
        ⟨BindingForm.of owner c == .constructor, ctx.callablePlatforms owner c,
          c.kind == .signal⟩ ∧
      ∀ n, (ctx.countedCallable declaration owner c).run.run n =
        (.ok d, n + missesOf d.doc) := by
  have hfails {α : Type} {w : α → Nat} {x : CountedAttempt α} {y : Except Obstacle α}
      {o : Obstacle} (hx : Weighs w x y) (ho : y = .error o) (n : Nat) :
      x.run.run n = (.error o, n) := by
    subst ho
    exact hx n
  refine ⟨adds_namespace, ?_, fun t o ho => hfails (weighs_type t) ho,
    fun declaration owner c o ho => hfails (weighs_callable declaration owner c) ho,
    fun constant o ho => hfails (weighs_constant constant) ho, ?_⟩
  · intro doc hdoc
    obtain ⟨entries, hentries⟩ := exists_assembled hdoc
    obtain rfl := hentries.eq_comment
    exact ⟨entries, rfl, Doc.misses_comment entries, fun e he => (hentries.pieces e he).exists_body⟩
  · intro declaration owner c hc
    have hbound : ctx.bindCallable declaration owner c =
        .ok (ctx.memberDecision owner c .none) := by
      rw [bindCallable, boundSignature, if_pos hc]
      rfl
    have hcallable := @weighs_callable ctx declaration owner c
    rw [hbound] at hcallable
    exact ⟨_, hbound, rfl, hcallable⟩

/-- A class with a method that gets no binding and one that is skipped. Each comment has references
that lead nowhere. -/
def partlyDocumented : Source :=
  ⟨"X.gir", .all, "<repository><namespace name='X'><class name='A'><doc>#Ab</doc>
<method name='s' introspectable='0'><doc>#Cd %EF</doc></method>
<method name='k'><doc>#Gh</doc><return-value><type name='N'/></return-value></method>
</class></namespace></repository>"⟩

set_option maxRecDepth 2000 in
theorem tokens_partlyDocumented : Markup.tokens partlyDocumented.content = .ok [
    ⟨.startTag "repository" [] false, ⟨1, 1⟩⟩,
    ⟨.startTag "namespace" [("name", "X")] false, ⟨1, 13⟩⟩,
    ⟨.startTag "class" [("name", "A")] false, ⟨1, 33⟩⟩, ⟨.startTag "doc" [] false, ⟨1, 49⟩⟩,
    ⟨.text "#Ab", ⟨1, 54⟩⟩, ⟨.endTag "doc", ⟨1, 57⟩⟩, ⟨.text "\n", ⟨1, 63⟩⟩,
    ⟨.startTag "method" [("name", "s"), ("introspectable", "0")] false, ⟨2, 1⟩⟩,
    ⟨.startTag "doc" [] false, ⟨2, 37⟩⟩, ⟨.text "#Cd %EF", ⟨2, 42⟩⟩, ⟨.endTag "doc", ⟨2, 49⟩⟩,
    ⟨.endTag "method", ⟨2, 55⟩⟩, ⟨.text "\n", ⟨2, 64⟩⟩,
    ⟨.startTag "method" [("name", "k")] false, ⟨3, 1⟩⟩, ⟨.startTag "doc" [] false, ⟨3, 18⟩⟩,
    ⟨.text "#Gh", ⟨3, 23⟩⟩, ⟨.endTag "doc", ⟨3, 26⟩⟩,
    ⟨.startTag "return-value" [] false, ⟨3, 32⟩⟩,
    ⟨.startTag "type" [("name", "N")] true, ⟨3, 46⟩⟩, ⟨.endTag "return-value", ⟨3, 62⟩⟩,
    ⟨.endTag "method", ⟨3, 77⟩⟩, ⟨.text "\n", ⟨3, 86⟩⟩, ⟨.endTag "class", ⟨4, 1⟩⟩,
    ⟨.endTag "namespace", ⟨4, 9⟩⟩, ⟨.endTag "repository", ⟨4, 21⟩⟩, ⟨.endOfInput, ⟨4, 34⟩⟩] :=
  (Markup.tokens_ofList _).trans (Attempt.toOption_eq_some_iff.1 (by decide +kernel))

def Repository.alone (r : Repository) : BindingContext :=
  ⟨.build [r] Options.default.naming, r.library⟩

/-- The count takes in the two references in the comment on the method without a binding, and none
in that on the skipped one. -/
theorem docMisses_of_partlyDocumented : ∃ r d, partlyDocumented.repository = .ok r ∧
    (r.alone.countedNamespace (.build r.alone.table)).run 0 = (d, 3) ∧
    d.docs.map Doc.Converted.misses = [1, 2] ∧
    d.callables.map MemberDecision.isSuppressed = [true] ∧
    d.skipped.map SkippedDeclaration.name = ["A.k"] := by
  obtain ⟨r, hr, hdocs, hsuppressed, hskipped⟩ : ∃ r, partlyDocumented.repository = .ok r ∧
      (r.alone.bindNamespace (.build r.alone.table)).docs.map Doc.Converted.misses = [1, 2] ∧
      (r.alone.bindNamespace (.build r.alone.table)).callables.map
        MemberDecision.isSuppressed = [true] ∧
      (r.alone.bindNamespace (.build r.alone.table)).skipped.map
        SkippedDeclaration.name = ["A.k"] := by
    rw [Source.repository, Source.root, tokens_partlyDocumented]
    exact ⟨_, rfl, by decide +kernel, by decide +kernel, by decide +kernel⟩
  obtain ⟨hrun, -⟩ := BindingContext.docMisses_counts r.alone (.build r.alone.table)
  have hcount := hrun 0
  rw [NamespaceDecision.docMisses_eq_sum, hdocs] at hcount
  exact ⟨r, _, hr, hcount, hdocs, hsuppressed, hskipped⟩

end GirBind
