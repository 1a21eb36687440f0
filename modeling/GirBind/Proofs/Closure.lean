import Mathlib.Data.List.TakeWhile
import GirBind.Compile
import GirBind.Proofs.ClassNames
import GirBind.Proofs.SymbolTable

namespace GirBind

namespace RegisteredType

def superNames (t : RegisteredType) : List String :=
  t.parent?.toList ++ (t.implements ++ t.prerequisites)

end RegisteredType

namespace Callable

/-- The names in the type of the result. The Java type of what a constructor yields is its owner,
but the native call still needs the type that it mentions. -/
def resultNames (owner : Option RegisteredType) (c : Callable) : List String :=
  match c.kind, owner with
  | .constructor, some _ => (c.returnType?.bind TypeRef.directName?).toList
  | _, _ => TypeRef.elementNames c.returnType?

def parameterNames (c : Callable) : List String :=
  (c.parameters.filter (!·.isVariadic)).flatMap fun p => TypeRef.elementNames p.type

/-- Everything that the signature of a callable mentions is declared or primitive. -/
def Resolves (table : SymbolTable) (library : String) (owner : Option RegisteredType)
    (c : Callable) : Prop :=
  ∀ name ∈ c.resultNames owner ++ c.parameterNames, table.Resolves library name

/-- Every parameter has a type, and all types mentioned can be passed by value. -/
structure IsPassable (table : SymbolTable) (library : String) (c : Callable) : Prop where
  typed : ∀ p ∈ c.parameters, p.isVariadic = false → p.type.isSome
  result : ∀ t, c.returnType? = some t →
    ∀ name ∈ t.names ++ t.directName?.toList, table.IsValue library name
  parameters : ∀ p ∈ c.parameters, ∀ t, p.type = some t →
    ∀ name ∈ t.names ++ t.directName?.toList, table.IsValue library name

end Callable

/-- Everything that a type mentions as such is declared, or primitive where that is possible. -/
structure RegisteredType.Resolves (table : SymbolTable) (library : String) (t : RegisteredType) :
    Prop where
  superTypes : ∀ name ∈ t.superNames, (table.lookup? library name).isSome
  target : ∀ u, t.aliasTarget? = some u → ∀ name ∈ u.names, table.Resolves library name
  signature : t.variant = .callback → ∀ c, Callable.ofNode? t.node = some c →
    BindingContext.suppression? (some t) c = none → c.Resolves table library (some t)

namespace BindingContext

variable {ctx : BindingContext} {floating : FloatingTable} {declaration : String}
  {owner : Option RegisteredType} {c : Callable} {t : RegisteredType}

theorem parameterType_isOk_iff {p : Parameter} :
    (∃ java, ctx.parameterType declaration p = .ok java) ↔
      (p.isVariadic = false → ∀ name ∈ TypeRef.elementNames p.type,
        ctx.table.Resolves ctx.library.name name) := by
  rw [parameterType]
  cases p.isVariadic with
  | true => exact ⟨fun _ h => Bool.noConfusion h, fun _ => ⟨_, rfl⟩⟩
  | false =>
    simp only [Bool.false_eq_true, if_false, forall_const]
    cases p.type with
    | none => exact ⟨fun _ _ h => absurd h List.not_mem_nil, fun _ => ⟨_, rfl⟩⟩
    | some t => exact SymbolTable.javaType_isOk_iff

theorem parameterDecisions_isOk_iff {ps : List Parameter} :
    (∃ ds, ctx.parameterDecisions declaration ps = .ok ds) ↔
      ∀ p ∈ ps, ∃ java, ctx.parameterType declaration p = .ok java := by
  rw [parameterDecisions, Attempt.mapM_isOk_iff]
  constructor
  · intro h p hp
    obtain ⟨i, hi, rfl⟩ := List.mem_iff_getElem.1 hp
    have hmem : (ps[i], i) ∈ ps.zipIdx :=
      List.mk_mem_zipIdx_iff_getElem?.2 (List.getElem?_eq_getElem hi)
    exact Attempt.map_isOk_iff.1 (h (ps[i], i) hmem)
  · rintro h ⟨p, i⟩ hp
    exact Attempt.map_isOk_iff.2 (h p (List.fst_mem_of_mem_zipIdx hp))

theorem resolves_of_returnType {descriptor : Descriptor} {java : String}
    (hdescriptor : ctx.table.descriptor ctx.library.name declaration c = .ok descriptor)
    (hresult : ctx.returnType declaration owner c = .ok java) :
    ∀ name ∈ c.resultNames owner, ctx.table.Resolves ctx.library.name name := by
  intro name hname
  unfold Callable.resultNames at hname
  unfold returnType at hresult
  split at hname
  case h_1 =>
    -- the Java type is that of the owner, so only the native call tells about the mention
    obtain ⟨u, hu, hdirect⟩ := Option.bind_eq_some_iff.1 (Option.mem_toList.1 hname)
    obtain ⟨rule, hrule, -⟩ := Attempt.bind_eq_ok_iff.1 hdescriptor
    rw [SymbolTable.returnRule, hu] at hrule
    have hresolved := SymbolTable.exists_resolveRef_of_marshalRule hrule
    exact SymbolTable.resolveRef_isOk_iff.1 hresolved name hdirect
  case h_2 hother =>
    split at hresult
    case h_1 u hkind => exact (hother u hkind rfl).elim
    case h_2 =>
      cases hu : c.returnType? with
      | none =>
        rw [hu] at hname
        cases hname
      | some u =>
        rw [hu] at hname hresult
        exact SymbolTable.javaType_isOk_iff.1 ⟨java, hresult⟩ name hname

theorem resolves_of_parameterDecisions {ds : List ParameterDecision}
    (h : ctx.parameterDecisions declaration c.parameters = .ok ds) :
    ∀ name ∈ c.parameterNames, ctx.table.Resolves ctx.library.name name := by
  intro name hname
  obtain ⟨p, hp, hmention⟩ := List.mem_flatMap.1 hname
  obtain ⟨hmem, hvariadic⟩ := List.mem_filter.1 hp
  have hjava := parameterDecisions_isOk_iff.1 ⟨ds, h⟩ p hmem
  rw [Bool.not_eq_eq_eq_not, Bool.not_true] at hvariadic
  exact parameterType_isOk_iff.1 hjava hvariadic name hmention

theorem resolves_of_signature {sig : Signature}
    (h : ctx.signature declaration owner c = .ok sig) :
    c.Resolves ctx.table ctx.library.name owner := by
  obtain ⟨descriptor, hdescriptor, htypes⟩ := Attempt.bind_eq_ok_iff.1 h
  obtain ⟨result, hresult, hrest⟩ := Attempt.bind_eq_ok_iff.1 htypes
  obtain ⟨parameters, hparameters, -⟩ := Attempt.bind_eq_ok_iff.1 hrest
  intro name hname
  rcases List.mem_append.1 hname with hmention | hmention
  · exact resolves_of_returnType hdescriptor hresult name hmention
  · exact resolves_of_parameterDecisions hparameters name hmention

theorem descriptor_isOk (declaration : String) (h : c.IsPassable ctx.table ctx.library.name) :
    ∃ descriptor, ctx.table.descriptor ctx.library.name declaration c = .ok descriptor := by
  obtain ⟨result, hresult⟩ :
      ∃ rule, ctx.table.returnRule ctx.library.name declaration c = .ok rule := by
    rw [SymbolTable.returnRule]
    cases ht : c.returnType? with
    | none => exact ⟨_, rfl⟩
    | some t =>
      refine SymbolTable.marshalRule_isOk fun name hname => h.result t ht name ?_
      exact List.mem_append_right _ (Option.mem_toList.2 hname)
  obtain ⟨rules, hrules⟩ : ∃ rules, (c.parameters.takeWhile fun p => !p.isVariadic).mapM
      (ctx.table.parameterRule ctx.library.name declaration) = .ok rules := by
    apply Attempt.mapM_isOk_iff.2
    intro p hp
    have hmem := (List.takeWhile_sublist _).subset hp
    have hvariadic := List.mem_takeWhile_imp hp
    rw [Bool.not_eq_eq_eq_not, Bool.not_true] at hvariadic
    obtain ⟨t, ht⟩ := Option.isSome_iff_exists.1 (h.typed p hmem hvariadic)
    rw [SymbolTable.parameterRule, ht]
    refine SymbolTable.marshalRule_isOk fun name hname => h.parameters p hmem t ht name ?_
    exact List.mem_append_right _ (Option.mem_toList.2 hname)
  exact ⟨_, Attempt.bind_eq_ok_iff.2 ⟨result, hresult,
    Attempt.bind_eq_ok_iff.2 ⟨rules, hrules, rfl⟩⟩⟩

/-- A callable whose mentions are all declared or primitive has a signature, whether or not there is
a decision about what it mentions. -/
theorem signature_isOk (h : c.IsPassable ctx.table ctx.library.name) :
    ∃ sig, ctx.signature declaration owner c = .ok sig := by
  obtain ⟨descriptor, hdescriptor⟩ := descriptor_isOk declaration h
  obtain ⟨result, hresult⟩ : ∃ result, ctx.returnType declaration owner c = .ok result := by
    unfold returnType
    split
    case h_1 => exact ⟨_, rfl⟩
    case h_2 =>
      cases ht : c.returnType? with
      | none => exact ⟨_, rfl⟩
      | some t =>
        apply SymbolTable.javaType_isOk_iff.2
        intro name hname
        exact (h.result t ht name (List.mem_append_left _ hname)).resolves
  obtain ⟨parameters, hparameters⟩ :
      ∃ ds, ctx.parameterDecisions declaration c.parameters = .ok ds := by
    refine parameterDecisions_isOk_iff.2 fun p hp => parameterType_isOk_iff.2 fun _ name hname => ?_
    cases ht : p.type with
    | none =>
      rw [ht] at hname
      cases hname
    | some t =>
      rw [ht] at hname
      exact (h.parameters p hp t ht name (List.mem_append_left _ hname)).resolves
  exact ⟨_, Attempt.bind_eq_ok_iff.2 ⟨descriptor, hdescriptor,
    Attempt.bind_eq_ok_iff.2 ⟨result, hresult,
      Attempt.bind_eq_ok_iff.2 ⟨parameters, hparameters, rfl⟩⟩⟩⟩

theorem resolves_of_bindCallable {m : MemberDecision} (hsuppressed : suppression? owner c = none)
    (h : ctx.bindCallable declaration owner c = .ok m) :
    c.Resolves ctx.table ctx.library.name owner := by
  obtain ⟨sig, hsig, -⟩ := bindCallable_eq_ok_iff.1 h
  rw [boundSignature, hsuppressed, Option.isSome_none, if_neg Bool.false_ne_true] at hsig
  exact resolves_of_signature hsig

theorem bindCallable_isOk (declaration : String) (owner : Option RegisteredType)
    (h : c.IsPassable ctx.table ctx.library.name) :
    ∃ m, ctx.bindCallable declaration owner c = .ok m := by
  refine Attempt.map_isOk_iff.2 ?_
  rw [boundSignature]
  split
  case isTrue => exact ⟨_, rfl⟩
  case isFalse => exact signature_isOk h

theorem superTypes_isOk_iff :
    ((∃ parent, t.parent?.mapM (ctx.superType t.name) = .ok parent) ∧
      ∃ implements, (t.implements ++ t.prerequisites).mapM (ctx.superType t.name) =
        .ok implements) ↔
      ∀ name ∈ t.superNames, (ctx.table.lookup? ctx.library.name name).isSome := by
  rw [Attempt.optionMapM_isOk_iff, Attempt.mapM_isOk_iff, RegisteredType.superNames]
  simp only [superType_isOk_iff]
  exact List.forall_mem_append.symm

/-- A type other than an alias or callback gets a binding exactly if its super types are all
declared. Whether they get one themselves does not matter. -/
theorem bindType_isOk_iff (floating : FloatingTable) (halias : t.variant ≠ .aliasType)
    (hcallback : t.variant ≠ .callback) :
    (∃ d skipped, ctx.bindType floating t = .ok (d, skipped)) ↔
      ∀ name ∈ t.superNames, (ctx.table.lookup? ctx.library.name name).isSome := by
  rw [← superTypes_isOk_iff]
  constructor
  · rintro ⟨d, skipped, h⟩
    obtain ⟨parent, implements, _, _, hparent, himplements, -⟩ := bindType_eq_ok_iff.1 h
    exact ⟨⟨parent, hparent⟩, implements, himplements⟩
  · rintro ⟨⟨parent, hparent⟩, implements, himplements⟩
    exact ⟨_, _, bindType_eq_ok_iff.2 ⟨parent, implements, none, none, hparent, himplements,
      if_neg halias, if_neg hcallback, rfl, rfl⟩⟩

theorem resolves_of_aliasPart {a : Option AliasDecision} (h : ctx.aliasPart t = .ok a) {u : TypeRef}
    (hu : t.aliasTarget? = some u) :
    ∀ name ∈ u.names, ctx.table.Resolves ctx.library.name name := by
  have hv : t.variant = .aliasType := by
    rw [RegisteredType.aliasTarget?] at hu
    split at hu
    case isTrue hv => exact hv
    case isFalse => cases hu
  rw [aliasPart, if_pos hv] at h
  obtain ⟨a', ha, -⟩ := Attempt.map_eq_ok_iff.1 h
  rw [aliasDecision, hu] at ha
  obtain ⟨resolved, -, ha⟩ := Attempt.bind_eq_ok_iff.1 ha
  obtain ⟨underlying, -, ha⟩ := Attempt.bind_eq_ok_iff.1 ha
  obtain ⟨java, hjava, -⟩ := Attempt.bind_eq_ok_iff.1 ha
  exact SymbolTable.javaType_isOk_iff.1 ⟨java, hjava⟩

theorem resolves_of_bindType {d : TypeDecision} {skipped : List SkippedDeclaration}
    (h : ctx.bindType floating t = .ok (d, skipped)) :
    t.Resolves ctx.table ctx.library.name := by
  obtain ⟨parent, implements, aliasType, callback, hparent, himplements, halias, hcallback, -⟩ :=
    bindType_eq_ok_iff.1 h
  refine ⟨superTypes_isOk_iff.1 ⟨⟨parent, hparent⟩, implements, himplements⟩,
    fun u hu => resolves_of_aliasPart halias hu, fun hv c hc hsuppressed => ?_⟩
  rw [callbackPart, if_pos hv, hc] at hcallback
  obtain ⟨m, hm, -⟩ := Attempt.map_eq_ok_iff.1 hcallback
  exact resolves_of_bindCallable hsuppressed hm

def SkipsType (ctx : BindingContext) (floating : FloatingTable) (t : RegisteredType) : Prop :=
  ∃ o, ctx.bindType floating t = .error o ∧
    SkippedDeclaration.of t.name o ∈ (ctx.bindNamespace floating).skipped

def SkipsCallable (ctx : BindingContext) (floating : FloatingTable) (declaration : String)
    (owner : Option RegisteredType) (c : Callable) : Prop :=
  ∃ o, ctx.bindCallable declaration owner c = .error o ∧
    SkippedDeclaration.of declaration o ∈ (ctx.bindNamespace floating).skipped

theorem skipsType_of_error {o : Obstacle} (ht : t ∈ ctx.library.types.values)
    (h : ctx.bindType floating t = .error o) : ctx.SkipsType floating t := by
  refine ⟨o, h, List.mem_append_left _ (List.mem_append_left _ ?_)⟩
  refine List.mem_flatMap.2 ⟨_, List.mem_map_of_mem ht, ?_⟩
  rw [h]
  exact List.mem_singleton_self _

theorem skipsCallable_of_member {o : Obstacle} (ht : t ∈ ctx.library.types.values)
    (hc : c ∈ t.callables) {d : TypeDecision} {skipped : List SkippedDeclaration}
    (hd : ctx.bindType floating t = .ok (d, skipped))
    (h : ctx.bindCallable s!"{t.name}.{c.name}" (some t) c = .error o) :
    ctx.SkipsCallable floating s!"{t.name}.{c.name}" (some t) c := by
  refine ⟨o, h, List.mem_append_left _ (List.mem_append_left _ ?_)⟩
  refine List.mem_flatMap.2 ⟨_, List.mem_map_of_mem ht, ?_⟩
  obtain ⟨_, _, _, _, -, -, -, -, -, rfl⟩ := bindType_eq_ok_iff.1 hd
  rw [hd]
  refine mem_refused.2 (List.mem_map.2 ⟨c, hc, ?_⟩)
  dsimp only
  rw [h]
  rfl

theorem skipsCallable_of_function {o : Obstacle} {n : Node} (hn : n ∈ ctx.library.functions)
    (hc : Callable.ofNode? n = some c) (h : ctx.bindCallable c.name none c = .error o) :
    ctx.SkipsCallable floating c.name none c := by
  refine ⟨o, h, List.mem_append_left _ (List.mem_append_right _ (mem_refused.2 ?_))⟩
  refine List.mem_map.2 ⟨c, List.mem_filterMap.2 ⟨n, hn, hc⟩, ?_⟩
  rw [h]
  rfl

/-- What is mentioned decides about declarations: an undeclared name costs a declaration, and a
declared one does not, whether or not it is skipped itself. -/
structure DecidesByMentions (ctx : BindingContext) (floating : FloatingTable) : Prop where
  types : ∀ t ∈ ctx.library.types.values, ¬ t.Resolves ctx.table ctx.library.name →
    ctx.SkipsType floating t
  members : ∀ t ∈ ctx.library.types.values, ¬ ctx.SkipsType floating t → ∀ c ∈ t.callables,
    suppression? (some t) c = none → ¬ c.Resolves ctx.table ctx.library.name (some t) →
    ctx.SkipsCallable floating s!"{t.name}.{c.name}" (some t) c
  functions : ∀ n ∈ ctx.library.functions, ∀ c, Callable.ofNode? n = some c →
    suppression? none c = none → ¬ c.Resolves ctx.table ctx.library.name none →
    ctx.SkipsCallable floating c.name none c
  decidedTypes : ∀ t ∈ ctx.library.types.values, t.variant ≠ .aliasType → t.variant ≠ .callback →
    ((∃ d ∈ (ctx.bindNamespace floating).types, ∃ skipped,
      ctx.bindType floating t = .ok (d, skipped)) ↔
      ∀ name ∈ t.superNames, (ctx.table.lookup? ctx.library.name name).isSome)
  decidedMembers : ∀ t ∈ ctx.library.types.values, ∀ d skipped,
    ctx.bindType floating t = .ok (d, skipped) → ∀ c ∈ t.callables,
    c.IsPassable ctx.table ctx.library.name → ∃ m ∈ d.members,
      ctx.bindCallable s!"{t.name}.{c.name}" (some t) c = .ok m
  decidedFunctions : ∀ n ∈ ctx.library.functions, ∀ c, Callable.ofNode? n = some c →
    c.IsPassable ctx.table ctx.library.name → ∃ m ∈ (ctx.bindNamespace floating).functions,
      ctx.bindCallable c.name none c = .ok m

theorem decidesByMentions (ctx : BindingContext) (floating : FloatingTable) :
    ctx.DecidesByMentions floating where
  types t ht hr := by
    cases hd : ctx.bindType floating t with
    | error o => exact skipsType_of_error ht hd
    | ok d => exact absurd (resolves_of_bindType hd) hr
  members t ht hdecided c hc hsuppressed hr := by
    cases hd : ctx.bindType floating t with
    | error o => exact absurd (skipsType_of_error ht hd) hdecided
    | ok d =>
      cases hm : ctx.bindCallable s!"{t.name}.{c.name}" (some t) c with
      | error o => exact skipsCallable_of_member ht hc hd hm
      | ok m => exact absurd (resolves_of_bindCallable hsuppressed hm) hr
  functions n hn c hc hsuppressed hr := by
    cases hm : ctx.bindCallable c.name none c with
    | error o => exact skipsCallable_of_function hn hc hm
    | ok m => exact absurd (resolves_of_bindCallable hsuppressed hm) hr
  decidedTypes t ht halias hcallback := by
    rw [← bindType_isOk_iff floating halias hcallback]
    constructor
    · rintro ⟨d, -, skipped, hd⟩
      exact ⟨d, skipped, hd⟩
    · rintro ⟨d, skipped, hd⟩
      exact ⟨d, mem_types.2 ⟨t, ht, skipped, hd⟩, skipped, hd⟩
  decidedMembers t ht d skipped hd c hc hpassable := by
    obtain ⟨m, hm⟩ := bindCallable_isOk s!"{t.name}.{c.name}" (some t) hpassable
    obtain ⟨_, _, _, _, -, -, -, -, rfl, -⟩ := bindType_eq_ok_iff.1 hd
    obtain ⟨n, hn, hcn⟩ := List.mem_filterMap.1 hc
    exact ⟨m, mem_memberAttempts.2 ⟨n, hn, c, hcn, hm⟩, hm⟩
  decidedFunctions n hn c hc hpassable := by
    obtain ⟨m, hm⟩ := bindCallable_isOk c.name none hpassable
    exact ⟨m, mem_functions.2 ⟨n, hn, c, hc, hm⟩, hm⟩

end BindingContext

def IsDecidedClass (decisions : List NamespaceDecision) (java : String) : Prop :=
  ∃ d ∈ decisions, ∃ t ∈ d.types, t.qualifiedName = java

def IsSkippedClass (table : SymbolTable) (floating : FloatingTable) (rs : List Repository)
    (java : String) : Prop :=
  ∃ r ∈ rs, ∃ t ∈ r.library.types.values,
    java = table.qualifiedJavaName r.library.name t.name ∧
      BindingContext.SkipsType ⟨table, r.library⟩ floating t

/-- Every class in a decision is that of a declared type, which has a decision of its own or is
skipped for a mention of its own. -/
theorem classes_of_compileRepositories {o : Options} {rs : List Repository}
    (h : (rs.map (·.library.name)).Nodup) :
    let table := SymbolTable.build rs o.naming
    let floating := FloatingTable.build table
    let decisions := (compileRepositories o rs).1
    (∀ d ∈ decisions, d.ClassesSatisfy fun java =>
      IsDecidedClass decisions java ∨ IsSkippedClass table floating rs java) ∧
    ∀ r ∈ rs, BindingContext.bindNamespace ⟨table, r.library⟩ floating ∈ decisions ∧
      BindingContext.DecidesByMentions ⟨table, r.library⟩ floating := by
  intro table floating decisions
  have hdecisions : decisions =
      rs.map fun r => BindingContext.bindNamespace ⟨table, r.library⟩ floating :=
    SymbolTable.bind_build h o.naming floating
  have hmem : ∀ r ∈ rs, BindingContext.bindNamespace ⟨table, r.library⟩ floating ∈ decisions :=
    fun r hr => hdecisions ▸ List.mem_map_of_mem hr
  have hclass : ∀ java, table.IsClass java →
      IsDecidedClass decisions java ∨ IsSkippedClass table floating rs java := by
    rintro java ⟨ns, hns, t, ht, rfl⟩
    rw [SymbolTable.namespaces_build h] at hns
    obtain ⟨r, hr, rfl⟩ := List.mem_map.1 hns
    cases hd : BindingContext.bindType ⟨table, r.library⟩ floating t with
    | error o => exact .inr ⟨r, hr, t, ht, rfl, BindingContext.skipsType_of_error ht hd⟩
    | ok result =>
      obtain ⟨d, skipped⟩ := result
      refine .inl ⟨_, hmem r hr, d, BindingContext.mem_types.2 ⟨t, ht, skipped, hd⟩, ?_⟩
      obtain ⟨_, _, _, _, -, -, -, -, rfl, -⟩ := BindingContext.bindType_eq_ok_iff.1 hd
      rfl
  refine ⟨?_, fun r hr => ⟨hmem r hr, BindingContext.decidesByMentions _ _⟩⟩
  intro d hd
  rw [hdecisions] at hd
  obtain ⟨r, hr, rfl⟩ := List.mem_map.1 hd
  have hns : r.library ∈ table.namespaces := by
    rw [SymbolTable.namespaces_build h]
    exact List.mem_map_of_mem hr
  exact (BindingContext.bindNamespace_classes ⟨table, r.library⟩ floating hns).mono hclass

def Repository.ofClasses (library : String) (classes : List (String × String)) : Repository where
  includes := []
  packages := []
  cIncludes := []
  library := {
    name := library
    version := ""
    attributes := ∅
    types := .ofList (classes.map fun c => (c.1, ⟨.classType,
      ⟨.classType, .ofList [("name", c.1), ("parent", c.2)], [], "", .all, 1⟩⟩))
    functions := []
    constants := []
    other := []
    platforms := .all }
  platforms := .all

def orphans : List Repository := [.ofClasses "X" [("A", "Nowhere"), ("B", "A")]]

/-- The class below a skipped one is not skipped, and its parent is a class without a decision. -/
theorem parent_of_orphans : (orphans.map (·.library.name)).Nodup ∧
    ∃ d ∈ (compileRepositories .default orphans).1,
      (∃ s ∈ d.skipped, s.name = "A") ∧ (∀ s ∈ d.skipped, s.name ≠ "B") ∧
      ∃ t ∈ d.types, t.name = "B" ∧ t.parent = some "org.gnome.x.A" ∧
        ¬ IsDecidedClass (compileRepositories .default orphans).1 "org.gnome.x.A" := by
  unfold IsDecidedClass
  decide +kernel

theorem classes_of_orphans :
    ∃ d ∈ (compileRepositories .default orphans).1, ∃ t ∈ d.types, t.parent = some "org.gnome.x.A" ∧
      IsSkippedClass (.build orphans Options.default.naming)
        (.build (.build orphans Options.default.naming)) orphans "org.gnome.x.A" := by
  have hnames : (orphans.map (·.library.name)).Nodup := List.nodup_singleton "X"
  have hparent : ∃ d ∈ (compileRepositories .default orphans).1, ∃ t ∈ d.types,
      t.parent = some "org.gnome.x.A" ∧
        ¬ IsDecidedClass (compileRepositories .default orphans).1 "org.gnome.x.A" := by
    unfold IsDecidedClass
    decide +kernel
  obtain ⟨d, hd, t, ht, hp, hundecided⟩ := hparent
  have hclass := (((classes_of_compileRepositories hnames).1 d hd).types t ht).parent _ hp
  exact ⟨d, hd, t, ht, hp, hclass.resolve_left hundecided⟩

end GirBind
