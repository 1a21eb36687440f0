import GirBind.Proofs.Decided
import GirBind.Proofs.Mention

namespace GirBind

structure MemberDecision.ClassesSatisfy (isClass : String → Prop) (d : MemberDecision) : Prop where
  result : JavaType isClass d.returnType
  parameters : ∀ p ∈ d.parameters, JavaType isClass p.javaType
  helper : ∀ c, d.constructor = some c → isClass c.returns

structure TypeDecision.ClassesSatisfy (isClass : String → Prop) (d : TypeDecision) : Prop where
  parent : ∀ java, d.parent = some java → isClass java
  implements : ∀ java ∈ d.implements, isClass java
  aliasType : ∀ a, d.aliasType = some a → JavaType isClass a.target
  fields : ∀ r, d.record = some r → ∀ f ∈ r.fields, JavaType isClass f.javaType
  callback : ∀ m, d.callback = some m → m.ClassesSatisfy isClass
  members : ∀ m ∈ d.members, m.ClassesSatisfy isClass

structure NamespaceDecision.ClassesSatisfy (isClass : String → Prop) (d : NamespaceDecision) :
    Prop where
  types : ∀ t ∈ d.types, t.ClassesSatisfy isClass
  functions : ∀ f ∈ d.functions, f.ClassesSatisfy isClass

theorem MemberDecision.ClassesSatisfy.mono {p q : String → Prop} (hpq : ∀ java, p java → q java)
    {d : MemberDecision} (h : d.ClassesSatisfy p) : d.ClassesSatisfy q where
  result := h.result.mono hpq
  parameters m hm := (h.parameters m hm).mono hpq
  helper c hc := hpq _ (h.helper c hc)

theorem TypeDecision.ClassesSatisfy.mono {p q : String → Prop} (hpq : ∀ java, p java → q java)
    {d : TypeDecision} (h : d.ClassesSatisfy p) : d.ClassesSatisfy q where
  parent java hj := hpq _ (h.parent java hj)
  implements java hj := hpq _ (h.implements java hj)
  aliasType a ha := (h.aliasType a ha).mono hpq
  fields r hr f hf := (h.fields r hr f hf).mono hpq
  callback m hm := (h.callback m hm).mono hpq
  members m hm := (h.members m hm).mono hpq

theorem NamespaceDecision.ClassesSatisfy.mono {p q : String → Prop}
    (hpq : ∀ java, p java → q java) {d : NamespaceDecision} (h : d.ClassesSatisfy p) :
    d.ClassesSatisfy q where
  types t ht := (h.types t ht).mono hpq
  functions f hf := (h.functions f hf).mono hpq

namespace BindingContext

variable {ctx : BindingContext} {floating : FloatingTable} {declaration : String}

theorem isClass_of_superType {name java : String} (h : ctx.superType declaration name = .ok java) :
    ctx.table.IsClass java := by
  rw [superType] at h
  split at h
  case h_1 e he =>
    cases h
    exact SymbolTable.isClass_of_lookup? he
  case h_2 => cases h

theorem superType_isOk_iff {name : String} :
    (∃ java, ctx.superType declaration name = .ok java) ↔
      (ctx.table.lookup? ctx.library.name name).isSome := by
  rw [superType]
  cases ctx.table.lookup? ctx.library.name name with
  | some e => exact ⟨fun _ => rfl, fun _ => ⟨_, rfl⟩⟩
  | none => simp only [reduceCtorEq, exists_false, Option.isSome_none, Bool.false_eq_true]

theorem javaType_of_parameterType {p : Parameter} {java : String}
    (h : ctx.parameterType declaration p = .ok java) : JavaType ctx.table.IsClass java := by
  rw [parameterType] at h
  split at h
  case isTrue =>
    cases h
    exact .variadic
  case isFalse =>
    split at h
    case h_1 => exact SymbolTable.javaType_of_javaType h
    case h_2 =>
      cases h
      exact .memorySegment

theorem javaType_of_returnType (hns : ctx.library ∈ ctx.table.namespaces)
    {owner : Option RegisteredType} {c : Callable} {java : String}
    (howner : ∀ t, owner = some t → t ∈ ctx.library.types.values)
    (h : ctx.returnType declaration owner c = .ok java) : JavaType ctx.table.IsClass java := by
  unfold returnType at h
  split at h
  case h_1 t _ =>
    cases h
    exact .declared ⟨ctx.library, hns, t, howner t rfl, rfl⟩
  case h_2 =>
    split at h
    case h_1 => exact SymbolTable.javaType_of_javaType h
    case h_2 =>
      cases h
      exact .void

theorem bindCallable_classes (hns : ctx.library ∈ ctx.table.namespaces)
    {owner : Option RegisteredType} {c : Callable} {d : MemberDecision}
    (howner : ∀ t, owner = some t → t ∈ ctx.library.types.values)
    (h : ctx.bindCallable declaration owner c = .ok d) : d.ClassesSatisfy ctx.table.IsClass := by
  obtain ⟨sig, hsig, rfl⟩ := bindCallable_eq_ok_iff.1 h
  have hhelper : ∀ k, (ctx.memberDecision owner c sig).constructor = some k →
      ctx.table.IsClass k.returns := by
    intro k hk
    change (if _ then owner.map _ else none) = some k at hk
    split at hk
    case isTrue =>
      obtain ⟨t, ht, rfl⟩ := Option.map_eq_some_iff.1 hk
      exact ⟨ctx.library, hns, t, howner t ht, rfl⟩
    case isFalse => cases hk
  rw [boundSignature] at hsig
  split at hsig
  case isTrue =>
    cases hsig
    exact ⟨.void, fun p hp => absurd hp List.not_mem_nil, hhelper⟩
  case isFalse =>
    obtain ⟨descriptor, -, hsig⟩ := Attempt.bind_eq_ok_iff.1 hsig
    obtain ⟨result, hresult, hsig⟩ := Attempt.bind_eq_ok_iff.1 hsig
    obtain ⟨parameters, hparameters, hsig⟩ := Attempt.bind_eq_ok_iff.1 hsig
    cases hsig
    refine ⟨javaType_of_returnType hns howner hresult, ?_, hhelper⟩
    intro d hd
    obtain ⟨⟨p, i⟩, -, hp⟩ := Attempt.exists_of_mem_mapM hparameters hd
    obtain ⟨java, hjava, rfl⟩ := Attempt.map_eq_ok_iff.1 hp
    exact javaType_of_parameterType hjava

theorem fieldDecisions_classes {t : RegisteredType} {f : FieldDecision}
    (h : f ∈ ctx.fieldDecisions t) : JavaType ctx.table.IsClass f.javaType := by
  obtain ⟨field, -, h⟩ := List.mem_filterMap.1 h
  obtain ⟨name, -, h⟩ := Option.bind_eq_some_iff.1 h
  split at h
  case h_1 rule java htype =>
    cases h
    rw [fieldType] at htype
    split at htype
    case h_1 =>
      cases htype
      exact .memorySegment
    case h_2 =>
      obtain ⟨rule', -, htype⟩ := Attempt.bind_eq_ok_iff.1 htype
      obtain ⟨java', hjava, htype⟩ := Attempt.bind_eq_ok_iff.1 htype
      cases htype
      exact SymbolTable.javaType_of_javaType hjava
  case h_2 => cases h

theorem aliasPart_classes {t : RegisteredType} {a : AliasDecision}
    (h : ctx.aliasPart t = .ok (some a)) : JavaType ctx.table.IsClass a.target := by
  rw [aliasPart] at h
  split at h
  case isTrue =>
    obtain ⟨a', ha, he⟩ := Attempt.map_eq_ok_iff.1 h
    cases he
    rw [aliasDecision] at ha
    split at ha
    case h_1 => cases ha
    case h_2 =>
      obtain ⟨resolved, -, ha⟩ := Attempt.bind_eq_ok_iff.1 ha
      obtain ⟨underlying, -, ha⟩ := Attempt.bind_eq_ok_iff.1 ha
      obtain ⟨java, hjava, ha⟩ := Attempt.bind_eq_ok_iff.1 ha
      cases ha
      exact SymbolTable.javaType_of_javaType hjava
  case isFalse => cases h

/-- Every class in the decision about a type is that of an indexed type. -/
theorem bindType_classes (hns : ctx.library ∈ ctx.table.namespaces) {t : RegisteredType}
    (ht : t ∈ ctx.library.types.values) {d : TypeDecision} {skipped : List SkippedDeclaration}
    (h : ctx.bindType floating t = .ok (d, skipped)) : d.ClassesSatisfy ctx.table.IsClass := by
  obtain ⟨parent, implements, aliasType, callback, hparent, himplements, halias, hcallback, rfl,
    -⟩ := bindType_eq_ok_iff.1 h
  have howner : ∀ u, some t = some u → u ∈ ctx.library.types.values :=
    fun u hu => Option.some.inj hu ▸ ht
  refine ⟨?_, ?_, ?_, ?_, ?_, ?_⟩
  · intro java hj
    cases hp : t.parent? with
    | none =>
      rw [hp] at hparent
      cases hparent
      cases hj
    | some name =>
      rw [hp] at hparent
      obtain ⟨java', hjava, he⟩ := Attempt.optionMapM_eq_ok_iff.1 hparent
      cases hj.symm.trans he
      exact isClass_of_superType hjava
  · intro java hj
    obtain ⟨name, -, hname⟩ := Attempt.exists_of_mem_mapM himplements hj
    exact isClass_of_superType hname
  · intro a ha
    change aliasType = some a at ha
    exact aliasPart_classes (ha ▸ halias)
  · intro r hr f hf
    change (if _ then some (ctx.recordDecision t) else none) = some r at hr
    split at hr
    case isTrue =>
      cases hr
      exact fieldDecisions_classes hf
    case isFalse => cases hr
  · intro m hm
    change callback = some m at hm
    obtain ⟨-, c, -, hbind⟩ := callbackPart_eq_ok (hm ▸ hcallback)
    exact bindCallable_classes hns howner hbind
  · intro m hm
    obtain ⟨n, -, c, -, hbind⟩ := mem_memberAttempts.1 hm
    exact bindCallable_classes hns howner hbind

theorem bindNamespace_classes (ctx : BindingContext) (floating : FloatingTable)
    (hns : ctx.library ∈ ctx.table.namespaces) :
    (ctx.bindNamespace floating).ClassesSatisfy ctx.table.IsClass where
  types d hd := by
    obtain ⟨t, ht, skipped, hbind⟩ := mem_types.1 hd
    exact bindType_classes hns ht hbind
  functions f hf := by
    obtain ⟨n, -, c, -, hbind⟩ := mem_functions.1 hf
    refine bindCallable_classes hns (fun t ht => ?_) hbind
    cases ht

end BindingContext
end GirBind
