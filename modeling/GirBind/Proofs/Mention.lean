import GirBind.Binding.Marshal
import GirBind.Proofs.Attempt
import GirBind.Proofs.OrderedMap

namespace GirBind

namespace TypeRef

mutual

/-- The names whose types make up the Java type of a mention. -/
def names : TypeRef → List String
  | ⟨true, _, _, element, _, _, _⟩ => elementNames element
  | ⟨false, name, _, _, _, _, _⟩ => name.toList

def elementNames : Option TypeRef → List String
  | some t => names t
  | none => []

end

/-- The name that decides how a value is passed. That of an array is the one of its elements. -/
def directName? (t : TypeRef) : Option String :=
  if t.isArray then t.element.bind name else t.name

end TypeRef

inductive JavaType (isClass : String → Prop) : String → Prop
  | primitive (p : Primitive) : JavaType isClass p.javaType
  | variadic : JavaType isClass "java.lang.Object..."
  | declared {java : String} (h : isClass java) : JavaType isClass java
  | array {java : String} (h : JavaType isClass java) : JavaType isClass (java ++ "[]")
  | out {java : String} (h : JavaType isClass java) :
    JavaType isClass s!"Out<{SymbolTable.boxed java}>"

theorem JavaType.mono {p q : String → Prop} (hpq : ∀ java, p java → q java) {java : String}
    (h : JavaType p java) : JavaType q java := by
  induction h with
  | primitive p => exact .primitive p
  | variadic => exact .variadic
  | declared h => exact .declared (hpq _ h)
  | array _ ih => exact .array ih
  | out _ ih => exact .out ih

theorem JavaType.memorySegment {isClass : String → Prop} : JavaType isClass memorySegment :=
  .primitive .pointer

theorem JavaType.void {isClass : String → Prop} : JavaType isClass "void" := .primitive .void

namespace SymbolTable

variable {table : SymbolTable} {library declaration : String}

def Resolves (table : SymbolTable) (current name : String) : Prop :=
  (table.lookup? current name).isSome ∨ (Primitive.ofName? name).isSome

def IsClass (table : SymbolTable) (java : String) : Prop :=
  ∃ ns ∈ table.namespaces, ∃ t ∈ ns.types.values,
    java = table.qualifiedJavaName ns.name t.name

theorem mem_of_lookup? {current name : String} {e : TypeEntry}
    (h : table.lookup? current name = some e) :
    ∃ ns ∈ table.namespaces, ns.name = e.library ∧ e.type ∈ ns.types.values := by
  obtain ⟨ns, hns, h⟩ := Option.bind_eq_some_iff.1 h
  obtain ⟨t, ht, rfl⟩ := Option.map_eq_some_iff.1 h
  exact ⟨ns, OrderedMap.mem_values_of_get? hns, rfl, OrderedMap.mem_values_of_get? ht⟩

theorem isClass_of_lookup? {current name : String} {e : TypeEntry}
    (h : table.lookup? current name = some e) :
    table.IsClass (table.qualifiedJavaName e.library e.type.name) := by
  obtain ⟨ns, hns, hname, ht⟩ := mem_of_lookup? h
  exact ⟨ns, hns, e.type, ht, by rw [hname]⟩

theorem resolve_isOk_iff {name : String} :
    (∃ r, table.resolve library declaration name = .ok r) ↔ table.Resolves library name := by
  rw [resolve, Resolves]
  cases table.lookup? library name with
  | some e => exact ⟨fun _ => .inl rfl, fun _ => ⟨_, rfl⟩⟩
  | none =>
    cases Primitive.ofName? name with
    | some p => exact ⟨fun _ => .inr rfl, fun _ => ⟨_, rfl⟩⟩
    | none => simp only [reduceCtorEq, exists_false, Option.isSome_none, Bool.false_eq_true,
        or_self]

mutual

theorem inputJavaType_isOk_iff : ∀ t : TypeRef,
    (∃ java, table.inputJavaType library declaration t = .ok java) ↔
      ∀ name ∈ t.names, table.Resolves library name
  | ⟨true, _, _, element, _, _, _⟩ => arrayJavaType_isOk_iff element
  | ⟨false, none, _, _, _, _, _⟩ => by
    simp only [inputJavaType, TypeRef.names, Option.toList_none]
    exact ⟨fun _ _ h => absurd h List.not_mem_nil, fun _ => ⟨_, rfl⟩⟩
  | ⟨false, some name, _, _, _, _, _⟩ => by
    simp only [inputJavaType, TypeRef.names, Option.toList_some, List.mem_singleton, forall_eq]
    rw [Attempt.map_isOk_iff, resolve_isOk_iff]

theorem arrayJavaType_isOk_iff : ∀ element : Option TypeRef,
    (∃ java, table.arrayJavaType library declaration element = .ok java) ↔
      ∀ name ∈ TypeRef.elementNames element, table.Resolves library name
  | none => ⟨fun _ _ h => absurd h List.not_mem_nil, fun _ => ⟨_, rfl⟩⟩
  | some t => by
    rw [arrayJavaType, Attempt.map_isOk_iff, inputJavaType_isOk_iff t, TypeRef.elementNames]

end

mutual

/-- The only classes in the Java type of a mention are those of declared types. -/
theorem javaType_of_inputJavaType : ∀ {t : TypeRef} {java : String},
    table.inputJavaType library declaration t = .ok java → JavaType table.IsClass java
  | ⟨true, _, _, element, _, _, _⟩, java, h => javaType_of_arrayJavaType h
  | ⟨false, none, _, _, _, _, _⟩, java, h => by
    cases h
    exact .memorySegment
  | ⟨false, some name, _, _, _, _, _⟩, java, h => by
    obtain ⟨r, hr, rfl⟩ := Attempt.map_eq_ok_iff.1 h
    rw [resolve] at hr
    split at hr
    case h_1 e he =>
      cases hr
      exact .declared (isClass_of_lookup? he)
    case h_2 =>
      split at hr
      case h_1 p _ =>
        cases hr
        exact .primitive p
      case h_2 => cases hr

theorem javaType_of_arrayJavaType : ∀ {element : Option TypeRef} {java : String},
    table.arrayJavaType library declaration element = .ok java → JavaType table.IsClass java
  | none, java, h => by
    cases h
    exact .memorySegment
  | some t, java, h => by
    obtain ⟨inner, hinner, rfl⟩ := Attempt.map_eq_ok_iff.1 h
    exact .array (javaType_of_inputJavaType hinner)

end

theorem resolveRef_isOk_iff {t : TypeRef} :
    (∃ r, table.resolveRef library declaration t = .ok r) ↔
      ∀ name, t.directName? = some name → table.Resolves library name := by
  rw [resolveRef, TypeRef.directName?]
  split
  case isTrue =>
    cases t.element.bind TypeRef.name with
    | none =>
      refine ⟨?_, fun _ => ⟨_, rfl⟩⟩
      intro _ name he
      cases he
    | some name =>
      dsimp only
      rw [Attempt.map_isOk_iff, resolve_isOk_iff]
      exact ⟨fun h _ he => Option.some.inj he ▸ h, fun h => h name rfl⟩
  case isFalse =>
    cases t.name with
    | none =>
      refine ⟨?_, fun _ => ⟨_, rfl⟩⟩
      intro _ name he
      cases he
    | some name =>
      dsimp only
      rw [resolve_isOk_iff]
      exact ⟨fun h _ he => Option.some.inj he ▸ h, fun h => h name rfl⟩

theorem javaType_isOk_iff {t : TypeRef} {direction : Direction} :
    (∃ java, table.javaType library declaration t direction = .ok java) ↔
      ∀ name ∈ t.names, table.Resolves library name := by
  rw [javaType, Attempt.map_isOk_iff, inputJavaType_isOk_iff]

theorem javaType_of_javaType {t : TypeRef} {direction : Direction} {java : String}
    (h : table.javaType library declaration t direction = .ok java) :
    JavaType table.IsClass java := by
  obtain ⟨inner, hinner, rfl⟩ := Attempt.map_eq_ok_iff.1 h
  have hclasses := javaType_of_inputJavaType hinner
  split
  case isTrue => exact hclasses
  case isFalse => exact .out hclasses

def IsValue (table : SymbolTable) (current name : String) : Prop :=
  match table.lookup? current name with
  | some e => e.type.variant ≠ .aliasType
  | none => ∃ p, Primitive.ofName? name = some p ∧ p ≠ .vaList

theorem IsValue.resolves {name : String} (h : table.IsValue library name) :
    table.Resolves library name := by
  rw [IsValue] at h
  rw [Resolves]
  cases hl : table.lookup? library name with
  | some e => exact .inl rfl
  | none =>
    rw [hl] at h
    obtain ⟨p, hp, -⟩ := h
    exact .inr (by rw [hp, Option.isSome_some])

def HasValues : ResolvedType → Prop
  | .registered e => e.type.variant ≠ .aliasType
  | .primitive p => p ≠ .vaList

theorem IsValue.resolve {name : String} (h : table.IsValue library name) (declaration : String) :
    ∃ r, table.resolve library declaration name = .ok r ∧ HasValues r := by
  rw [IsValue] at h
  rw [SymbolTable.resolve]
  cases hl : table.lookup? library name with
  | some e =>
    rw [hl] at h
    exact ⟨.registered e, rfl, h⟩
  | none =>
    rw [hl] at h
    obtain ⟨p, hp, hne⟩ := h
    rw [hp]
    exact ⟨.primitive p, rfl, hne⟩

theorem ruleOf_isOk {r : ResolvedType} {isPointer isReturn : Bool} (h : HasValues r) :
    ∃ rule, ruleOf library declaration isPointer isReturn r = .ok rule := by
  cases r with
  | registered e =>
    rw [ruleOf]
    cases hv : e.type.variant with
    | aliasType => exact absurd hv h
    | _ => exact ⟨_, rfl⟩
  | primitive p =>
    cases p with
    | vaList => exact absurd rfl h
    | _ => exact ⟨_, rfl⟩

theorem underlying_of_hasValues {r : ResolvedType} (h : HasValues r) :
    table.underlying declaration r = .ok r := by
  rw [underlying.eq_def, followAliases.eq_def]
  cases r with
  | registered e => exact if_neg h
  | primitive p => rfl

theorem hasValues_of_resolveRef {t : TypeRef} {r : ResolvedType} (harray : t.isArray = false)
    (h : ∀ name, t.directName? = some name → table.IsValue library name)
    (hr : table.resolveRef library declaration t = .ok r) : HasValues r := by
  rw [TypeRef.directName?, harray, if_neg Bool.false_ne_true] at h
  rw [resolveRef, harray, if_neg Bool.false_ne_true] at hr
  split at hr
  case h_1 name hname =>
    obtain ⟨r', hr', hvalues⟩ := (h name hname).resolve declaration
    rw [hr] at hr'
    cases hr'
    exact hvalues
  case h_2 =>
    cases hr
    intro hp
    cases hp

theorem exists_resolveRef_of_marshalRule {t : TypeRef} {direction : Direction} {isReturn : Bool}
    {rule : MarshalRule}
    (h : table.marshalRule library declaration t direction isReturn = .ok rule) :
    ∃ r, table.resolveRef library declaration t = .ok r := by
  obtain ⟨r, hr, -⟩ := Attempt.bind_eq_ok_iff.1 h
  exact ⟨r, hr⟩

/-- A value can be passed if its type is neither an alias nor a list of arguments. Whether there is
a decision about a declared type does not matter. -/
theorem marshalRule_isOk {t : TypeRef} {direction : Direction} {isReturn : Bool}
    (h : ∀ name, t.directName? = some name → table.IsValue library name) :
    ∃ rule, table.marshalRule library declaration t direction isReturn = .ok rule := by
  obtain ⟨r, hr⟩ : ∃ r, table.resolveRef library declaration t = .ok r :=
    resolveRef_isOk_iff.2 fun name hname => (h name hname).resolves
  rw [marshalRule, hr]
  change ∃ rule, (if (t.isArray || direction != .input) = true then Except.ok .pointer else
    table.underlying declaration r >>= ruleOf library declaration t.isPointer isReturn) =
      Except.ok rule
  split
  case isTrue => exact ⟨_, rfl⟩
  case isFalse hdirect =>
    rw [Bool.or_eq_true, not_or, Bool.not_eq_true] at hdirect
    have hvalues := hasValues_of_resolveRef hdirect.1 h hr
    rw [underlying_of_hasValues hvalues]
    exact ruleOf_isOk hvalues

end SymbolTable
end GirBind
