import GirBind.Proofs.Mention

namespace GirBind

def javaPrimitives : List String := ["boolean", "byte", "short", "int", "long", "float", "double"]

/-- The Java types that stand for a number of a native format, if no declaration gives the type. A
truth value is a C integer, and the identity of a type is a long one. -/
def Scalar.javaTypes : Scalar → List String
  | .byte => ["byte"]
  | .short => ["short"]
  | .int => ["boolean", "int"]
  | .long => ["long", "org.gnome.glib.Type"]
  | .float => ["float"]
  | .double => ["double"]

theorem Primitive.javaType_mem_javaTypes {p : Primitive} {k : Scalar} (h : p.scalar? = some k) :
    p.javaType ∈ k.javaTypes := by
  cases p <;> cases h <;> decide

namespace SymbolTable

variable {table : SymbolTable} {library declaration : String} {t : TypeRef} {rule : MarshalRule}
  {java : String}

def IsClassOf (table : SymbolTable) (v : Variant) (java : String) : Prop :=
  ∃ ns ∈ table.namespaces, ∃ t ∈ ns.types.values,
    t.variant = v ∧ java = table.qualifiedJavaName ns.name t.name

/-- A rule and a Java type tell the same about a value. -/
structure Agree (table : SymbolTable) (rule : MarshalRule) (java : String) : Prop where
  void : rule = .void ↔ java = "void"
  scalar : ∀ k, rule = .scalar k → java ∈ k.javaTypes ∨
    (k = .int ∧ table.IsClassOf .enumeration java) ∨ table.IsClassOf .aliasType java
  address : rule = .pointer ∨ rule = .handle → java ∉ "void" :: javaPrimitives

/-- A mention leads to a type by the name of that. -/
def Names (table : SymbolTable) (library : String) (t : TypeRef) (r : ResolvedType) : Prop :=
  t.isArray = false ∧ ∃ name, t.name = some name ∧
    match r with
    | .registered e => table.lookup? library name = some e
    | .primitive p => table.lookup? library name = none ∧ Primitive.ofName? name = some p

/-- What a rule says and the Java type does not: that there is a pointer to a value, that nothing can
be passed as an argument, and that a class stands for nothing. -/
inductive Departs (table : SymbolTable) (library : String) (isReturn : Bool) (t : TypeRef) :
    MarshalRule → String → Prop
  | pointer {p : Primitive} (hp : table.Names library t (.primitive p))
    (hpointer : t.isPointer = true) (hjava : p.javaType ∈ "void" :: javaPrimitives) :
    Departs table library isReturn t .pointer p.javaType
  | argument (hp : table.Names library t (.primitive .void)) (hreturn : isReturn = false) :
    Departs table library isReturn t .pointer "void"
  | result {e : TypeEntry} {declaration : String} (he : table.Names library t (.registered e))
    (halias : e.type.variant = .aliasType)
    (hvoid : table.underlying declaration (.registered e) = .ok (.primitive .void))
    (hpointer : t.isPointer = false) (hreturn : isReturn = true) :
    Departs table library isReturn t .void
      (table.qualifiedJavaName e.library e.type.name)

theorem not_mem_of_char {c : Char} (hc : c = '.' ∨ c = ']') (h : c ∈ java.toList) :
    java ∉ "void" :: javaPrimitives := by
  intro hmem
  have hfree : ∀ s ∈ "void" :: javaPrimitives, '.' ∉ s.toList ∧ ']' ∉ s.toList := by decide
  rcases hc with rfl | rfl
  · exact (hfree java hmem).1 h
  · exact (hfree java hmem).2 h

theorem dot_mem_qualifiedJavaName (table : SymbolTable) (library type : String) :
    '.' ∈ (table.qualifiedJavaName library type).toList := by
  change '.' ∈ (table.package library ++ "." ++ Java.simpleType type).toList
  rw [String.toList_append, String.toList_append]
  exact List.mem_append_left _ (List.mem_append_right _ (List.mem_singleton_self '.'))

theorem agree_address (hrule : rule = .pointer ∨ rule = .handle)
    (hjava : java ∉ "void" :: javaPrimitives) : table.Agree rule java where
  void := by
    constructor
    · rintro rfl
      rcases hrule with h | h <;> cases h
    · rintro rfl
      exact absurd List.mem_cons_self hjava
  scalar := by
    rintro k rfl
    rcases hrule with h | h <;> cases h
  address _ := hjava

theorem agree_void : table.Agree .void "void" where
  void := ⟨fun _ => rfl, fun _ => rfl⟩
  scalar _ h := by cases h
  address h := by rcases h with h | h <;> cases h

theorem agree_scalar {k : Scalar} (hjava : java ≠ "void")
    (h : java ∈ k.javaTypes ∨ (k = .int ∧ table.IsClassOf .enumeration java) ∨ table.IsClassOf .aliasType java) :
    table.Agree (.scalar k) java where
  void := by
    constructor
    · intro h
      cases h
    · intro h
      exact absurd h hjava
  scalar k' hk := by
    cases hk
    exact h
  address h := by rcases h with h | h <;> cases h

theorem underlying_primitive (p : Primitive) :
    table.underlying declaration (.primitive p) = .ok (.primitive p) := by
  rw [underlying.eq_def, followAliases.eq_def]

theorem agree_of_scalar {p : Primitive} {k : Scalar} {isReturn : Bool}
    (hp : table.Names library t (.primitive p)) (hk : p.scalar? = some k)
    (hrule : rule = if t.isPointer then .pointer else .scalar k) :
    table.Agree rule p.javaType ∨
      table.Departs library isReturn t rule p.javaType := by
  subst hrule
  split
  case isTrue hpointer =>
    by_cases hjava : p.javaType ∈ "void" :: javaPrimitives
    · exact .inr (.pointer hp hpointer hjava)
    · exact .inl (agree_address (.inl rfl) hjava)
  case isFalse =>
    refine .inl (agree_scalar ?_ (.inl (Primitive.javaType_mem_javaTypes hk)))
    cases p with
    | void => cases hk
    | _ => decide

theorem agree_of_primitive {p : Primitive} {isReturn : Bool}
    (hp : table.Names library t (.primitive p))
    (h : ruleOf library declaration t.isPointer isReturn (.primitive p) = .ok rule) :
    table.Agree rule p.javaType ∨
      table.Departs library isReturn t rule p.javaType := by
  cases p with
  | void =>
    have hrule : (if isReturn && !t.isPointer then MarshalRule.void else .pointer) = rule :=
      Except.ok.inj h
    cases hpointer : t.isPointer with
    | true =>
      rw [hpointer, Bool.not_true, Bool.and_false, if_neg Bool.false_ne_true] at hrule
      subst hrule
      exact .inr (.pointer hp hpointer List.mem_cons_self)
    | false =>
      rw [hpointer, Bool.not_false, Bool.and_true] at hrule
      cases hreturn : isReturn with
      | true =>
        rw [hreturn, if_pos rfl] at hrule
        subst hrule
        exact .inl agree_void
      | false =>
        rw [hreturn, if_neg Bool.false_ne_true] at hrule
        subst hrule
        exact .inr (.argument hp rfl)
  | vaList => cases h
  | string | pointer =>
    cases h
    exact .inl (agree_address (.inl rfl) (by decide))
  | boolean | byte | short | int | long | float | double | gtype =>
    exact agree_of_scalar hp rfl (Except.ok.inj h).symm

theorem ruleOf_cases {r : ResolvedType} {isPointer isReturn : Bool}
    (h : ruleOf library declaration isPointer isReturn r = .ok rule) :
    (rule = .pointer ∨ rule = .handle) ∨
      (∃ k, rule = .scalar k ∧
        ∀ e, r = .registered e → e.type.variant = .enumeration ∧ k = .int) ∨
      rule = .void ∧ r = .primitive .void ∧ isReturn = true ∧ isPointer = false := by
  have hscalar {k : Scalar} (hr : ∀ e, r = .registered e → e.type.variant = .enumeration ∧ k = .int)
      (hrule : (if isPointer then MarshalRule.pointer else .scalar k) = rule) :
      (rule = .pointer ∨ rule = .handle) ∨
        ∃ k, rule = .scalar k ∧
          ∀ e, r = .registered e → e.type.variant = .enumeration ∧ k = .int := by
    subst hrule
    split
    case isTrue => exact .inl (.inl rfl)
    case isFalse => exact .inr ⟨k, rfl, hr⟩
  cases r with
  | primitive p =>
    have hprimitive (k : Scalar) : ∀ e, ResolvedType.primitive p = .registered e →
        e.type.variant = .enumeration ∧ k = .int := by
      intro e he
      cases he
    cases p with
    | void =>
      have hrule : (if isReturn && !isPointer then MarshalRule.void else .pointer) = rule :=
        Except.ok.inj h
      split at hrule
      case isTrue hvoid =>
        rw [Bool.and_eq_true, Bool.not_eq_true'] at hvoid
        exact .inr (.inr ⟨hrule.symm, rfl, hvoid⟩)
      case isFalse => exact .inl (.inl hrule.symm)
    | vaList => cases h
    | string | pointer => exact .inl (.inl (Except.ok.inj h).symm)
    | boolean | byte | short | int | long | float | double | gtype =>
      exact (hscalar (hprimitive _) (Except.ok.inj h)).imp_right .inl
  | registered e =>
    rw [ruleOf] at h
    cases hv : e.type.variant with
    | enumeration =>
      rw [hv] at h
      have henumeration : ∀ e', ResolvedType.registered e = .registered e' →
          e'.type.variant = .enumeration ∧ Scalar.int = .int := by
        intro e' he
        cases he
        exact ⟨hv, rfl⟩
      exact (hscalar henumeration (Except.ok.inj h)).imp_right .inl
    | callback =>
      rw [hv] at h
      exact .inl (.inl (Except.ok.inj h).symm)
    | classType | interface | record | union | boxed =>
      rw [hv] at h
      exact .inl (.inr (Except.ok.inj h).symm)
    | aliasType =>
      rw [hv] at h
      cases h

/-- A value of a declared type. Of an alias only what it leads to decides about the rule, while the
Java type is the class of the alias itself. -/
theorem agree_of_registered {e : TypeEntry} {r : ResolvedType} {isReturn : Bool}
    (he : table.Names library t (.registered e))
    (hunderlying : table.underlying declaration (.registered e) = .ok r)
    (h : ruleOf library declaration t.isPointer isReturn r = .ok rule) :
    table.Agree rule (table.qualifiedJavaName e.library e.type.name) ∨
      table.Departs library isReturn t rule
        (table.qualifiedJavaName e.library e.type.name) := by
  have hjava : table.qualifiedJavaName e.library e.type.name ∉ "void" :: javaPrimitives :=
    not_mem_of_char (.inl rfl) (dot_mem_qualifiedJavaName table _ _)
  have hclass : table.IsClassOf e.type.variant
      (table.qualifiedJavaName e.library e.type.name) := by
    obtain ⟨-, name, -, hlookup⟩ := he
    obtain ⟨ns, hns, hname, ht⟩ := mem_of_lookup? hlookup
    exact ⟨ns, hns, e.type, ht, rfl, by rw [hname]⟩
  have hself : e.type.variant ≠ .aliasType → r = .registered e := fun hv =>
    Except.ok.inj (hunderlying.symm.trans (underlying_of_hasValues hv))
  rcases ruleOf_cases h with haddress | ⟨k, rfl, hk⟩ | ⟨rfl, rfl, hreturn, hpointer⟩
  · exact .inl (agree_address haddress hjava)
  · refine .inl (agree_scalar (fun hvoid => hjava (hvoid ▸ List.mem_cons_self)) (.inr ?_))
    by_cases hv : e.type.variant = .aliasType
    · exact .inr (hv ▸ hclass)
    · obtain ⟨henumeration, hint⟩ := hk e (hself hv)
      exact .inl ⟨hint, henumeration ▸ hclass⟩
  · -- nothing but an alias leads on to another type
    have halias : e.type.variant = .aliasType := by
      by_contra hv
      cases hself hv
    exact .inr (.result he halias hunderlying hpointer hreturn)

theorem agree_of_marshalRule {isReturn : Bool}
    (hrule : table.marshalRule library declaration t .input isReturn = .ok rule)
    (hjava : table.inputJavaType library declaration t = .ok java) :
    table.Agree rule java ∨ table.Departs library isReturn t rule java := by
  obtain ⟨resolved, hresolved, hrule⟩ := Attempt.bind_eq_ok_iff.1 hrule
  obtain ⟨isArray, name, cType, element, length, fixedSize, zeroTerminated⟩ := t
  cases isArray with
  | true =>
    obtain rfl : .pointer = rule := Except.ok.inj hrule
    refine .inl (agree_address (.inl rfl) ?_)
    cases element with
    | none =>
      cases hjava
      decide
    | some element =>
      -- whatever the elements are, the brackets tell an array from a value
      obtain ⟨inner, -, rfl⟩ := Attempt.map_eq_ok_iff.1 hjava
      apply not_mem_of_char (.inr rfl)
      rw [String.toList_append]
      exact List.mem_append_right _ (by decide)
  | false =>
    have hdirect : table.underlying declaration resolved >>= ruleOf library declaration
        (TypeRef.isPointer ⟨false, name, cType, element, length, fixedSize, zeroTerminated⟩)
        isReturn = .ok rule := hrule
    obtain ⟨r, hr, hof⟩ := Attempt.bind_eq_ok_iff.1 hdirect
    cases name with
    | none =>
      cases hresolved
      rw [underlying_primitive] at hr
      cases hr
      cases hof
      cases hjava
      exact .inl (agree_address (.inl rfl) (by decide))
    | some name =>
      obtain ⟨resolved', hresolve, rfl⟩ := Attempt.map_eq_ok_iff.1 hjava
      obtain rfl : resolved' = resolved := Except.ok.inj (hresolve.symm.trans hresolved)
      rw [resolve] at hresolve
      split at hresolve
      case h_1 e he =>
        cases hresolve
        exact agree_of_registered ⟨rfl, name, rfl, he⟩ hr hof
      case h_2 hnone =>
        split at hresolve
        case h_1 p hp =>
          cases hresolve
          rw [underlying_primitive] at hr
          cases hr
          exact agree_of_primitive ⟨rfl, name, rfl, hnone, hp⟩ hof
        case h_2 => cases hresolve

end SymbolTable
end GirBind
