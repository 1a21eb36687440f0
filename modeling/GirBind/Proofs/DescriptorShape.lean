import GirBind.Proofs.SignatureAgreement

namespace GirBind

/-- The index of the first variadic parameter, or the number of all if there is none. -/
def Callable.fixedCount (c : Callable) : Nat := c.parameters.findIdx Parameter.isVariadic

/-- The native call of a callable. Arguments for the variadic parameters have no rules, and the place
for an error is the last argument of a call that can fail. -/
structure Descriptor.IsCallOf (table : SymbolTable) (library declaration : String) (c : Callable)
    (d : Descriptor) : Prop where
  parameters : ∃ own,
    List.Forall₂ (fun p rule => ∃ t, p.type = some t ∧
        table.marshalRule library declaration t p.direction false = .ok rule)
      (c.parameters.take c.fixedCount) own ∧
    (∀ rule ∈ own, rule ≠ .void ∧ rule ≠ .errorSlot) ∧
    d.parameters = (if c.kind = .method ∨ c.kind = .signal then [.handle] else []) ++ own ++
      (if c.kind = .signal then [.pointer] else []) ++ (if c.throws then [.errorSlot] else [])
  errorSlot : ∀ i, d.parameters[i]? = some .errorSlot ↔
    c.throws = true ∧ i + 1 = d.parameters.length
  isVariadic : d.isVariadic = true ↔ c.fixedCount < c.parameters.length
  constructs : c.kind = .constructor → d.returnRule = .handle
  yields : c.kind ≠ .constructor → table.returnRule library declaration c = .ok d.returnRule
  result : d.returnRule ≠ .errorSlot
  java : ∃ layouts, List.Forall₂ (fun rule layout => rule.layout? = some layout)
      d.parameters layouts ∧
    (d.returnRule = .void ∧
        d.toJava = "FunctionDescriptor.ofVoid(" ++ ", ".intercalate layouts ++ ")" ∨
      ∃ layout, d.returnRule.layout? = some layout ∧
        d.toJava = "FunctionDescriptor.of(" ++ ", ".intercalate (layout :: layouts) ++ ")")

structure ParameterDecision.IsOf (ctx : BindingContext) (declaration : String)
    (all : List Parameter) (p : Parameter) (index : Nat) (d : ParameterDecision) : Prop where
  name : d.name = if p.isVariadic then "varargs" else Java.memberName (p.name.getD "")
  javaType : ctx.parameterType declaration p = .ok d.javaType
  direction : d.direction = p.direction
  transfer : d.transfer = p.transfer
  nullable : d.nullable = p.nullable
  hidden : d.hidden = true ↔ index ∈ Parameter.hiddenIndexes all
  isVariadic : d.isVariadic = p.isVariadic

/-- The decision about a callable that gets a binding: its native call, and one decision about each of
its parameters, in their order. -/
structure MemberDecision.Follows (ctx : BindingContext) (declaration : String) (c : Callable)
    (m : MemberDecision) : Prop where
  name : m.name = c.name
  kind : m.kind = c.kind
  descriptor : ∃ d, m.descriptor = some d ∧
    ctx.table.descriptor ctx.library.name declaration c = .ok d
  parameters : List.Forall₂ (fun i d => d.IsOf ctx declaration c.parameters i.1 i.2)
    c.parameters.zipIdx m.parameters

section

variable {rules : List MarshalRule}

theorem MarshalRule.layout?_eq_none_iff {rule : MarshalRule} :
    rule.layout? = none ↔ rule = .void := by
  cases rule <;> simp [layout?]

theorem MarshalRule.exists_layout {rule : MarshalRule} (h : rule ≠ .void) :
    ∃ layout, rule.layout? = some layout :=
  Option.ne_none_iff_exists'.1 (mt layout?_eq_none_iff.1 h)

theorem forall₂_layouts (h : ∀ rule ∈ rules, rule ≠ .void) :
    List.Forall₂ (fun rule layout => rule.layout? = some layout) rules
      (rules.filterMap MarshalRule.layout?) := by
  induction rules with
  | nil => exact .nil
  | cons rule rules ih =>
    obtain ⟨hrule, hrules⟩ := List.forall_mem_cons.1 h
    obtain ⟨layout, hlayout⟩ := MarshalRule.exists_layout hrule
    rw [List.filterMap_cons_some hlayout]
    exact .cons hlayout (ih hrules)

theorem Descriptor.java_of_parameters {d : Descriptor} (h : ∀ rule ∈ d.parameters, rule ≠ .void) :
    ∃ layouts, List.Forall₂ (fun rule layout => rule.layout? = some layout)
        d.parameters layouts ∧
      (d.returnRule = .void ∧
          d.toJava = "FunctionDescriptor.ofVoid(" ++ ", ".intercalate layouts ++ ")" ∨
        ∃ layout, d.returnRule.layout? = some layout ∧
          d.toJava = "FunctionDescriptor.of(" ++ ", ".intercalate (layout :: layouts) ++ ")") := by
  refine ⟨d.layouts, forall₂_layouts h, ?_⟩
  rw [toJava]
  cases hresult : d.returnRule.layout? with
  | none => exact .inl ⟨MarshalRule.layout?_eq_none_iff.1 hresult, rfl⟩
  | some layout => exact .inr ⟨layout, rfl, rfl⟩

theorem getElem?_errorSlot (h : .errorSlot ∉ rules) (throws : Bool) (i : Nat) :
    (rules ++ if throws then [MarshalRule.errorSlot] else [])[i]? = some .errorSlot ↔
      throws = true ∧ i + 1 = (rules ++ if throws then [MarshalRule.errorSlot] else []).length := by
  have hfront : rules[i]? ≠ some .errorSlot := fun hi => h (List.mem_of_getElem? hi)
  cases throws with
  | false =>
    rw [if_neg Bool.false_ne_true, List.append_nil]
    constructor
    · intro hi
      exact (hfront hi).elim
    · rintro ⟨hfalse, -⟩
      cases hfalse
  | true =>
    rw [if_pos rfl, List.length_append, List.length_singleton]
    rcases Nat.lt_trichotomy i rules.length with hlt | rfl | hgt
    · rw [List.getElem?_append_left hlt]
      constructor
      · intro hi
        exact (hfront hi).elim
      · rintro ⟨-, hlast⟩
        omega
    · rw [List.getElem?_append_right (Nat.le_refl _), Nat.sub_self]
      exact ⟨fun _ => ⟨rfl, rfl⟩, fun _ => rfl⟩
    · have hnone : (rules ++ [MarshalRule.errorSlot])[i]? = none := by
        apply List.getElem?_eq_none
        rw [List.length_append, List.length_singleton]
        exact hgt
      rw [hnone]
      constructor
      · intro hi
        cases hi
      · rintro ⟨-, hlast⟩
        omega

end

namespace SymbolTable

variable {table : SymbolTable} {library declaration : String} {t : TypeRef} {rule : MarshalRule}
  {direction : Direction} {isReturn : Bool} {c : Callable} {d : Descriptor}

/-- Only a result is no value at all, and no value is the place for an error. -/
theorem ne_of_marshalRule
    (h : table.marshalRule library declaration t direction isReturn = .ok rule) :
    (isReturn = false → rule ≠ .void) ∧ rule ≠ .errorSlot := by
  obtain ⟨r, -, h⟩ := Attempt.bind_eq_ok_iff.1 h
  split at h
  case isTrue =>
    cases h
    exact ⟨fun _ => by decide, by decide⟩
  case isFalse =>
    obtain ⟨s, -, h⟩ := Attempt.bind_eq_ok_iff.1 h
    rcases ruleOf_cases h with (rfl | rfl) | ⟨k, rfl, -⟩ | ⟨rfl, -, hreturn, -⟩
    · exact ⟨fun _ => by decide, by decide⟩
    · exact ⟨fun _ => by decide, by decide⟩
    · exact ⟨fun _ => nofun, nofun⟩
    · refine ⟨?_, by decide⟩
      intro hargument
      cases hargument.symm.trans hreturn

theorem ne_errorSlot_of_returnRule (h : table.returnRule library declaration c = .ok rule) :
    rule ≠ .errorSlot := by
  rw [returnRule] at h
  split at h
  case h_1 => exact (ne_of_marshalRule h).2
  case h_2 =>
    cases h
    decide

theorem parameterRule_eq_ok_iff {p : Parameter} :
    table.parameterRule library declaration p = .ok rule ↔ ∃ t, p.type = some t ∧
      table.marshalRule library declaration t p.direction false = .ok rule := by
  rw [parameterRule]
  cases p.type with
  | some t => simp
  | none => simp

theorem forall₂_parameterRules {own : List MarshalRule}
    (h : (c.parameters.takeWhile fun p => !p.isVariadic).mapM
      (table.parameterRule library declaration) = .ok own) :
    List.Forall₂ (fun p rule => ∃ t, p.type = some t ∧
        table.marshalRule library declaration t p.direction false = .ok rule)
      (c.parameters.take c.fixedCount) own := by
  have hfixed : (c.parameters.takeWhile fun p => !p.isVariadic) =
      c.parameters.take c.fixedCount := by
    rw [List.takeWhile_eq_take_findIdx_not]
    simp only [Bool.not_not]
    rfl
  rw [← hfixed]
  exact (Attempt.mapM_eq_ok_iff.1 h).imp fun _ _ => parameterRule_eq_ok_iff.1

theorem isCallOf_of_descriptor (h : table.descriptor library declaration c = .ok d) :
    d.IsCallOf table library declaration c := by
  obtain ⟨result, hresult, h⟩ := Attempt.bind_eq_ok_iff.1 h
  obtain ⟨own, hown, h⟩ := Attempt.bind_eq_ok_iff.1 h
  obtain rfl := Except.ok.inj h
  have hrules := forall₂_parameterRules hown
  have howns : ∀ rule ∈ own, rule ≠ .void ∧ rule ≠ .errorSlot := by
    intro rule hrule
    obtain ⟨p, -, h⟩ := Attempt.exists_of_mem_mapM hown hrule
    obtain ⟨t, -, h⟩ := parameterRule_eq_ok_iff.1 h
    exact ⟨(ne_of_marshalRule h).1 rfl, (ne_of_marshalRule h).2⟩
  have hfront : .errorSlot ∉ (if c.kind = .method ∨ c.kind = .signal then [MarshalRule.handle]
      else []) ++ own ++ (if c.kind = .signal then [MarshalRule.pointer] else []) := by
    simp only [List.mem_append, List.mem_ite_nil_right, List.mem_singleton]
    rintro ((⟨-, h⟩ | h) | ⟨-, h⟩)
    · cases h
    · exact (howns _ h).2 rfl
    · cases h
  constructor
  case parameters => exact ⟨own, hrules, howns, rfl⟩
  case errorSlot => exact getElem?_errorSlot hfront c.throws
  case isVariadic =>
    rw [Callable.fixedCount, List.findIdx_lt_length]
    exact List.any_eq_true
  case constructs =>
    intro hkind
    exact if_pos hkind
  case yields =>
    intro hkind
    rw [hresult]
    exact congrArg Except.ok (if_neg hkind).symm
  case result =>
    dsimp only
    split
    case isTrue => decide
    case isFalse => exact ne_errorSlot_of_returnRule hresult
  case java =>
    apply Descriptor.java_of_parameters
    intro rule hrule
    simp only [List.mem_append, List.mem_ite_nil_right, List.mem_singleton] at hrule
    obtain ((⟨-, rfl⟩ | h) | ⟨-, rfl⟩) | ⟨-, rfl⟩ := hrule
    · decide
    · exact (howns rule h).1
    · decide
    · decide

end SymbolTable

namespace BindingContext

variable {ctx : BindingContext} {declaration : String} {owner : Option RegisteredType}
  {c : Callable} {m : MemberDecision}

theorem forall₂_isOf {ps : List Parameter} {ds : List ParameterDecision}
    (h : ctx.parameterDecisions declaration ps = .ok ds) :
    List.Forall₂ (fun i d => d.IsOf ctx declaration ps i.1 i.2) ps.zipIdx ds := by
  apply (Attempt.mapM_eq_ok_iff.1 h).imp
  intro i d hd
  obtain ⟨java, hjava, rfl⟩ := Attempt.map_eq_ok_iff.1 hd
  exact {
    name := rfl
    javaType := hjava
    direction := rfl
    transfer := rfl
    nullable := rfl
    hidden := List.contains_iff_mem
    isVariadic := rfl }

theorem follows_of_bindCallable (h : ctx.bindCallable declaration owner c = .ok m)
    (hm : m.suppressed = none) : m.Follows ctx declaration c := by
  obtain ⟨sig, hsig, rfl⟩ := signature_of_bindCallable h hm
  obtain ⟨d, hdescriptor, -, hparameters, hsome⟩ := parts_of_signature hsig
  exact ⟨rfl, rfl, ⟨d, hsome, hdescriptor⟩, forall₂_isOf hparameters⟩

end BindingContext

/-- A native call has one argument for each parameter before the variadic ones, with the instance in
front and the place for an error at the end. Whatever gets a binding has such a call, and one decision
about each parameter. -/
theorem calls_of_descriptor :
    (∀ (table : SymbolTable) (library declaration : String) (c : Callable) (d : Descriptor),
      table.descriptor library declaration c = .ok d → d.IsCallOf table library declaration c) ∧
    ∀ (o : Options) (rs : List Repository), ∀ d ∈ (compileRepositories o rs).1,
      ∀ m ∈ d.callables, m.suppressed = none →
        ∃ ns ∈ (SymbolTable.build rs o.naming).namespaces, ns.name = d.name ∧
          ∃ declaration owner c, ns.Declares owner c ∧
            m.Follows ⟨SymbolTable.build rs o.naming, ns⟩ declaration c := by
  constructor
  · intro table library declaration c d h
    exact SymbolTable.isCallOf_of_descriptor h
  · intro o rs d hd m hm hsuppressed
    obtain ⟨ns, hns, rfl⟩ := List.mem_map.1 hd
    obtain ⟨declaration, owner, c, hdeclares, hbound⟩ :=
      BindingContext.exists_of_mem_callables hm
    exact ⟨ns, hns, rfl, declaration, owner, c, hdeclares,
      BindingContext.follows_of_bindCallable hbound hsuppressed⟩

def variadicMethod : Source :=
  ⟨"a", .all, "<repository><namespace name='X'><class name='A'><method name='m' throws='1'>
<return-value><type name='gint'/></return-value><parameters>
<parameter name='a'><type name='gint'/></parameter><parameter name='...'><varargs/></parameter>
<parameter name='b'><type name='utf8'/></parameter></parameters></method></class></namespace></repository>"⟩

set_option maxRecDepth 2000 in
theorem tokens_variadicMethod : Markup.tokens variadicMethod.content = .ok [
    ⟨.startTag "repository" [] false, ⟨1, 1⟩⟩,
    ⟨.startTag "namespace" [("name", "X")] false, ⟨1, 13⟩⟩,
    ⟨.startTag "class" [("name", "A")] false, ⟨1, 33⟩⟩,
    ⟨.startTag "method" [("name", "m"), ("throws", "1")] false, ⟨1, 49⟩⟩, ⟨.text "\n", ⟨1, 77⟩⟩,
    ⟨.startTag "return-value" [] false, ⟨2, 1⟩⟩,
    ⟨.startTag "type" [("name", "gint")] true, ⟨2, 15⟩⟩, ⟨.endTag "return-value", ⟨2, 34⟩⟩,
    ⟨.startTag "parameters" [] false, ⟨2, 49⟩⟩, ⟨.text "\n", ⟨2, 61⟩⟩,
    ⟨.startTag "parameter" [("name", "a")] false, ⟨3, 1⟩⟩,
    ⟨.startTag "type" [("name", "gint")] true, ⟨3, 21⟩⟩, ⟨.endTag "parameter", ⟨3, 40⟩⟩,
    ⟨.startTag "parameter" [("name", "...")] false, ⟨3, 52⟩⟩,
    ⟨.startTag "varargs" [] true, ⟨3, 74⟩⟩, ⟨.endTag "parameter", ⟨3, 84⟩⟩, ⟨.text "\n", ⟨3, 96⟩⟩,
    ⟨.startTag "parameter" [("name", "b")] false, ⟨4, 1⟩⟩,
    ⟨.startTag "type" [("name", "utf8")] true, ⟨4, 21⟩⟩, ⟨.endTag "parameter", ⟨4, 40⟩⟩,
    ⟨.endTag "parameters", ⟨4, 52⟩⟩, ⟨.endTag "method", ⟨4, 65⟩⟩, ⟨.endTag "class", ⟨4, 74⟩⟩,
    ⟨.endTag "namespace", ⟨4, 82⟩⟩, ⟨.endTag "repository", ⟨4, 94⟩⟩, ⟨.endOfInput, ⟨4, 107⟩⟩] :=
  (Markup.tokens_ofList _).trans (Attempt.toOption_eq_some_iff.1 (by decide +kernel))

theorem bound_variadicMethod : ∃ r, variadicMethod.repository = .ok r ∧
    ∃ d ∈ (compileRepositories .default [r]).1, ∃ m ∈ d.callables, m.suppressed = none ∧
      m.descriptor = some ⟨.scalar .int, [.handle, .scalar .int, .errorSlot], true⟩ ∧
      m.parameters.length = 3 := by
  rw [Source.repository, Source.root, tokens_variadicMethod]
  exact ⟨_, rfl, by decide +kernel⟩

theorem calls_of_variadicMethod : ∃ r, variadicMethod.repository = .ok r ∧
    ∃ d ∈ (compileRepositories .default [r]).1, ∃ m ∈ d.callables, m.suppressed = none ∧
      ∃ ns declaration c descriptor,
        m.Follows ⟨.build [r] Options.default.naming, ns⟩ declaration c ∧
        m.descriptor = some descriptor ∧
        descriptor.IsCallOf (.build [r] Options.default.naming) ns.name declaration c ∧
        c.parameters.length = 3 ∧ c.fixedCount < 3 ∧ c.throws = true := by
  obtain ⟨r, hr, d, hd, m, hm, hsuppressed, hdescriptor, hlength⟩ := bound_variadicMethod
  obtain ⟨ns, -, -, declaration, owner, c, -, hfollows⟩ :=
    calls_of_descriptor.2 .default [r] d hd m hm hsuppressed
  obtain ⟨descriptor, hsome, hcall⟩ := hfollows.descriptor
  cases hdescriptor.symm.trans hsome
  have hcallOf := calls_of_descriptor.1 _ _ _ _ _ hcall
  have hcount : c.parameters.length = 3 := by
    rw [← hlength, ← hfollows.parameters.length_eq, List.length_zipIdx]
  refine ⟨r, hr, d, hd, m, hm, hsuppressed, ns, declaration, c, _, hfollows, hsome, hcallOf,
    hcount, ?_, ?_⟩
  · rw [← hcount]
    exact hcallOf.isVariadic.1 rfl
  · exact ((hcallOf.errorSlot 2).1 rfl).1

end GirBind
