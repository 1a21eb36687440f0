import Mathlib.Data.List.TakeWhile
import GirBind.Proofs.Carrier
import GirBind.Proofs.ClassNames
import GirBind.Proofs.Derived
import GirBind.Proofs.SymbolTable

namespace GirBind

/-- The number of arguments of a native call that come before the parameters: the instance. -/
def CallableKind.leading : CallableKind → Nat
  | method | signal => 1
  | constructor | function | callback => 0

def MemberDecision.fixed (m : MemberDecision) : List ParameterDecision :=
  m.parameters.takeWhile fun p => !p.isVariadic

def Namespace.Declares (ns : Namespace) (owner : Option RegisteredType) (c : Callable) : Prop :=
  match owner with
  | some t => t ∈ ns.types.values ∧ ∃ n ∈ t.node :: t.node.children, Callable.ofNode? n = some c
  | none => ∃ n ∈ ns.functions, Callable.ofNode? n = some c

/-- The native call and the Java signature tell the same about the result, and about all that is
passed to a call before variadic arguments. -/
structure MemberDecision.Carries (table : SymbolTable) (library : String) (c : Callable)
    (d : Descriptor) (m : MemberDecision) : Prop where
  result : table.Agree d.returnRule m.returnType ∨
    ∃ t, c.returnType? = some t ∧ table.Departs library true t d.returnRule m.returnType
  parameters : ∀ i p, m.fixed[i]? = some p → p.direction = .input →
    ∃ rule t, d.parameters[m.kind.leading + i]? = some rule ∧
      c.parameters[i]?.bind Parameter.type = some t ∧
      (table.Agree rule p.javaType ∨ table.Departs library false t rule p.javaType)

section

variable {α : Type u} {β : Type v} {R : α → β → Prop} {l : List α} {m : List β}

theorem forall₂_takeWhile {p : α → Bool} {q : β → Bool} (h : List.Forall₂ R l m)
    (hpq : ∀ a b, R a b → p a = q b) : List.Forall₂ R (l.takeWhile p) (m.takeWhile q) := by
  induction h with
  | nil => exact .nil
  | @cons a b l m hab _ ih =>
    rw [List.takeWhile_cons, List.takeWhile_cons, hpq a b hab]
    split
    case isTrue => exact .cons hab ih
    case isFalse => exact .nil

theorem exists_left_of_getElem? {i : Nat} {b : β} (h : List.Forall₂ R l m) (hb : m[i]? = some b) :
    ∃ a, l[i]? = some a ∧ R a b := by
  obtain ⟨hi, rfl⟩ := List.getElem?_eq_some_iff.1 hb
  have hl : i < l.length := h.length_eq ▸ hi
  exact ⟨l[i], List.getElem?_eq_getElem hl, h.get hl hi⟩

end

namespace BindingContext

variable {ctx : BindingContext} {declaration : String} {owner : Option RegisteredType}
  {c : Callable} {d : Descriptor}

theorem agree_of_returnType {java : String} {rule : MarshalRule}
    (howner : c.kind = .constructor → owner.isSome)
    (hrule : ctx.table.returnRule ctx.library.name declaration c = .ok rule)
    (hjava : ctx.returnType declaration owner c = .ok java) :
    ctx.table.Agree (if c.kind = .constructor then .handle else rule) java ∨
      ∃ t, c.returnType? = some t ∧ ctx.table.Departs ctx.library.name true t
        (if c.kind = .constructor then .handle else rule) java := by
  unfold returnType at hjava
  split at hjava
  case h_1 t hkind =>
    cases hjava
    rw [if_pos hkind]
    exact .inl (SymbolTable.agree_address (.inr rfl)
      (SymbolTable.not_mem_of_char (.inl rfl) (SymbolTable.dot_mem_qualifiedJavaName _ _ _)))
  case h_2 hother =>
    have hkind : c.kind ≠ .constructor := by
      intro hkind
      obtain ⟨t, rfl⟩ := Option.isSome_iff_exists.1 (howner hkind)
      exact hother t hkind rfl
    rw [if_neg hkind]
    rw [SymbolTable.returnRule] at hrule
    cases ht : c.returnType? with
    | none =>
      rw [ht] at hrule hjava
      cases hrule
      cases hjava
      exact .inl SymbolTable.agree_void
    | some t =>
      rw [ht] at hrule hjava
      obtain ⟨java', hinput, rfl⟩ := Attempt.map_eq_ok_iff.1 hjava
      exact (SymbolTable.agree_of_marshalRule hrule hinput).imp_right fun h => ⟨t, rfl, h⟩

theorem agree_of_parameterType {p : Parameter} {java : String} {rule : MarshalRule}
    (hfixed : p.isVariadic = false) (hdirection : p.direction = .input)
    (hrule : ctx.table.parameterRule ctx.library.name declaration p = .ok rule)
    (hjava : ctx.parameterType declaration p = .ok java) :
    ∃ t, p.type = some t ∧
      (ctx.table.Agree rule java ∨ ctx.table.Departs ctx.library.name false t rule java) := by
  rw [SymbolTable.parameterRule] at hrule
  rw [parameterType, hfixed, if_neg Bool.false_ne_true] at hjava
  cases ht : p.type with
  | none =>
    rw [ht] at hrule
    cases hrule
  | some t =>
    rw [ht] at hrule hjava
    dsimp only at hrule hjava
    rw [hdirection] at hrule hjava
    obtain ⟨java', hinput, rfl⟩ := Attempt.map_eq_ok_iff.1 hjava
    exact ⟨t, rfl, SymbolTable.agree_of_marshalRule hrule hinput⟩

theorem forall₂_parameterDecisions {ps : List Parameter} {ds : List ParameterDecision}
    (h : ctx.parameterDecisions declaration ps = .ok ds) :
    List.Forall₂ (fun p d => ctx.parameterType declaration p = .ok d.javaType ∧
      d.direction = p.direction ∧ d.isVariadic = p.isVariadic) ps ds := by
  have hall := Attempt.mapM_eq_ok_iff.1 h
  rw [← List.zipIdx_map_fst 0 ps, List.forall₂_map_left_iff]
  refine hall.imp fun e d hd => ?_
  obtain ⟨java, hjava, rfl⟩ := Attempt.map_eq_ok_iff.1 hd
  exact ⟨hjava, rfl, rfl⟩

theorem getElem?_rules {k : CallableKind} {rules after last : List MarshalRule} (i : Nat)
    {rule : MarshalRule} (h : rules[i]? = some rule) :
    ((if k = .method ∨ k = .signal then [MarshalRule.handle] else []) ++ rules ++ after ++
      last)[k.leading + i]? = some rule := by
  have hleading : k.leading =
      (if k = .method ∨ k = .signal then [MarshalRule.handle] else []).length := by
    cases k <;> rfl
  obtain ⟨hi, -⟩ := List.getElem?_eq_some_iff.1 h
  rw [List.append_assoc, List.append_assoc, hleading,
    List.getElem?_append_right (Nat.le_add_right _ _), Nat.add_sub_cancel_left,
    List.getElem?_append_left hi, h]

theorem carries_of_signature {sig : Signature} (howner : c.kind = .constructor → owner.isSome)
    (h : ctx.signature declaration owner c = .ok sig) :
    ∃ d, sig.descriptor = some d ∧
      MemberDecision.Carries ctx.table ctx.library.name c d (ctx.memberDecision owner c sig) := by
  obtain ⟨d, hdescriptor, hjava, hparameters, hsome⟩ := parts_of_signature h
  obtain ⟨result, hresult, hdescriptor⟩ := Attempt.bind_eq_ok_iff.1 hdescriptor
  obtain ⟨rules, hrules, hdescriptor⟩ := Attempt.bind_eq_ok_iff.1 hdescriptor
  obtain rfl := Except.ok.inj hdescriptor
  refine ⟨_, hsome, agree_of_returnType howner hresult hjava, ?_⟩
  intro i m hm hinput
  obtain ⟨p, hp, htype, hdirection, hvariadic⟩ := exists_left_of_getElem?
    (forall₂_takeWhile (p := fun p : Parameter => !p.isVariadic)
      (forall₂_parameterDecisions hparameters) fun _ _ h => congrArg not h.2.2.symm) hm
  obtain ⟨rule, hrule, hof⟩ := exists_left_of_getElem?
    (Attempt.mapM_eq_ok_iff.1 hrules).flip hp
  have hfixed := List.mem_takeWhile_imp (List.mem_of_getElem? hp)
  rw [Bool.not_eq_true'] at hfixed
  obtain ⟨t, ht, hagree⟩ := agree_of_parameterType hfixed (hdirection ▸ hinput) hof htype
  have hdeclared : c.parameters[i]? = some p := by
    obtain ⟨hi, -⟩ := List.getElem?_eq_some_iff.1 hp
    rw [← List.takeWhile_append_dropWhile (p := fun p : Parameter => !p.isVariadic)
      (l := c.parameters), List.getElem?_append_left hi, hp]
  refine ⟨rule, t, getElem?_rules i hrule, ?_, hagree⟩
  rw [hdeclared, Option.bind_some, ht]

theorem carries_of_bindCallable {m : MemberDecision} (hfiled : ctx.library.IsFiled)
    (hdeclares : ctx.library.Declares owner c) (h : ctx.bindCallable declaration owner c = .ok m)
    (hm : m.suppressed = none) :
    c.name = m.name ∧ c.kind = m.kind ∧
      ∃ d, m.descriptor = some d ∧ m.Carries ctx.table ctx.library.name c d := by
  obtain ⟨sig, hsig, rfl⟩ := signature_of_bindCallable h hm
  have howner : c.kind = .constructor → owner.isSome := by
    intro hkind
    cases owner with
    | some t => rfl
    | none =>
      obtain ⟨n, hn, hc⟩ := hdeclares
      have hfunction := (Callable.ofNode?_eq_some hc).1
      rw [(hfiled.functions n hn).1, hkind] at hfunction
      cases hfunction
  exact ⟨rfl, rfl, carries_of_signature howner hsig⟩

theorem exists_of_mem_callables {floating : FloatingTable} {m : MemberDecision}
    (h : m ∈ (ctx.bindNamespace floating).callables) :
    ∃ declaration owner c, ctx.library.Declares owner c ∧
      ctx.bindCallable declaration owner c = .ok m := by
  rcases List.mem_append.1 h with h | h
  · obtain ⟨d, hd, hm⟩ := List.mem_flatMap.1 h
    obtain ⟨t, ht, skipped, hbind⟩ := mem_types.1 hd
    obtain ⟨_, _, _, callback, -, -, -, hcallback, rfl, -⟩ := bindType_eq_ok_iff.1 hbind
    rcases List.mem_append.1 hm with hm | hm
    · obtain ⟨n, hn, c, hc, hbound⟩ := mem_memberAttempts.1 hm
      exact ⟨_, some t, c, ⟨ht, n, List.mem_cons_of_mem _ hn, hc⟩, hbound⟩
    · obtain rfl : callback = some m := Option.mem_toList.1 hm
      obtain ⟨-, c, hc, hbound⟩ := callbackPart_eq_ok hcallback
      exact ⟨_, some t, c, ⟨ht, t.node, List.mem_cons_self, hc⟩, hbound⟩
  · obtain ⟨n, hn, c, hc, hbound⟩ := mem_functions.1 h
    exact ⟨_, none, c, ⟨n, hn, hc⟩, hbound⟩

end BindingContext

/-- Whatever gets a binding has a native call that agrees with its Java signature, up to the pointers
and the missing values that only the call tells of. -/
theorem carries_of_compileRepositories {o : Options} {rs : List Repository}
    (hrs : ∀ r ∈ rs, r.Derived) {d : NamespaceDecision} (hd : d ∈ (compileRepositories o rs).1)
    {m : MemberDecision} (hm : m ∈ d.callables) (hsuppressed : m.suppressed = none) :
    ∃ r ∈ rs, r.library.name = d.name ∧ ∃ declaration owner c, r.library.Declares owner c ∧
      BindingContext.bindCallable ⟨.build rs o.naming, r.library⟩ declaration owner c = .ok m ∧
      c.name = m.name ∧ c.kind = m.kind ∧ ∃ descriptor, m.descriptor = some descriptor ∧
        m.Carries (.build rs o.naming) r.library.name c descriptor := by
  obtain ⟨ns, hns, rfl⟩ := List.mem_map.1 hd
  obtain ⟨r, hr, rfl⟩ := SymbolTable.exists_of_mem_namespaces hns
  obtain ⟨declaration, owner, c, hdeclares, hbound⟩ :=
    BindingContext.exists_of_mem_callables hm
  exact ⟨r, hr, rfl, declaration, owner, c, hdeclares, hbound,
    BindingContext.carries_of_bindCallable (hrs r hr).isFiled hdeclares hbound hsuppressed⟩

def pointerSource : Source :=
  ⟨"a", .all, "<repository><namespace name='X'><alias name='A'><type name='none'/></alias>
<function name='f'><return-value><type name='A'/></return-value><parameters>
<parameter name='p'><type name='gint' c:type='gint*'/></parameter>
<parameter name='q'><type name='none'/></parameter>
<parameter name='r'><type name='gint'/></parameter></parameters></function></namespace></repository>"⟩

set_option maxRecDepth 2000 in
theorem tokens_pointerSource : Markup.tokens pointerSource.content = .ok [
    ⟨.startTag "repository" [] false, ⟨1, 1⟩⟩,
    ⟨.startTag "namespace" [("name", "X")] false, ⟨1, 13⟩⟩,
    ⟨.startTag "alias" [("name", "A")] false, ⟨1, 33⟩⟩,
    ⟨.startTag "type" [("name", "none")] true, ⟨1, 49⟩⟩, ⟨.endTag "alias", ⟨1, 68⟩⟩,
    ⟨.text "\n", ⟨1, 76⟩⟩, ⟨.startTag "function" [("name", "f")] false, ⟨2, 1⟩⟩,
    ⟨.startTag "return-value" [] false, ⟨2, 20⟩⟩,
    ⟨.startTag "type" [("name", "A")] true, ⟨2, 34⟩⟩, ⟨.endTag "return-value", ⟨2, 50⟩⟩,
    ⟨.startTag "parameters" [] false, ⟨2, 65⟩⟩, ⟨.text "\n", ⟨2, 77⟩⟩,
    ⟨.startTag "parameter" [("name", "p")] false, ⟨3, 1⟩⟩,
    ⟨.startTag "type" [("name", "gint"), ("c:type", "gint*")] true, ⟨3, 21⟩⟩,
    ⟨.endTag "parameter", ⟨3, 55⟩⟩, ⟨.text "\n", ⟨3, 67⟩⟩,
    ⟨.startTag "parameter" [("name", "q")] false, ⟨4, 1⟩⟩,
    ⟨.startTag "type" [("name", "none")] true, ⟨4, 21⟩⟩, ⟨.endTag "parameter", ⟨4, 40⟩⟩,
    ⟨.text "\n", ⟨4, 52⟩⟩, ⟨.startTag "parameter" [("name", "r")] false, ⟨5, 1⟩⟩,
    ⟨.startTag "type" [("name", "gint")] true, ⟨5, 21⟩⟩, ⟨.endTag "parameter", ⟨5, 40⟩⟩,
    ⟨.endTag "parameters", ⟨5, 52⟩⟩, ⟨.endTag "function", ⟨5, 65⟩⟩,
    ⟨.endTag "namespace", ⟨5, 76⟩⟩, ⟨.endTag "repository", ⟨5, 88⟩⟩, ⟨.endOfInput, ⟨5, 101⟩⟩] :=
  (Markup.tokens_ofList _).trans (Attempt.toOption_eq_some_iff.1 (by decide +kernel))

theorem bound_pointerSource : ∃ r, pointerSource.repository = .ok r ∧
    ∃ d ∈ (compileRepositories .default [r]).1, ∃ m ∈ d.callables, m.suppressed = none ∧
      m.descriptor = some ⟨.void, [.pointer, .pointer, .scalar .int], false⟩ ∧
      m.returnType = "org.gnome.x.A" ∧
      m.fixed.map (fun p => (p.direction, p.javaType)) =
        [(.input, "int"), (.input, "void"), (.input, "int")] := by
  rw [Source.repository, Source.root, tokens_pointerSource]
  exact ⟨_, rfl, by decide +kernel⟩

theorem carries_of_pointerSource : ∃ r, pointerSource.repository = .ok r ∧
    ∃ d ∈ (compileRepositories .default [r]).1, ∃ m ∈ d.callables, m.suppressed = none ∧
      ∃ declaration owner c, r.library.Declares owner c ∧
        BindingContext.bindCallable ⟨.build [r] Options.default.naming, r.library⟩ declaration
          owner c = .ok m ∧
        m.Carries (.build [r] Options.default.naming) r.library.name c
          ⟨.void, [.pointer, .pointer, .scalar .int], false⟩ := by
  obtain ⟨r, hr, d, hd, m, hm, hsuppressed, hdescriptor, -⟩ := bound_pointerSource
  obtain ⟨s, hs, hname, declaration, owner, c, hdeclares, hbound, -, -, descriptor, hm',
    hcarries⟩ :=
    carries_of_compileRepositories (List.forall_mem_singleton.2 (.read hr)) hd hm hsuppressed
  obtain rfl := List.mem_singleton.1 hs
  cases hm'.symm.trans hdescriptor
  exact ⟨s, hr, d, hd, m, hm, hsuppressed, declaration, owner, c, hdeclares, hbound, hcarries⟩

/-- The Java signature of a pointer is that of what it points to, and nothing has a Java type as
well. -/
theorem not_agree_of_pointerSource : ∃ r, pointerSource.repository = .ok r ∧
    ∃ d ∈ (compileRepositories .default [r]).1, ∃ m ∈ d.callables, m.suppressed = none ∧
      ∃ descriptor, m.descriptor = some descriptor ∧
        ¬ SymbolTable.Agree (.build [r] Options.default.naming) descriptor.returnRule
          m.returnType ∧
        ∀ i < 2, ∃ rule p, descriptor.parameters[i]? = some rule ∧ m.fixed[i]? = some p ∧
          p.direction = .input ∧
          ¬ SymbolTable.Agree (.build [r] Options.default.naming) rule p.javaType := by
  obtain ⟨r, hr, d, hd, m, hm, hsuppressed, hdescriptor, hresult, hfixed⟩ := bound_pointerSource
  obtain ⟨p, ps, hps, hp, hrest⟩ := List.map_eq_cons_iff.1 hfixed
  obtain ⟨q, qs, rfl, hq, -⟩ := List.map_eq_cons_iff.1 hrest
  obtain ⟨hpdirection, hpjava⟩ := Prod.mk.inj hp
  obtain ⟨hqdirection, hqjava⟩ := Prod.mk.inj hq
  refine ⟨r, hr, d, hd, m, hm, hsuppressed, _, hdescriptor, ?_, ?_⟩
  · rw [hresult]
    intro h
    exact absurd (h.void.1 rfl) (by decide)
  · intro i hi
    match i with
    | 0 =>
      refine ⟨.pointer, p, rfl, by rw [hps, List.getElem?_cons_zero], hpdirection, ?_⟩
      rw [hpjava]
      exact fun h => h.address (.inl rfl) (by decide)
    | 1 =>
      refine ⟨.pointer, q, rfl, by rw [hps, List.getElem?_cons_succ, List.getElem?_cons_zero],
        hqdirection, ?_⟩
      rw [hqjava]
      exact fun h => h.address (.inl rfl) (by decide)

end GirBind
