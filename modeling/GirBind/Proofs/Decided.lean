import GirBind.Binding.Namespace
import GirBind.Proofs.Attempt

namespace GirBind

theorem mem_decided {ε : Type u} {α : Type v} {l : List (Except ε α)} {a : α} :
    a ∈ decided l ↔ .ok a ∈ l := by
  rw [decided, List.mem_filterMap]
  constructor
  · rintro ⟨x, hx, ha⟩
    cases x with
    | error e => cases ha
    | ok b =>
      cases ha
      exact hx
  · intro h
    exact ⟨_, h, rfl⟩

theorem mem_refused {ε : Type u} {α : Type v} {l : List (Except ε α)} {e : ε} :
    e ∈ refused l ↔ .error e ∈ l := by
  rw [refused, List.mem_filterMap]
  constructor
  · rintro ⟨x, hx, he⟩
    cases x with
    | error f =>
      cases he
      exact hx
    | ok a => cases he
  · intro h
    exact ⟨_, h, rfl⟩

theorem mapError_eq_ok_iff {ε ε' : Type u} {α : Type v} {f : ε → ε'} {x : Except ε α} {a : α} :
    x.mapError f = .ok a ↔ x = .ok a := by
  cases x with
  | error e => simp only [Except.mapError, reduceCtorEq]
  | ok b => simp only [Except.mapError, Except.ok.injEq]

section

variable {ε : Type u} {α β : Type v} {g : α → β}

theorem decided_map (l : List (Except ε α)) :
    decided (l.map (Except.map g)) = (decided l).map g := by
  rw [decided, decided, List.filterMap_map, List.map_filterMap]
  refine congrArg (List.filterMap · l) (funext fun x => ?_)
  cases x with
  | error e => rfl
  | ok a => rfl

theorem refused_map (l : List (Except ε α)) : refused (l.map (Except.map g)) = refused l := by
  rw [refused, refused, List.filterMap_map]
  refine congrArg (List.filterMap · l) (funext fun x => ?_)
  cases x with
  | error e => rfl
  | ok a => rfl

theorem decided_refused_congr {l m : List (Except ε α)}
    (h : l.map (Except.map g) = m.map (Except.map g)) :
    (decided l).map g = (decided m).map g ∧ refused l = refused m := by
  rw [← decided_map, ← decided_map, ← refused_map (g := g) l, ← refused_map (g := g) m, h]
  exact ⟨rfl, rfl⟩

theorem map_mapError {ε' : Type u} (e : ε → ε') (x : Except ε α) :
    (x.mapError e).map g = (x.map g).mapError e := by
  cases x with
  | error _ => rfl
  | ok _ => rfl

end

theorem Callable.ofNode?_eq_some {n : Node} {c : Callable} (h : ofNode? n = some c) :
    CallableKind.ofKind? n.kind = some c.kind ∧ c.name = n.name ∧ c.platforms = n.platforms := by
  obtain ⟨kind, hkind, rfl⟩ := Option.map_eq_some_iff.1 h
  exact ⟨hkind, rfl, rfl⟩

namespace BindingContext

variable {ctx : BindingContext} {floating : FloatingTable} {t : RegisteredType}

/-- A type gets a binding if its super types resolve, and what it stands for if it is an alias, and
its signature if it is a callback type. -/
theorem bindType_eq_ok_iff {decision : TypeDecision} {skipped : List SkippedDeclaration} :
    ctx.bindType floating t = .ok (decision, skipped) ↔
      ∃ parent implements aliasType callback,
        t.parent?.mapM (ctx.superType t.name) = .ok parent ∧
        (t.implements ++ t.prerequisites).mapM (ctx.superType t.name) = .ok implements ∧
        ctx.aliasPart t = .ok aliasType ∧ ctx.callbackPart t = .ok callback ∧
        ctx.typeDecision floating t parent implements aliasType callback = decision ∧
        refused (ctx.memberAttempts t) = skipped := by
  simp only [bindType, Attempt.bind_eq_ok_iff, pure, Except.pure, Except.ok.injEq, Prod.mk.injEq]
  constructor
  · rintro ⟨parent, hp, implements, hi, aliasType, ha, callback, hc, hd, hs⟩
    exact ⟨parent, implements, aliasType, callback, hp, hi, ha, hc, hd, hs⟩
  · rintro ⟨parent, implements, aliasType, callback, hp, hi, ha, hc, hd, hs⟩
    exact ⟨parent, hp, implements, hi, aliasType, ha, callback, hc, hd, hs⟩

theorem callbackPart_eq_ok {m : MemberDecision}
    (h : ctx.callbackPart t = .ok (some m)) :
    t.variant = .callback ∧ ∃ c, Callable.ofNode? t.node = some c ∧
      ctx.bindCallable c.name (some t) c = .ok m := by
  rw [callbackPart] at h
  split at h
  case isTrue hv =>
    split at h
    case h_1 c hc =>
      obtain ⟨m', hm, he⟩ := Attempt.map_eq_ok_iff.1 h
      cases he
      exact ⟨hv, c, hc, hm⟩
    case h_2 => cases h
  case isFalse => cases h

theorem bindCallable_eq_ok_iff {declaration : String} {owner : Option RegisteredType}
    {c : Callable} {d : MemberDecision} :
    ctx.bindCallable declaration owner c = .ok d ↔
      ∃ sig, ctx.boundSignature declaration owner c = .ok sig ∧
        ctx.memberDecision owner c sig = d :=
  Attempt.map_eq_ok_iff

theorem signature_of_bindCallable {declaration : String} {owner : Option RegisteredType}
    {c : Callable} {d : MemberDecision} (h : ctx.bindCallable declaration owner c = .ok d)
    (hd : d.suppressed = none) :
    ∃ sig, ctx.signature declaration owner c = .ok sig ∧ ctx.memberDecision owner c sig = d := by
  obtain ⟨sig, hsig, rfl⟩ := bindCallable_eq_ok_iff.1 h
  have hsuppressed : suppression? owner c = none := hd
  rw [boundSignature, hsuppressed, Option.isSome_none, if_neg Bool.false_ne_true] at hsig
  exact ⟨sig, hsig, rfl⟩

theorem parts_of_signature {declaration : String} {owner : Option RegisteredType}
    {c : Callable} {sig : Signature} (h : ctx.signature declaration owner c = .ok sig) :
    ∃ descriptor, ctx.table.descriptor ctx.library.name declaration c = .ok descriptor ∧
      ctx.returnType declaration owner c = .ok sig.returnType ∧
      ctx.parameterDecisions declaration c.parameters = .ok sig.parameters ∧
      sig.descriptor = some descriptor := by
  obtain ⟨descriptor, hdescriptor, h⟩ := Attempt.bind_eq_ok_iff.1 h
  obtain ⟨java, hjava, h⟩ := Attempt.bind_eq_ok_iff.1 h
  obtain ⟨parameters, hparameters, h⟩ := Attempt.bind_eq_ok_iff.1 h
  obtain rfl := Except.ok.inj h
  exact ⟨descriptor, hdescriptor, hjava, hparameters, rfl⟩

theorem exists_of_bindConstant {n : Node} {d : ConstantDecision} (h : ctx.bindConstant n = .ok d) :
    ∃ javaType value, d = {
      name := n.name, visibleName := Java.constantName n.name, javaType, value,
      platforms := n.platforms, doc := ctx.doc.nodeComment n } := by
  rw [bindConstant] at h
  split at h
  case h_1 => cases h
  case h_2 =>
    obtain ⟨resolved, -, h⟩ := Attempt.bind_eq_ok_iff.1 h
    obtain ⟨underlying, -, h⟩ := Attempt.bind_eq_ok_iff.1 h
    split at h
    case h_1 => cases h
    case h_2 =>
      dsimp only at h
      split at h
      case h_1 => cases h
      case h_2 => exact ⟨_, _, (Except.ok.inj h).symm⟩

theorem bindConstant_eq_ok {n : Node} {d : ConstantDecision} (h : ctx.bindConstant n = .ok d) :
    d.name = n.name ∧ d.platforms = n.platforms := by
  obtain ⟨javaType, value, rfl⟩ := exists_of_bindConstant h
  exact ⟨rfl, rfl⟩

theorem mem_memberAttempts {d : MemberDecision} :
    d ∈ decided (ctx.memberAttempts t) ↔ ∃ n ∈ t.node.children, ∃ c,
      Callable.ofNode? n = some c ∧
        ctx.bindCallable s!"{t.name}.{c.name}" (some t) c = .ok d := by
  rw [mem_decided, memberAttempts, List.mem_map]
  constructor
  · rintro ⟨c, hc, hd⟩
    obtain ⟨n, hn, hcn⟩ := List.mem_filterMap.1 hc
    exact ⟨n, hn, c, hcn, mapError_eq_ok_iff.1 hd⟩
  · rintro ⟨n, hn, c, hcn, hd⟩
    exact ⟨c, List.mem_filterMap.2 ⟨n, hn, hcn⟩, mapError_eq_ok_iff.2 hd⟩

theorem mem_types {d : TypeDecision} :
    d ∈ (ctx.bindNamespace floating).types ↔
      ∃ t ∈ ctx.library.types.values, ∃ skipped, ctx.bindType floating t = .ok (d, skipped) := by
  change d ∈ (decided (ctx.typeAttempts floating)).map Prod.fst ↔ _
  rw [List.mem_map]
  constructor
  · rintro ⟨⟨d', skipped⟩, hd, rfl⟩
    obtain ⟨t, ht, htd⟩ := List.mem_map.1 (mem_decided.1 hd)
    exact ⟨t, ht, skipped, mapError_eq_ok_iff.1 htd⟩
  · rintro ⟨t, ht, skipped, htd⟩
    exact ⟨(d, skipped), mem_decided.2 (List.mem_map.2 ⟨t, ht, mapError_eq_ok_iff.2 htd⟩), rfl⟩

theorem mem_functions {d : MemberDecision} :
    d ∈ (ctx.bindNamespace floating).functions ↔ ∃ n ∈ ctx.library.functions, ∃ c,
      Callable.ofNode? n = some c ∧ ctx.bindCallable c.name none c = .ok d := by
  change d ∈ decided ctx.functionAttempts ↔ _
  rw [mem_decided, functionAttempts, List.mem_map]
  constructor
  · rintro ⟨c, hc, hd⟩
    obtain ⟨n, hn, hcn⟩ := List.mem_filterMap.1 hc
    exact ⟨n, hn, c, hcn, mapError_eq_ok_iff.1 hd⟩
  · rintro ⟨n, hn, c, hcn, hd⟩
    exact ⟨c, List.mem_filterMap.2 ⟨n, hn, hcn⟩, mapError_eq_ok_iff.2 hd⟩

theorem mem_constants {d : ConstantDecision} :
    d ∈ (ctx.bindNamespace floating).constants ↔
      ∃ n ∈ ctx.library.constants, ctx.bindConstant n = .ok d := by
  change d ∈ decided ctx.constantAttempts ↔ _
  rw [mem_decided, constantAttempts, List.mem_map]
  exact exists_congr fun n => and_congr_right fun _ => mapError_eq_ok_iff

theorem mem_skipped_of_bindConstant {n : Node} {o : Obstacle} (hn : n ∈ ctx.library.constants)
    (h : ctx.bindConstant n = .error o) :
    .of n.name o ∈ (ctx.bindNamespace floating).skipped := by
  have hattempt : .error (.of n.name o) ∈ ctx.constantAttempts :=
    List.mem_map.2 ⟨n, hn, by rw [h]; rfl⟩
  exact List.mem_append_right _ (mem_refused.2 hattempt)

end BindingContext
end GirBind
