import GirBind.Proofs.Decided

namespace GirBind.BindingContext

/-- The primitive type that the type of a constant leads to, through any aliases. -/
def constantType? (ctx : BindingContext) (n : Node) : Option Primitive :=
  (TypeRef.ofParent? n).bind fun t =>
    ((ctx.table.resolveRef ctx.library.name n.name t).bind
      (ctx.table.underlying n.name)).toOption.bind ResolvedType.primitive?

def constantText (n : Node) : String := (n.attr? "value").getD ""

variable {ctx : BindingContext} {n : Node} {p : Primitive}

theorem exists_of_constantType? (h : ctx.constantType? n = some p) :
    ∃ t resolved, TypeRef.ofParent? n = some t ∧
      ctx.table.resolveRef ctx.library.name n.name t = .ok resolved ∧
      ctx.table.underlying n.name resolved = .ok (.primitive p) := by
  obtain ⟨t, ht, h⟩ := Option.bind_eq_some_iff.1 h
  obtain ⟨underlying, hunderlying, h⟩ := Option.bind_eq_some_iff.1 h
  obtain ⟨resolved, hresolved, hunderlying⟩ :=
    Attempt.bind_eq_ok_iff.1 (Attempt.toOption_eq_some_iff.1 hunderlying)
  refine ⟨t, resolved, ht, hresolved, ?_⟩
  rw [hunderlying]
  cases underlying with
  | primitive q => exact congrArg _ (congrArg _ (Option.some.inj h))
  | registered e => cases h

theorem bindConstant_eq (h : ctx.constantType? n = some p) :
    ctx.bindConstant n =
      match Java.literal? p (constantText n) with
      | none => .error (.unsupported ctx.library.name n.name
          s!"value '{constantText n}' is not a valid {p.javaType} literal")
      | some value => .ok {
          name := n.name
          visibleName := Java.constantName n.name
          javaType := p.javaType
          value
          platforms := n.platforms
          doc := ctx.doc.nodeComment n } := by
  obtain ⟨t, resolved, ht, hresolved, hunderlying⟩ := exists_of_constantType? h
  rw [bindConstant, ht]
  dsimp only
  rw [hresolved]
  change (ctx.table.underlying n.name resolved >>= _) = _
  rw [hunderlying]
  rfl

end GirBind.BindingContext
