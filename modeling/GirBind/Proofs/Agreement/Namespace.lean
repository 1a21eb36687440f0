import GirBind.Proofs.Agreement.Decision
import GirBind.Proofs.Decided

namespace GirBind

open Attempt (Persists)

namespace BindingContext

variable {f : Doc.Converted → Doc.Converted} {table table' : SymbolTable} {ns : Namespace}
  {floating floating' : FloatingTable}

theorem fieldDecisions_agrees (h : table.Agrees False table') (hk : table.Knows ns.name)
    (t : RegisteredType) : fieldDecisions ⟨table, ns⟩ t = fieldDecisions ⟨table', ns⟩ t := by
  have htype (declaration : String) (field : Node) :
      fieldType ⟨table, ns⟩ declaration field = fieldType ⟨table', ns⟩ declaration field :=
    (fieldType_agrees h hk field).eq
  simp only [fieldDecisions, htype]

theorem enumerationDecision_agrees
    (hd : Doc.Context.Agrees f ⟨table, ns.name⟩ ⟨table', ns.name⟩) (t : RegisteredType) :
    (enumerationDecision ⟨table, ns⟩ t).mapDocs f =
      (enumerationDecision ⟨table', ns⟩ t).mapDocs f := by
  have hdoc := hd.nodeComment
  simp only [enumerationDecision, EnumerationDecision.mapDocs, List.map_map, Function.comp_def,
    enumMemberDecision, EnumMemberDecision.mapDoc, doc, hdoc]

theorem memberAttempts_agrees (h : table.Agrees False table') (hk : table.Knows ns.name)
    (hd : Doc.Context.Agrees f ⟨table, ns.name⟩ ⟨table', ns.name⟩) (t : RegisteredType) :
    (memberAttempts ⟨table, ns⟩ t).map (Except.map (·.mapDoc f)) =
      (memberAttempts ⟨table', ns⟩ t).map (Except.map (·.mapDoc f)) := by
  rw [memberAttempts, memberAttempts, List.map_map, List.map_map]
  refine List.map_congr_left fun c _ => ?_
  simp only [Function.comp_apply, map_mapError]
  rw [(bindCallable_agrees h hk hd (some t) c).map_eq]

theorem BoundAlike.eq (h : table.Agrees False table') (hk : table.Knows ns.name)
    (hd : Doc.Context.Agrees f ⟨table, ns.name⟩ ⟨table', ns.name⟩)
    (hfloating : ∀ name, floating.get? ns.name name = floating'.get? ns.name name)
    {t : RegisteredType} {x y : TypeDecision × List SkippedDeclaration}
    (hxy : BoundAlike f table table' ns floating floating' t x y) :
    (x.1.mapDocs f, x.2) = (y.1.mapDocs f, y.2) := by
  cases hxy with
  | intro parent implements aliasType hcallback =>
    obtain ⟨hmembers, hskipped⟩ := decided_refused_congr (memberAttempts_agrees h hk hd t)
    have hrecord : recordDecision ⟨table, ns⟩ t = recordDecision ⟨table', ns⟩ t := by
      rw [recordDecision, recordDecision, fieldDecisions_agrees h hk]
    have henumeration := enumerationDecision_agrees hd t
    have hdoc := hd.typeComment t
    refine Prod.ext ?_ hskipped
    simp only [typeDecision, TypeDecision.mapDocs, doc, h.qualifiedJavaName, hfloating, hrecord,
      hcallback, hmembers, hdoc, apply_ite (Option.map _), Option.map_some, Option.map_none,
      henumeration]

/-- In two settings that agree, the decisions about a namespace are the same up to comments. -/
theorem bindNamespace_agrees (h : table.Agrees False table') (hk : table.Knows ns.name)
    (hd : Doc.Context.Agrees f ⟨table, ns.name⟩ ⟨table', ns.name⟩)
    (hfloating : ∀ name, floating.get? ns.name name = floating'.get? ns.name name) :
    (bindNamespace ⟨table, ns⟩ floating).mapDocs f =
      (bindNamespace ⟨table', ns⟩ floating').mapDocs f := by
  refine bindNamespace_congr (g := Option.map f) rfl h.naming ?_ ?_ ?_
  · rw [typeAttempts, typeAttempts, List.map_map, List.map_map]
    refine List.map_congr_left fun t _ => ?_
    simp only [Function.comp_apply, map_mapError]
    refine congrArg (Except.mapError _) (Persists.map_eq ?_)
    exact (bindType_agrees h hk hd floating floating' t).mono fun x y hxy =>
      hxy.eq h hk hd hfloating
  · rw [functionAttempts, functionAttempts, List.map_map, List.map_map]
    refine List.map_congr_left fun c _ => ?_
    simp only [Function.comp_apply, map_mapError]
    exact congrArg (Except.mapError _) (bindCallable_agrees h hk hd none c).map_eq
  · rw [constantAttempts, constantAttempts, List.map_map, List.map_map]
    refine List.map_congr_left fun n _ => ?_
    simp only [Function.comp_apply, map_mapError]
    exact congrArg (Except.mapError _) (bindConstant_agrees h hk hd n).map_eq

end BindingContext
end GirBind
