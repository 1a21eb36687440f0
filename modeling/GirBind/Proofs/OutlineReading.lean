import GirBind.Proofs.MemberReading
import GirBind.Proofs.Outline

namespace GirBind

theorem Node.forgets_bare : Forgets id bare := by
  have hchild (n : Node) (kind : NodeKind) : (n.bare.child? kind).map text =
      (n.child? kind).map text := by
    have hkind : ((·.kind == kind) ∘ bare : Node → Bool) = (·.kind == kind) := by
      funext m
      rw [Function.comp_apply, bare_eq]
    have htext : text ∘ bare = text := by
      funext m
      rw [Function.comp_apply, bare_eq]
    rw [bare_eq, child?, child?, List.find?_map, hkind, Option.map_map, htext]
  exact {
    kind n := by rw [bare_eq]
    attributes n := by rw [bare_eq]
    children n := by rw [bare_eq]
    doc? n := congrArg (Option.filter _) (hchild n .doc)
    docDeprecated? n := congrArg (Option.filter _) (hchild n .docDeprecated) }

theorem Node.hides_outline : Hides id bare outline where
  toForgets := forgets_bare
  member := bare_outline
  owner := bare_mapMembers_outline
  platforms := keepsMembers_outline.platforms

def RegisteredType.outline (t : RegisteredType) : RegisteredType := t.mapMembers Node.outline

def Namespace.outline (ns : Namespace) : Namespace := ns.mapMembers Node.outline

def Repository.outline (r : Repository) : Repository := r.mapMembers Node.outline

/-- The platforms and lines inside a member are not read. -/
theorem BindingContext.bindNamespace_outline (table : SymbolTable) (ns : Namespace)
    (floating : FloatingTable) :
    bindNamespace ⟨table, ns.outline⟩ floating = bindNamespace ⟨table, ns⟩ floating := by
  have h := bindNamespace_mapMembers Node.hides_outline Doc.follows_id table ns floating
  rwa [NamespaceDecision.editDocs_id, NamespaceDecision.editDocs_id] at h

end GirBind
