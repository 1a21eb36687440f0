import GirBind.Proofs.MemberMap
import GirBind.Repository.Patch

namespace GirBind

namespace Patch

def editAll (ps : List Patch) (ns : Namespace) : Namespace := ps.foldl (fun ns p => p.edit ns) ns

/-- An edit is confined to the types, functions and constants. -/
theorem edit_eq (p : Patch) (ns : Namespace) :
    ∃ types functions constants, p.edit ns = { ns with types, functions, constants } := by
  unfold edit
  split
  case isTrue =>
    cases p with
    | _ => exact ⟨_, _, _, rfl⟩
  case isFalse => exact ⟨_, _, _, rfl⟩

theorem name_edit (p : Patch) (ns : Namespace) : (p.edit ns).name = ns.name := by
  obtain ⟨types, functions, constants, h⟩ := p.edit_eq ns
  rw [h]

theorem name_editAll (ps : List Patch) (ns : Namespace) : (editAll ps ns).name = ns.name := by
  induction ps generalizing ns with
  | nil => rfl
  | cons p ps ih => exact (ih (p.edit ns)).trans (p.name_edit ns)

theorem applyEach_eq (p : Patch) (rs : List Repository) : p.applyEach rs =
    (rs.map fun r => { r with library := p.edit r.library },
      rs.countP fun r => p.isEffective r.library) := by
  induction rs with
  | nil => rfl
  | cons r rs ih =>
    rw [applyEach, ih, List.countP_cons]
    change (_, if p.isEffective r.library = true then _ else _) = _
    split
    case isTrue => rfl
    case isFalse => rfl

/-- Every description is edited apart from the others. -/
theorem applyAll_fst (ps : List Patch) (rs : List Repository) :
    (applyAll ps rs).1 = rs.map fun r => { r with library := editAll ps r.library } := by
  induction ps generalizing rs with
  | nil => exact (List.map_id rs).symm
  | cons p ps ih =>
    rw [applyAll, applyEach_eq]
    change (applyAll ps _).1 = _
    rw [ih, List.map_map]
    rfl

theorem names_applyAll (ps : List Patch) (rs : List Repository) :
    (applyAll ps rs).1.map (·.library.name) = rs.map (·.library.name) := by
  rw [applyAll_fst, List.map_map]
  exact List.map_congr_left fun r _ => name_editAll ps r.library

end Patch

/-- A change of members that leaves what an edit finds them by, and that does not matter to an
edit of them. -/
structure Node.Unedited (φ : Node → Node) : Prop where
  kind : ∀ n, (φ n).kind = n.kind
  attributes : ∀ n, (φ n).attributes = n.attributes
  withAttributes : ∀ (n : Node) (a : OrderedMap String),
    φ { n with attributes := a } = { φ n with attributes := a }

namespace Patch

variable {φ : Node → Node} (h : Node.Unedited φ)

include h

theorem name?_unedited (n : Node) : (φ n).name? = n.name? := by
  rw [Node.name?, Node.attr?, h.attributes]
  rfl

theorem isMethod_unedited (name : String) (n : Node) : isMethod name (φ n) = isMethod name n := by
  rw [isMethod, h.kind, name?_unedited h]
  rfl

theorem renameFirst_map (old new : String) (ns : List Node) :
    renameFirst old new (ns.map φ) = (renameFirst old new ns).map φ := by
  induction ns with
  | nil => rfl
  | cons n ns ih =>
    rw [List.map_cons, renameFirst, renameFirst, isMethod_unedited h]
    split
    case isTrue => rw [List.map_cons, h.withAttributes, h.attributes]
    case isFalse => rw [List.map_cons, ih]

omit h in
theorem filter_map_unedited {q : Node → Bool} (hq : ∀ n : Node, q (φ n) = q n) (ns : List Node) :
    (ns.map φ).filter q = (ns.filter q).map φ := by
  rw [List.filter_map]
  exact congrArg (fun q => (ns.filter q).map φ) (funext hq)

omit h in
theorem editMembers_mapMembers (ns : Namespace) (type : String) {edit : List Node → List Node}
    (h : ∀ l : List Node, edit (l.map φ) = (edit l).map φ) :
    editMembers (ns.mapMembers φ) type edit = (editMembers ns type edit).mapMembers φ := by
  have htypes : (ns.types.map (·.mapMembers φ)).modify type (fun t =>
        { t with node := { t.node with children := edit t.node.children } }) =
      (ns.types.modify type fun t =>
        { t with node := { t.node with children := edit t.node.children } }).map
          (·.mapMembers φ) := by
    refine OrderedMap.modify_map ns.types type fun t => ?_
    simp only [RegisteredType.mapMembers, Node.mapMembers, h]
  exact congrArg (fun types => { ns.mapMembers φ with types }) htypes

theorem edit_mapMembers (p : Patch) (ns : Namespace) :
    p.edit (ns.mapMembers φ) = (p.edit ns).mapMembers φ := by
  have hnamed (name : String) (l : List Node) :
      (l.map φ).filter (·.name? != some name) = (l.filter (·.name? != some name)).map φ :=
    filter_map_unedited (fun n => by rw [name?_unedited h]) l
  unfold edit
  change (if ns.name = p.library then _ else ns.mapMembers φ) = _
  by_cases hname : ns.name = p.library
  · rw [if_pos hname, if_pos hname]
    cases p with
    | removeType library name =>
      exact congrArg (fun types => { ns.mapMembers φ with types })
        (OrderedMap.erase_map ns.types (·.mapMembers φ) name)
    | removeFunction library name =>
      exact congrArg (fun functions => { ns.mapMembers φ with functions })
        (hnamed name ns.functions)
    | removeMethod library type name =>
      exact editMembers_mapMembers ns type
        (filter_map_unedited fun n => by rw [isMethod_unedited h])
    | renameMethod library type old new =>
      exact editMembers_mapMembers ns type (renameFirst_map h old new)
    | removeConstant library name =>
      exact congrArg (fun constants => { ns.mapMembers φ with constants })
        (hnamed name ns.constants)
  · rw [if_neg hname, if_neg hname]

theorem editAll_mapMembers (ps : List Patch) (ns : Namespace) :
    editAll ps (ns.mapMembers φ) = (editAll ps ns).mapMembers φ := by
  induction ps generalizing ns with
  | nil => rfl
  | cons p ps ih =>
    rw [editAll, List.foldl_cons, edit_mapMembers h]
    exact ih (p.edit ns)

end Patch
end GirBind
