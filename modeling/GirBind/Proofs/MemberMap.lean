import GirBind.Proofs.Gathering.Image
import GirBind.Proofs.LibraryMerge

namespace GirBind

namespace Node

/-- A change of members that no merge of their parents depends on. -/
structure KeepsMembers (φ : Node → Node) : Prop where
  shape : ∀ n, sameShape (φ n) n = true
  platforms : ∀ n, (φ n).platforms = n.platforms
  withOwnPlatforms : ∀ n p, (φ n).withOwnPlatforms p = φ (n.withOwnPlatforms p)

theorem keepsMembers_id : KeepsMembers id := ⟨sameShape_refl, fun _ => rfl, fun _ _ => rfl⟩

/-- A change of members that no merge of their parents depends on, given the variant of these. The
shapes of fields only count in records. -/
structure MergesAlike (v : Variant) (φ : Node → Node) : Prop where
  kind : ∀ n, (φ n).kind = n.kind
  same : ∀ m n, sameMember (φ m) (φ n) = sameMember m n
  fields : v = .record → ∀ {m n : Node}, m.kind = .field → n.kind = .field →
    sameShape (φ m) (φ n) = sameShape m n
  platforms : ∀ n, (φ n).platforms = n.platforms
  withOwnPlatforms : ∀ n p, (φ n).withOwnPlatforms p = φ (n.withOwnPlatforms p)

def mapMembers (φ : Node → Node) (n : Node) : Node :=
  { n with children := n.children.map φ, line := 0 }

theorem mapMembers_mapMembers (φ ψ : Node → Node) (n : Node) :
    (n.mapMembers φ).mapMembers ψ = n.mapMembers (ψ ∘ φ) := by
  simp only [mapMembers, List.map_map]

variable {φ : Node → Node}

namespace KeepsMembers

theorem kind (h : KeepsMembers φ) (n : Node) : (φ n).kind = n.kind :=
  (sameShape_iff.1 (h.shape n)).1

theorem name? (h : KeepsMembers φ) (n : Node) : (φ n).name? = n.name? :=
  sameShape_attr? (h.shape n) "name"

theorem mergesAlike (h : KeepsMembers φ) (v : Variant) : MergesAlike v φ where
  kind := h.kind
  same := sameMember_map h.shape
  fields _ _ _ _ _ := sameShape_map h.shape _ _
  platforms := h.platforms
  withOwnPlatforms := h.withOwnPlatforms

end KeepsMembers

namespace MergesAlike

variable {v : Variant}

theorem commutes (h : MergesAlike v φ) : gathering.Commutes φ where
  same := h.same
  join m n := by
    change some _ = some _
    rw [h.platforms, h.platforms, h.withOwnPlatforms]

theorem unite (h : MergesAlike v φ) (ms ns : List Node) :
    unite (ms.map φ) (ns.map φ) = (Node.unite ms ns).map φ := by
  have hadd := h.commutes.addAll ms ns
  rw [addAll_eq_unite, addAll_eq_unite, Option.map_some] at hadd
  exact Option.some.inj hadd

theorem filter (h : MergesAlike v φ) (q : NodeKind → Bool) (ns : List Node) :
    (ns.map φ).filter (fun n => q n.kind) = (ns.filter fun n => q n.kind).map φ := by
  rw [List.filter_map]
  simp only [Function.comp_def, h.kind]

theorem sameFields (h : MergesAlike .record φ) (a b : Node) :
    sameFields (a.mapMembers φ) (b.mapMembers φ) = Node.sameFields a b := by
  have hchildren (n : Node) :
      (n.mapMembers φ).childrenOf .field = (n.childrenOf .field).map φ :=
    h.filter (· == .field) n.children
  have hkind {n m : Node} (hm : m ∈ n.childrenOf .field) : m.kind = .field :=
    beq_iff_eq.1 (List.mem_filter.1 hm).2
  rw [Node.sameFields, hchildren, hchildren]
  exact sameShapes_map fun m hm n hn => h.fields rfl (hkind hm) (hkind hn)

theorem merge (h : MergesAlike v φ) (a b : Node) :
    (a.mapMembers φ).merge (b.mapMembers φ) = (a.merge b).mapMembers φ := by
  rw [Node.merge, mapMembers, mapMembers, h.unite]
  rfl

theorem withoutFields (h : MergesAlike v φ) (n : Node) :
    (n.mapMembers φ).withoutFields = n.withoutFields.mapMembers φ := by
  simp only [Node.withoutFields, mapMembers, h.filter (· != .field)]

theorem mergeAs (h : MergesAlike v φ) (a b : Node) :
    (a.mapMembers φ).mergeAs v (b.mapMembers φ) = (a.mergeAs v b).mapMembers φ := by
  rw [Node.mergeAs, Node.mergeAs]
  split
  case isTrue hv =>
    subst hv
    rw [mergeRecord, mergeRecord, h.sameFields, h.merge, h.withoutFields]
    split
    case isTrue => rfl
    case isFalse => rfl
  case isFalse => exact h.merge a b

end MergesAlike
end Node

namespace RegisteredType

def mapMembers (φ : Node → Node) (t : RegisteredType) : RegisteredType :=
  { t with node := t.node.mapMembers φ }

theorem mapMembers_mapMembers (φ ψ : Node → Node) (t : RegisteredType) :
    (t.mapMembers φ).mapMembers ψ = t.mapMembers (ψ ∘ φ) :=
  congrArg (RegisteredType.mk t.variant) (t.node.mapMembers_mapMembers φ ψ)

end RegisteredType

/-- Changes of the members of types, for each variant, and of the lists of other declarations, that
no merge depends on. -/
structure MergeMap where
  members : Variant → Node → Node
  bound : List Node → List Node
  other : List Node → List Node
  members_alike : ∀ v, Node.MergesAlike v (members v)
  unite_bound : ∀ l m, Node.unite (bound l) (bound m) = bound (Node.unite l m)
  unite_other : ∀ l m, Node.unite (other l) (other m) = other (Node.unite l m)

def Node.KeepsMembers.mergeMap {φ : Node → Node} (h : Node.KeepsMembers φ) : MergeMap where
  members _ := φ
  bound := List.map φ
  other := List.map φ
  members_alike := h.mergesAlike
  unite_bound := (h.mergesAlike .classType).unite
  unite_other := (h.mergesAlike .classType).unite

namespace MergeMap

variable (f : MergeMap)

def type (t : RegisteredType) : RegisteredType := t.mapMembers (f.members t.variant)

def library (ns : Namespace) : Namespace :=
  { ns with
    types := ns.types.map f.type
    functions := f.bound ns.functions
    constants := f.bound ns.constants
    other := f.other ns.other }

def repository (r : Repository) : Repository := { r with library := f.library r.library }

theorem merge_type (a b : RegisteredType) :
    ((f.type a).merge (f.type b)).toOption = (a.merge b).toOption.map f.type := by
  rw [RegisteredType.merge_toOption, RegisteredType.merge_toOption]
  change (if a.variant = b.variant then _ else _) = _
  by_cases hv : a.variant = b.variant
  · rw [if_pos hv, if_pos hv, Option.map_some, type, type, ← hv]
    exact congrArg (some ∘ RegisteredType.mk a.variant)
      ((f.members_alike a.variant).mergeAs a.node b.node)
  · rw [if_neg hv, if_neg hv, Option.map_none]

theorem type_commutes : RegisteredType.gathering.Commutes fun e => (e.1, f.type e.2) where
  same _ _ := rfl
  join e e' := by
    change Option.map _ _ = Option.map _ (Option.map _ _)
    rw [f.merge_type, Option.map_map, Option.map_map]
    rfl

theorem mergeTypes_map (a b : OrderedMap RegisteredType) :
    (Namespace.mergeTypes (a.map f.type) (b.map f.type)).toOption =
      (Namespace.mergeTypes a b).toOption.map (·.map f.type) := by
  refine Option.map_injective (fun _ _ => OrderedMap.ext_entries) ?_
  refine (Namespace.mergeTypes_entries _ _).trans
    ((f.type_commutes.addAll a.entries b.entries).trans ?_)
  rw [← Namespace.mergeTypes_entries, Option.map_map, Option.map_map]
  rfl

theorem merge_library (a b : Namespace) :
    ((f.library a).merge (f.library b)).toOption = (a.merge b).toOption.map f.library := by
  rw [Namespace.merge_toOption, Namespace.merge_toOption]
  change (if a.name = b.name then _ else _) = _
  by_cases hname : a.name = b.name
  · rw [if_pos hname, if_pos hname, Option.map_map]
    refine (congrArg (Option.map _) (f.mergeTypes_map a.types b.types)).trans ?_
    rw [Option.map_map]
    refine congrFun (congrArg Option.map (funext fun types => ?_)) _
    simp only [Function.comp_apply, Namespace.mergeWith, library, f.unite_bound, f.unite_other]
  · rw [if_neg hname, if_neg hname, Option.map_none]

theorem repository_commutes : Repository.gathering.Commutes f.repository where
  same _ _ := rfl
  join r s := by
    change Except.toOption _ = Option.map _ (Except.toOption _)
    rw [Repository.merge_toOption, Repository.merge_toOption, Option.map_map]
    refine (congrArg (Option.map _) (f.merge_library r.library s.library)).trans ?_
    rw [Option.map_map]
    rfl

/-- What happens to declarations apart from a merge may as well happen before it. -/
theorem mergeAll_map (rs : List Repository) :
    (Repository.mergeAll (rs.map f.repository)).toOption =
      (Repository.mergeAll rs).toOption.map (List.map f.repository) := by
  rw [Repository.mergeAll_toOption, Repository.mergeAll_toOption]
  exact f.repository_commutes.addAll [] rs

end MergeMap

namespace Namespace

def mapMembers (φ : Node → Node) (ns : Namespace) : Namespace :=
  { ns with
    types := ns.types.map (·.mapMembers φ)
    functions := ns.functions.map φ
    constants := ns.constants.map φ
    other := ns.other.map φ }

theorem mapMembers_mapMembers (φ ψ : Node → Node) (ns : Namespace) :
    (ns.mapMembers φ).mapMembers ψ = ns.mapMembers (ψ ∘ φ) := by
  simp only [mapMembers, OrderedMap.map_map, Function.comp_def, List.map_map,
    RegisteredType.mapMembers_mapMembers]

end Namespace

namespace Repository

def mapMembers (φ : Node → Node) (r : Repository) : Repository :=
  { r with library := r.library.mapMembers φ }

theorem mergeAll_mapMembers {φ : Node → Node} (h : Node.KeepsMembers φ) (rs : List Repository) :
    (mergeAll (rs.map (mapMembers φ))).toOption =
      (mergeAll rs).toOption.map (List.map (mapMembers φ)) :=
  h.mergeMap.mergeAll_map rs

end Repository
end GirBind
