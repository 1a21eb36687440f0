import Mathlib.Data.List.Basic
import GirBind.Proofs.LibraryMerge

namespace GirBind

namespace RegisteredType

theorem joinAll_eq_some {key : String} {first : RegisteredType} {rest : List RegisteredType}
    {e : String × RegisteredType}
    (h : gathering.joinAll ((key, first) :: rest.map (key, ·)) = some e) :
    (∀ t ∈ rest, t.variant = first.variant) ∧
      e = (key, ⟨first.variant,
        (rest.map node).foldl (Node.mergeAs first.variant) first.node⟩) := by
  induction rest generalizing first with
  | nil =>
    cases h
    exact ⟨fun _ ht => absurd ht List.not_mem_nil, rfl⟩
  | cons t rest ih =>
    obtain ⟨f, hf, hrest⟩ := Option.bind_eq_some_iff.1 h
    obtain ⟨u, hu, rfl⟩ := Option.map_eq_some_iff.1 hf
    rw [merge_toOption] at hu
    split at hu
    case isTrue hv =>
      cases hu
      obtain ⟨hall, rfl⟩ := ih hrest
      exact ⟨List.forall_mem_cons.2 ⟨hv.symm, hall⟩, rfl⟩
    case isFalse => cases hu

end RegisteredType

namespace Repository

def describing (library : String) (rs : List Repository) : List Repository :=
  rs.filter (·.library.name == library)

def declarations (library key : String) (rs : List Repository) : List RegisteredType :=
  (describing library rs).filterMap (·.library.types.get? key)

/-- A library with everything that several descriptions declare. -/
structure IsUnion (first : Repository) (rest : List Repository) (r : Repository) : Prop where
  types : RegisteredType.gathering.addAll first.library.types.entries
    (rest.flatMap (·.library.types.entries)) = some r.library.types.entries
  functions : r.library.functions =
    Node.unite first.library.functions (rest.flatMap (·.library.functions))
  constants : r.library.constants =
    Node.unite first.library.constants (rest.flatMap (·.library.constants))
  other : r.library.other =
    Node.unite first.library.other (rest.flatMap (·.library.other))
  platforms : r.library.platforms =
    rest.foldl (fun p s => p ∪ s.library.platforms) first.library.platforms

theorem IsUnion.of_joinAll {first r : Repository} {rest : List Repository}
    (h : gathering.joinAll (first :: rest) = some r) : IsUnion first rest r := by
  induction rest generalizing first with
  | nil =>
    cases h
    exact ⟨rfl, rfl, rfl, rfl, rfl⟩
  | cons s rest ih =>
    obtain ⟨m, hm, hrest⟩ := Option.bind_eq_some_iff.1 h
    obtain ⟨htypes, hfunctions, hconstants, hother, hplatforms⟩ := ih hrest
    obtain ⟨ns, hns, rfl⟩ := Option.map_eq_some_iff.1 ((merge_toOption first s).symm.trans hm)
    rw [Namespace.merge_toOption] at hns
    split at hns
    case isTrue =>
      obtain ⟨types, ht, rfl⟩ := Option.map_eq_some_iff.1 hns
      have hentries := congrArg (Option.map OrderedMap.entries) ht
      rw [Namespace.mergeTypes_entries] at hentries
      refine ⟨?_, ?_, ?_, ?_, hplatforms⟩
      · rw [List.flatMap_cons, Gathering.addAll_append, hentries]
        exact htypes
      · rw [List.flatMap_cons, Node.unite_append]
        exact hfunctions
      · rw [List.flatMap_cons, Node.unite_append]
        exact hconstants
      · rw [List.flatMap_cons, Node.unite_append]
        exact hother
    case isFalse => cases hns

theorem IsUnion.of_merge {a b r : Repository} (h : a.merge b = .ok r) : IsUnion a [b] r := by
  apply of_joinAll
  change (a.merge b).toOption.bind some = some r
  rw [h]
  rfl

theorem joinAll_of_mergeAll {rs merged : List Repository} {r : Repository}
    (h : mergeAll rs = .ok merged) (hr : r ∈ merged) :
    gathering.joinAll (describing r.library.name rs) = some r := by
  rw [← Attempt.toOption_eq_some_iff, mergeAll_toOption] at h
  have hfind := Gathering.find?_addAll h r
  rw [Gathering.find?_of_mem (Gathering.Distinct.addAll .nil h) hr] at hfind
  exact hfind.symm

/-- A merged library is made from all descriptions of it. -/
theorem isUnion_of_mergeAll {rs merged : List Repository} {r : Repository}
    (h : mergeAll rs = .ok merged) (hr : r ∈ merged) :
    ∃ first rest, describing r.library.name rs = first :: rest ∧ IsUnion first rest r := by
  have hjoin := joinAll_of_mergeAll h hr
  cases hd : describing r.library.name rs with
  | nil =>
    rw [hd] at hjoin
    cases hjoin
  | cons first rest =>
    rw [hd] at hjoin
    exact ⟨first, rest, rfl, .of_joinAll hjoin⟩

theorem IsUnion.type {first r : Repository} {rest : List Repository} (h : IsUnion first rest r)
    {key : String} {t : RegisteredType} (ht : r.library.types.get? key = some t) :
    ∃ d ds, (first :: rest).filterMap (·.library.types.get? key) = d :: ds ∧
      (∀ u ∈ ds, u.variant = d.variant) ∧
      t = ⟨d.variant, (ds.map RegisteredType.node).foldl (Node.mergeAs d.variant) d.node⟩ := by
  have hfind := Gathering.find?_addAll h.types (key, t)
  have hmem := OrderedMap.get?_eq_some_iff.1 ht
  have hdistinct := r.library.types.distinct_entries
  have hfirst := first.library.types.find?_entries key
  have hall : (RegisteredType.gathering.find? (key, t) first.library.types.entries).toList ++
      (rest.flatMap (·.library.types.entries)).filter (RegisteredType.gathering.same · (key, t)) =
      ((first :: rest).filterMap (·.library.types.get? key)).map (key, ·) := by
    rw [List.map_filterMap, List.filterMap_eq_flatMap_toList, List.flatMap_cons,
      List.filter_flatMap]
    congr 1
    · exact congrArg Option.toList hfirst
    · apply List.flatMap_congr
      intro s _
      exact s.library.types.filter_entries key
  have hsome := Gathering.find?_of_mem (g := RegisteredType.gathering) hdistinct hmem
  rw [hall, hsome] at hfind
  cases hd : (first :: rest).filterMap (·.library.types.get? key) with
  | nil =>
    rw [hd] at hfind
    cases hfind
  | cons d ds =>
    rw [hd] at hfind
    obtain ⟨hv, he⟩ := RegisteredType.joinAll_eq_some hfind.symm
    exact ⟨d, ds, rfl, hv, congrArg Prod.snd he⟩

end Repository
end GirBind
