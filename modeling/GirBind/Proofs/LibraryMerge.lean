import GirBind.Proofs.Attempt
import GirBind.Proofs.Gathering.Keyed
import GirBind.Proofs.TypeMerge

namespace GirBind

def RegisteredType.gathering : Gathering (String × RegisteredType) :=
  .byKey Prod.fst (fun e f => (e.2.merge f.2).toOption.map (e.1, ·))
    (fun h => by
      obtain ⟨t, -, rfl⟩ := Option.map_eq_some_iff.1 h
      rfl)
    fun e f d => by
      have h := congrArg (Option.map (e.1, ·)) (merge_toOption_assoc e.2 f.2 d.2)
      rw [Option.map_bind, Option.map_bind] at h
      rwa [Option.bind_map, Option.bind_map]

namespace OrderedMap

variable {α : Type u}

theorem distinct_entries (m : OrderedMap α) :
    (Gathering.keepFirst (α := String × α) Prod.fst).Distinct m.entries :=
  (List.pairwise_map.1 m.nodup_keys).imp fun h => beq_eq_false_iff_ne.2 h

theorem addAll_entries (m : OrderedMap α) (l : List (String × α)) :
    (Gathering.keepFirst (α := String × α) Prod.fst).addAll m.entries l =
      some (l.foldl (fun m e => m.insertNew e.1 e.2) m).entries := by
  induction l generalizing m with
  | nil => rfl
  | cons e l ih =>
    rw [Gathering.addAll, Gathering.keepFirst_add, Option.bind_some, List.foldl_cons, ← ih,
      entries_insertNew]
    rfl

theorem entries_foldl_insertNew (m n : OrderedMap α) :
    (n.entries.foldl (fun m e => m.insertNew e.1 e.2) m).entries =
      m.entries ++ n.entries.filter fun e => !m.entries.any (·.1 == e.1) := by
  have h := Gathering.keepFirst_addAll m.distinct_entries n.distinct_entries
  rw [addAll_entries] at h
  exact Option.some.inj h

theorem foldl_insertNew_assoc (a b c : OrderedMap α) :
    c.entries.foldl (fun m e => m.insertNew e.1 e.2)
        (b.entries.foldl (fun m e => m.insertNew e.1 e.2) a) =
      (c.entries.foldl (fun m e => m.insertNew e.1 e.2) b).entries.foldl
        (fun m e => m.insertNew e.1 e.2) a := by
  have h := Gathering.addAll_assoc (l := a.entries) (m := b.entries)
    (.inl (Gathering.keepFirst_rightComm Prod.fst)) c.entries
  simp only [addAll_entries, Option.bind_some] at h
  exact ext_entries (Option.some.inj h)

end OrderedMap

namespace Namespace

theorem distinct_types (m : OrderedMap RegisteredType) :
    RegisteredType.gathering.Distinct m.entries :=
  m.distinct_entries

theorem meet_entries (b : OrderedMap RegisteredType) (e : String × RegisteredType) :
    RegisteredType.gathering.meet b.entries e =
      (b.get? e.1).elim (some e) fun t => (e.2.merge t).toOption.map (e.1, ·) := by
  rw [OrderedMap.get?]
  change (b.entries.find? fun f => f.1 == e.1).elim _ _ = _
  cases b.entries.find? fun f => f.1 == e.1 with
  | none => rfl
  | some f => rfl

/-- The first pass of a merge of types: those of the first namespace meet their counterparts. -/
theorem foldlM_mergeEntry (b : OrderedMap RegisteredType)
    (l before : List (String × RegisteredType)) (types : OrderedMap RegisteredType)
    (h : types.entries = before ++ l) :
    (l.foldlM (mergeEntry b) types).toOption.map OrderedMap.entries =
      (RegisteredType.gathering.meetAll b.entries l).map (before ++ ·) := by
  induction l generalizing before types with
  | nil => exact congrArg some h
  | cons e l ih =>
    have hstep (v : RegisteredType) (types' : OrderedMap RegisteredType)
        (h' : types'.entries = before ++ (e.1, v) :: l) :
        (l.foldlM (mergeEntry b) types').toOption.map OrderedMap.entries =
          ((RegisteredType.gathering.meetAll b.entries l).map ((e.1, v) :: ·)).map
            (before ++ ·) := by
      rw [ih (before ++ [(e.1, v)]) types' (by rw [h', List.append_assoc]; rfl), Option.map_map]
      apply Option.map_congr
      intro l' _
      exact List.append_assoc before [(e.1, v)] l'
    rw [List.foldlM_cons, Attempt.toOption_bind, Gathering.meetAll, meet_entries, mergeEntry]
    cases b.get? e.1 with
    | none => exact hstep e.2 types h
    | some t =>
      rw [Attempt.toOption_map, Option.elim_some, Option.bind_map, Option.bind_map, Option.map_bind,
        Option.map_bind]
      apply Option.bind_congr
      intro v _
      exact hstep v _ (OrderedMap.entries_insert_of_split h v)

/-- A merge of types is a union of entries. -/
theorem mergeTypes_entries (a b : OrderedMap RegisteredType) :
    (mergeTypes a b).toOption.map OrderedMap.entries =
      RegisteredType.gathering.addAll a.entries b.entries := by
  have hpass := foldlM_mergeEntry b a.entries [] a rfl
  simp only [List.nil_append, Option.map_id_fun', id] at hpass
  rw [Gathering.addAll_eq_meetAll (distinct_types a) (distinct_types b), ← hpass, mergeTypes,
    Attempt.toOption_bind, Option.map_bind, Option.map_map, Option.map_eq_bind]
  apply Option.bind_congr
  intro merged hm
  rw [hm] at hpass
  have hany (e : String × RegisteredType) :
      merged.entries.any (·.1 == e.1) = a.entries.any (·.1 == e.1) :=
    Gathering.any_same_meetAll hpass.symm e
  have hnew := OrderedMap.entries_foldl_insertNew merged b
  simp only [hany] at hnew
  exact congrArg some hnew

theorem mergeTypes_assoc (a b c : OrderedMap RegisteredType) :
    ((mergeTypes a b).toOption.bind fun types => (mergeTypes types c).toOption) =
      (mergeTypes b c).toOption.bind fun types => (mergeTypes a types).toOption := by
  refine Option.map_injective (fun _ _ => OrderedMap.ext_entries) ?_
  rw [Option.map_bind, Option.map_bind]
  simp only [Function.comp_def, mergeTypes_entries]
  have hassoc := Gathering.addAll_assoc (l := a.entries) (.inr (distinct_types b)) c.entries
  rwa [← mergeTypes_entries, ← mergeTypes_entries, Option.bind_map, Option.bind_map] at hassoc

def mergeWith (a b : Namespace) (types : OrderedMap RegisteredType) : Namespace where
  name := a.name
  version := a.version
  attributes := b.attributes.entries.foldl (fun m e => m.insertNew e.1 e.2) a.attributes
  types
  functions := Node.unite a.functions b.functions
  constants := Node.unite a.constants b.constants
  other := Node.unite a.other b.other
  platforms := a.platforms ∪ b.platforms

theorem merge_toOption (a b : Namespace) : (a.merge b).toOption =
    if a.name = b.name then (mergeTypes a.types b.types).toOption.map (a.mergeWith b)
    else none := by
  rw [merge]
  split
  case isTrue =>
    rw [Attempt.toOption_bind, Option.map_eq_bind]
    rfl
  case isFalse => rfl

theorem name_of_merge {a b ns : Namespace} (h : (a.merge b).toOption = some ns) :
    ns.name = a.name := by
  rw [merge_toOption] at h
  split at h
  case isTrue =>
    obtain ⟨types, -, rfl⟩ := Option.map_eq_some_iff.1 h
    rfl
  case isFalse => cases h

theorem mergeWith_assoc (a b c : Namespace) (s t : OrderedMap RegisteredType) :
    (a.mergeWith b s).mergeWith c = a.mergeWith (b.mergeWith c t) := by
  funext u
  simp only [mergeWith, Node.unite_assoc, PlatformSet.union_assoc,
    OrderedMap.foldl_insertNew_assoc]

theorem merge_toOption_assoc (a b c : Namespace) :
    ((a.merge b).toOption.bind fun ns => (ns.merge c).toOption) =
      (b.merge c).toOption.bind fun ns => (a.merge ns).toOption := by
  simp only [merge_toOption]
  by_cases hab : a.name = b.name
  · by_cases hbc : b.name = c.name
    · have htypes := congrArg (Option.map (a.mergeWith (b.mergeWith c b.types)))
        (mergeTypes_assoc a.types b.types c.types)
      rw [Option.map_bind, Option.map_bind] at htypes
      have hleft (types : OrderedMap RegisteredType) :
          (a.mergeWith b types).name = c.name := hab.trans hbc
      rw [if_pos hab, if_pos hbc, Option.bind_map, Option.bind_map]
      simp only [Function.comp_def, if_pos (hleft _), mergeWith_assoc a b c _ b.types]
      refine htypes.trans (Option.bind_congr fun types _ => ?_)
      exact (if_pos (c := a.name = (b.mergeWith c types).name) hab).symm
    · rw [if_pos hab, if_neg hbc, Option.bind_none, Option.bind_map]
      have hleft (types : OrderedMap RegisteredType) :
          (a.mergeWith b types).name ≠ c.name := fun h => hbc (hab.symm.trans h)
      simp only [Function.comp_def, if_neg (hleft _), Option.bind_fun_none]
  · rw [if_neg hab, Option.bind_none]
    split
    case isTrue hbc =>
      rw [Option.bind_map]
      have hright (types : OrderedMap RegisteredType) :
          a.name ≠ (b.mergeWith c types).name := hab
      simp only [Function.comp_def, if_neg (hright _), Option.bind_fun_none]
    case isFalse => rfl

end Namespace

namespace Repository

theorem addAll_uniteValues {α : Type} [DecidableEq α] (l m : List α) :
    (Gathering.keepFirst (α := α) id).addAll l m = some (uniteValues l m) := by
  induction m generalizing l with
  | nil => rfl
  | cons x m ih =>
    have hx : l.any (id · == id x) = l.contains x := by
      rw [List.contains_eq_any_beq]
      exact congrArg l.any (funext fun y => BEq.comm)
    rw [Gathering.addAll, Gathering.keepFirst_add, Option.bind_some, ih, hx]
    rfl

theorem uniteValues_assoc {α : Type} [DecidableEq α] (a b c : List α) :
    uniteValues (uniteValues a b) c = uniteValues a (uniteValues b c) := by
  have h := Gathering.addAll_assoc (l := a) (m := b)
    (.inl (Gathering.keepFirst_rightComm id)) c
  simp only [addAll_uniteValues, Option.bind_some] at h
  exact Option.some.inj h

def mergeWith (a b : Repository) (library : Namespace) : Repository where
  includes := uniteValues a.includes b.includes
  packages := uniteValues a.packages b.packages
  cIncludes := uniteValues a.cIncludes b.cIncludes
  library
  platforms := a.platforms ∪ b.platforms

theorem merge_toOption (a b : Repository) :
    (a.merge b).toOption = (a.library.merge b.library).toOption.map (a.mergeWith b) := by
  rw [merge, Attempt.toOption_bind, Option.map_eq_bind]
  rfl

theorem mergeWith_assoc (a b c : Repository) (s t : Namespace) :
    (a.mergeWith b s).mergeWith c = a.mergeWith (b.mergeWith c t) := by
  funext u
  simp only [mergeWith, uniteValues_assoc, PlatformSet.union_assoc]

theorem merge_toOption_assoc (a b c : Repository) :
    ((a.merge b).toOption.bind fun r => (r.merge c).toOption) =
      (b.merge c).toOption.bind fun r => (a.merge r).toOption := by
  have h := congrArg (Option.map (a.mergeWith (b.mergeWith c b.library)))
    (Namespace.merge_toOption_assoc a.library b.library c.library)
  rw [Option.map_bind, Option.map_bind] at h
  simp only [merge_toOption, Option.bind_map, Function.comp_def,
    mergeWith_assoc a b c _ b.library]
  exact h

theorem name_of_merge {a b c : Repository} (h : (a.merge b).toOption = some c) :
    c.library.name = a.library.name := by
  rw [merge_toOption] at h
  obtain ⟨ns, hns, rfl⟩ := Option.map_eq_some_iff.1 h
  exact Namespace.name_of_merge hns

def gathering : Gathering Repository :=
  .byKey (·.library.name) (fun r s => (r.merge s).toOption) name_of_merge merge_toOption_assoc

theorem add_eq_absorb (r : Repository) (rs : List Repository) :
    gathering.add r rs = (absorb r rs).toOption := by
  induction rs with
  | nil => rfl
  | cons s rs ih =>
    rw [absorb]
    split
    case isTrue h =>
      rw [Gathering.add_cons_same (g := gathering) (beq_iff_eq.2 h), Attempt.toOption_map]
      rfl
    case isFalse h =>
      rw [Gathering.add_cons_other (g := gathering) (beq_eq_false_iff_ne.2 h), ih,
        Attempt.toOption_map]

/-- Merging many descriptions is a union. -/
theorem mergeAll_toOption (rs : List Repository) :
    (mergeAll rs).toOption = gathering.addAll [] rs := by
  have h (merged : List Repository) :
      (rs.foldlM (fun merged r => absorb r merged) merged).toOption =
        gathering.addAll merged rs := by
    induction rs generalizing merged with
    | nil => rfl
    | cons r rs ih =>
      rw [List.foldlM_cons, Attempt.toOption_bind, Gathering.addAll, add_eq_absorb]
      apply Option.bind_congr
      intro merged' _
      exact ih merged'
  exact h []

end Repository
end GirBind
