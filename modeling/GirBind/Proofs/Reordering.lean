import GirBind.Proofs.OutlineCompile

namespace GirBind

open Attempt (Finds)

theorem foldl_add_perm {α : Type u} {l m : List α} (h : l.Perm m) (f : α → Nat) :
    l.foldl (fun n a => n + f a) 0 = m.foldl (fun n a => n + f a) 0 :=
  h.foldl_eq' (fun _ _ _ _ _ => Nat.add_right_comm ..) 0

namespace OrderedMap

variable {α : Type u}

theorem get?_insertNew (m : OrderedMap α) (key : String) (value : α) (other : String) :
    (m.insertNew key value).get? other =
      (m.get? other).or (if key == other then some value else none) := by
  rw [get?, get?, entries_insertNew]
  split
  case isTrue hkey =>
    split
    case isTrue hother =>
      rw [contains_eq_isSome, eq_of_beq hother] at hkey
      exact (Option.or_of_isSome hkey).symm
    case isFalse => rw [Option.or_none]
  case isFalse hkey =>
    rw [List.find?_append, List.find?_singleton, Option.map_or]
    split
    case isTrue => rfl
    case isFalse => rfl

theorem get?_foldl_insertNew (m : OrderedMap α) (l : List (String × α)) (key : String) :
    (l.foldl (fun m e => m.insertNew e.1 e.2) m).get? key =
      (m.get? key).or ((l.find? (·.1 == key)).map Prod.snd) := by
  induction l generalizing m with
  | nil => exact (Option.or_none).symm
  | cons e l ih =>
    rw [List.foldl_cons, ih, get?_insertNew, Option.or_assoc, List.find?_cons]
    cases e.1 == key with
    | true => rfl
    | false => rfl

end OrderedMap

/-- Entries of groups that have no key in common are found in any order of the groups. -/
theorem find?_flatMap_perm {ι : Type u} {α : Type v} {f : ι → List (String × α)} {l m : List ι}
    (h : l.Perm m)
    (hl : l.Pairwise fun i j => ((f i).map Prod.fst).Disjoint ((f j).map Prod.fst))
    (key : String) :
    (l.flatMap f).find? (·.1 == key) = (m.flatMap f).find? (·.1 == key) := by
  induction h with
  | nil => rfl
  | cons i _ ih =>
    rw [List.flatMap_cons, List.flatMap_cons, List.find?_append, List.find?_append,
      ih (List.pairwise_cons.1 hl).2]
  | swap i j l =>
    have hdisjoint := (List.pairwise_cons.1 hl).1 i List.mem_cons_self
    simp only [List.flatMap_cons, List.find?_append]
    rw [← Option.or_assoc, ← Option.or_assoc]
    congr 1
    cases hi : (f i).find? (·.1 == key) with
    | none => rw [Option.or_none, Option.none_or]
    | some e =>
      cases hj : (f j).find? (·.1 == key) with
      | none => rfl
      | some e' =>
        have hkey := List.find?_some hi
        have hkey' := List.find?_some hj
        rw [beq_iff_eq] at hkey hkey'
        refine (hdisjoint (a := key) ?_ ?_).elim
        · exact hkey' ▸ List.mem_map_of_mem (List.mem_of_find?_eq_some hj)
        · exact hkey ▸ List.mem_map_of_mem (List.mem_of_find?_eq_some hi)
  | trans h _ ih ih' => exact (ih hl).trans (ih' (h.pairwise hl List.disjoint_symm))

def Repository.NamesApart (rs : List Repository) : Prop :=
  rs.Pairwise fun r s =>
    ((Symbol.ofNamespace r.library).map Prod.fst).Disjoint
      ((Symbol.ofNamespace s.library).map Prod.fst) ∧
    ((TypeEntry.ofNamespace r.library).map Prod.fst).Disjoint
      ((TypeEntry.ofNamespace s.library).map Prod.fst)

namespace SymbolTable

variable {rs ss : List Repository}

theorem indexes_foldl_add (table : SymbolTable) (rs : List Repository) :
    (rs.foldl (fun table r => table.add r.library) table).byIdentifier =
        (rs.flatMap (Symbol.ofNamespace ·.library)).foldl (fun m e => m.insertNew e.1 e.2)
          table.byIdentifier ∧
      (rs.foldl (fun table r => table.add r.library) table).byNativeType =
        (rs.flatMap (TypeEntry.ofNamespace ·.library)).foldl (fun m e => m.insertNew e.1 e.2)
          table.byNativeType := by
  induction rs generalizing table with
  | nil => exact ⟨rfl, rfl⟩
  | cons r rs ih =>
    rw [List.flatMap_cons, List.flatMap_cons, List.foldl_append, List.foldl_append]
    exact ih (table.add r.library)

theorem symbol?_build (rs : List Repository) (naming : PackageNaming) (identifier : String) :
    (build rs naming).symbol? identifier =
      ((rs.flatMap (Symbol.ofNamespace ·.library)).find? (·.1 == identifier)).map Prod.snd := by
  rw [symbol?, build, (indexes_foldl_add (empty naming) rs).1, OrderedMap.get?_foldl_insertNew]
  rfl

theorem nativeType?_build (rs : List Repository) (naming : PackageNaming) (name : String) :
    (build rs naming).nativeType? name =
      ((rs.flatMap (TypeEntry.ofNamespace ·.library)).find? (·.1 == name)).map Prod.snd := by
  rw [nativeType?, build, (indexes_foldl_add (empty naming) rs).2, OrderedMap.get?_foldl_insertNew]
  rfl

theorem namespace?_perm (h : rs.Perm ss) (hnames : (rs.map (·.library.name)).Nodup)
    (naming : PackageNaming) (name : String) :
    (build rs naming).namespace? name = (build ss naming).namespace? name := by
  apply OrderedMap.get?_eq_of_perm
  rw [entries_build hnames, entries_build ((h.map _).nodup_iff.1 hnames)]
  exact h.map _

theorem agrees_perm (h : rs.Perm ss) (hnames : (rs.map (·.library.name)).Nodup)
    (naming : PackageNaming) : (build rs naming).Agrees False (build ss naming) where
  naming := (naming_build rs naming).trans (naming_build ss naming).symm
  finds name := by
    refine .of_eq ?_ (namespace?_perm h hnames naming name)
    exact fun _ => rfl
  filed := isFiled_build rs naming

theorem agreesFully_perm (h : rs.Perm ss) (hnames : (rs.map (·.library.name)).Nodup)
    (hapart : Repository.NamesApart rs) (naming : PackageNaming) :
    (build rs naming).AgreesFully (build ss naming) where
  toAgrees := agrees_perm h hnames naming
  symbol? identifier := by
    refine .of_eq ?_ ?_
    · exact fun _ => rfl
    · rw [symbol?_build, symbol?_build, find?_flatMap_perm h (hapart.imp And.left)]
  nativeType? name := by
    refine .of_eq ?_ ?_
    · exact fun _ => rfl
    · rw [nativeType?_build, nativeType?_build, find?_flatMap_perm h (hapart.imp And.right)]

theorem knows_of_mem_build (hnames : (rs.map (·.library.name)).Nodup) (naming : PackageNaming)
    {r : Repository} (hr : r ∈ rs) : (build rs naming).Knows r.library.name := by
  apply knows_of_mem (isFiled_build rs naming)
  rw [namespaces_build hnames]
  exact List.mem_map_of_mem hr

end SymbolTable

theorem FloatingTable.count_perm {rs ss : List Repository} (h : rs.Perm ss)
    (hnames : (rs.map (·.library.name)).Nodup) (naming : PackageNaming) :
    (build (.build rs naming)).count = (build (.build ss naming)).count := by
  have hagrees := SymbolTable.agrees_perm h hnames naming
  have hflags : ofNamespace (.build rs naming) = ofNamespace (.build ss naming) :=
    funext fun ns => ofNamespace_agrees hagrees rfl
  rw [count, count, build, build, SymbolTable.namespaces_build hnames,
    SymbolTable.namespaces_build ((h.map _).nodup_iff.1 hnames), hflags]
  exact ((h.map _).flatMap_right _).countP_eq _

namespace Statistics

def withoutDocMisses (s : Statistics) : Statistics := { s with docMisses := 0 }

theorem ofDecisions_perm {ds es : List NamespaceDecision} (h : ds.Perm es) (floating : Nat) :
    ofDecisions floating ds = ofDecisions floating es := by
  rw [ofDecisions, ofDecisions, h.length_eq, (h.flatMap_right _).length_eq,
    (h.flatMap_right _).length_eq, (h.flatMap_right _).countP_eq, (h.flatMap_right _).length_eq,
    foldl_add_perm h]

theorem ofDecisions_mapDocs (f : Doc.Converted → Doc.Converted) (floating : Nat)
    (ds : List NamespaceDecision) :
    (ofDecisions floating (ds.map (·.mapDocs f))).withoutDocMisses =
      (ofDecisions floating ds).withoutDocMisses := by
  have hcallables (d : NamespaceDecision) :
      (d.mapDocs f).callables = d.callables.map (·.mapDoc f) := by
    simp only [NamespaceDecision.callables, NamespaceDecision.mapDocs, List.map_append,
      List.flatMap_map, List.map_flatMap, TypeDecision.mapDocs, Option.toList_map]
  have htypes (d : NamespaceDecision) : (d.mapDocs f).types = d.types.map (·.mapDocs f) := rfl
  simp only [ofDecisions, withoutDocMisses, List.flatMap_map, hcallables, htypes,
    ← List.map_flatMap, List.length_map, List.countP_map]
  rfl

end Statistics

variable {rs ss : List Repository} {f : Doc.Converted → Doc.Converted}

theorem decisions_perm (h : rs.Perm ss) (hnames : (rs.map (·.library.name)).Nodup) (o : Options)
    (hdocs : ∀ library, Doc.Context.Agrees f ⟨.build rs o.naming, library⟩
      ⟨.build ss o.naming, library⟩) :
    ((compileRepositories o rs).1.map (·.mapDocs f)).Perm
      ((compileRepositories o ss).1.map (·.mapDocs f)) := by
  have hnames' := (h.map (·.library.name)).nodup_iff.1 hnames
  have hagrees := SymbolTable.agrees_perm h hnames o.naming
  change (List.map _ (SymbolTable.bind _ _)).Perm (List.map _ (SymbolTable.bind _ _))
  rw [SymbolTable.bind_build hnames, SymbolTable.bind_build hnames', List.map_map, List.map_map]
  refine .trans (.of_eq (List.map_congr_left fun r hr => ?_)) (h.map _)
  exact BindingContext.bindNamespace_agrees hagrees
    (SymbolTable.knows_of_mem_build hnames o.naming hr) (hdocs r.library.name)
    (FloatingTable.get?_agrees hagrees (SymbolTable.isFiled_build ss o.naming) _)

/-- The order of namespaces has an effect on nothing but the order of decisions and what comments
refer to. -/
theorem compileRepositories_perm (h : rs.Perm ss) (hnames : (rs.map (·.library.name)).Nodup)
    (o : Options) :
    ((compileRepositories o rs).1.map (·.mapDocs .blank)).Perm
        ((compileRepositories o ss).1.map (·.mapDocs .blank)) ∧
      (compileRepositories o rs).2.withoutDocMisses =
        (compileRepositories o ss).2.withoutDocMisses ∧
      (Repository.NamesApart rs →
        (compileRepositories o rs).1.Perm (compileRepositories o ss).1 ∧
          (compileRepositories o rs).2 = (compileRepositories o ss).2) := by
  have hblank := decisions_perm h hnames o fun library =>
    Doc.Context.agrees_blank ⟨.build rs o.naming, library⟩ ⟨.build ss o.naming, library⟩
  have hfloating := FloatingTable.count_perm h hnames o.naming
  refine ⟨hblank, ?_, fun hapart => ?_⟩
  · change (Statistics.ofDecisions _ _).withoutDocMisses =
      (Statistics.ofDecisions _ _).withoutDocMisses
    rw [hfloating]
    refine (Statistics.ofDecisions_mapDocs .blank _ _).symm.trans
      (Eq.trans ?_ (Statistics.ofDecisions_mapDocs .blank _ _))
    exact congrArg _ (Statistics.ofDecisions_perm hblank _)
  · have hfull := SymbolTable.agreesFully_perm h hnames hapart o.naming
    have hsame := decisions_perm h hnames o (Doc.Context.agrees_of_agreesFully hfull)
    have hid : (fun d : NamespaceDecision => d.mapDocs id) = id :=
      funext NamespaceDecision.mapDocs_id
    rw [hid, List.map_id, List.map_id] at hsame
    refine ⟨hsame, ?_⟩
    change Statistics.ofDecisions _ _ = Statistics.ofDecisions _ _
    rw [hfloating]
    exact Statistics.ofDecisions_perm hsame _

end GirBind
