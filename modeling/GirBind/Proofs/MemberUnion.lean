import GirBind.Proofs.MemberPlatforms

namespace GirBind.Node

open PlatformSet (unionAll)

def newMembers (seen : List Node) : List Node → List Node
  | [] => []
  | n :: ns =>
    if seen.any (sameMember · n) then newMembers (seen ++ [n]) ns
    else n :: newMembers (seen ++ [n]) ns

/-- A list of members with all that is new in further members. Up to their own platforms the members
are as they first occur, and the first of several that are the same has the platforms of all. -/
structure IsMemberUnion (first rest result : List Node) : Prop where
  contents : result.map (withOwnPlatforms · .empty) =
    (first ++ newMembers first rest).map (withOwnPlatforms · .empty)
  platforms : ∀ {before n after}, result = before ++ n :: after →
    (∀ m ∈ before, sameMember m n = false) →
    n.platforms = unionAll (((first ++ rest).filter (sameMember · n)).map platforms)

theorem newMembers_congr {seen seen' : List Node}
    (h : ∀ l, seen.any (sameMember · l) = seen'.any (sameMember · l)) (ns : List Node) :
    newMembers seen ns = newMembers seen' ns := by
  induction ns generalizing seen seen' with
  | nil => rfl
  | cons n ns ih =>
    have hnext : ∀ l, (seen ++ [n]).any (sameMember · l) = (seen' ++ [n]).any (sameMember · l) := by
      intro l
      rw [List.any_append, List.any_append, h]
    rw [newMembers, newMembers, h n, ih hnext]

theorem contents_absorb (n : Node) (ms : List Node) :
    (absorb n ms).map (withOwnPlatforms · .empty) =
      (if ms.any (sameMember · n) then ms else ms ++ [n]).map (withOwnPlatforms · .empty) := by
  induction ms with
  | nil => rfl
  | cons m ms ih =>
    rw [absorb, List.any_cons]
    cases h : sameMember m n with
    | true => rfl
    | false =>
      rw [if_neg Bool.false_ne_true, List.map_cons, ih, Bool.false_or]
      split
      case isTrue => rfl
      case isFalse => rfl

theorem contents_unite (ms ns : List Node) :
    (unite ms ns).map (withOwnPlatforms · .empty) =
      (ms ++ newMembers ms ns).map (withOwnPlatforms · .empty) := by
  induction ns generalizing ms with
  | nil =>
    rw [newMembers, List.append_nil]
    rfl
  | cons n ns ih =>
    have hseen : newMembers (absorb n ms) ns = newMembers (ms ++ [n]) ns := by
      apply newMembers_congr
      intro l
      rw [any_sameMember_absorb, List.any_append, List.any_cons, List.any_nil, Bool.or_false]
    rw [unite_cons, ih, hseen, List.map_append, contents_absorb, newMembers]
    split
    case isTrue => rw [List.map_append]
    case isFalse => rw [← List.map_append, List.append_assoc, List.singleton_append]

theorem isMemberUnion_unite {p : PlatformSet} {first : List Node}
    (hfirst : ∀ m ∈ first, m.platforms = p) (rest : List Node) :
    IsMemberUnion first rest (unite first rest) := by
  refine ⟨contents_unite first rest, ?_⟩
  intro before n after hsplit hbefore
  have hfound : gathering.find? n (unite first rest) = some n := by
    rw [hsplit, Gathering.find?, List.find?_append, Option.or_eq_some_iff]
    refine .inr ⟨List.find?_eq_none.2 fun m hm => Bool.eq_false_iff.1 (hbefore m hm), ?_⟩
    exact Gathering.find?_cons_same (g := gathering) (sameMember_refl n)
  have hall := Gathering.find?_addAll (addAll_eq_unite first rest) n
  rw [hfound] at hall
  -- of several first ones only one takes part, but it has the platforms of them all
  have hsame : unionAll ((gathering.find? n first).toList.map platforms) =
      unionAll ((first.filter (sameMember · n)).map platforms) := by
    rw [PlatformSet.unionAll_map_filter hfirst]
    cases hf : gathering.find? n first with
    | none =>
      have hnone : first.any (sameMember · n) = false :=
        Bool.eq_false_iff.2 fun hany => by
          obtain ⟨m, hm, hmn⟩ := List.any_eq_true.1 hany
          exact List.find?_eq_none.1 hf m hm hmn
      rw [hnone]
      rfl
    | some m =>
      have hm := List.mem_of_find?_eq_some hf
      have hmn : gathering.same m n = true := List.find?_some (p := (gathering.same · n)) hf
      have hany : first.any (sameMember · n) = true := List.any_eq_true.2 ⟨m, hm, hmn⟩
      rw [hany, if_pos rfl, Option.toList_some, List.map_singleton, unionAll, unionAll,
        PlatformSet.union_empty, hfirst m hm]
  rw [List.filter_append, List.map_append, PlatformSet.unionAll_append, ← hsame,
    ← PlatformSet.unionAll_append, ← List.map_append]
  cases hl : (gathering.find? n first).toList ++ rest.filter (gathering.same · n) with
  | nil =>
    rw [hl] at hall
    cases hall
  | cons m ms =>
    rw [hl] at hall
    exact (platforms_of_joinAll hall.symm).trans (by rw [← hl]; rfl)

theorem foldl_merge (first : Node) (rest : List Node) :
    (rest.foldl merge first).children = unite first.children (rest.flatMap children) := by
  induction rest generalizing first with
  | nil => rfl
  | cons n rest ih =>
    rw [List.foldl_cons, ih, List.flatMap_cons, unite_append]
    rfl

end GirBind.Node
