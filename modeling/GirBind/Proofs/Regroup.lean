import GirBind.Proofs.LibraryMerge

namespace GirBind.Repository

theorem addAll_merged {xs merged : List Repository} (h : gathering.addAll [] xs = some merged) :
    gathering.addAll [] merged = some merged := by
  have hassoc := Gathering.addAll_assoc (g := gathering) (l := []) (m := []) (.inr .nil) xs
  rw [h] at hassoc
  exact hassoc.symm.trans h

/-- Descriptions may be merged in groups, and so may the descriptions of one type: either way
succeeds if the other does, and then with the same result. -/
theorem mergeAll_regroup :
    (∀ xs ys merged : List Repository,
      (do
        let first ← mergeAll xs
        let second ← mergeAll ys
        mergeAll (first ++ second)) = .ok merged ↔ mergeAll (xs ++ ys) = .ok merged) ∧
    ∀ a b c merged : RegisteredType,
      (do
        let first ← a.merge b
        first.merge c) = .ok merged ↔
      (do
        let second ← b.merge c
        a.merge second) = .ok merged := by
  constructor
  · intro xs ys merged
    rw [← Attempt.toOption_eq_some_iff, ← Attempt.toOption_eq_some_iff, Attempt.toOption_bind]
    simp only [Attempt.toOption_bind, mergeAll_toOption]
    -- both sides are the union of the second list to what the first one makes
    have hleft : ((gathering.addAll [] xs).bind fun first =>
        (gathering.addAll [] ys).bind fun second => gathering.addAll [] (first ++ second)) =
        (gathering.addAll [] xs).bind (gathering.addAll · ys) := by
      apply Option.bind_congr
      intro first hfirst
      have hsecond := Gathering.addAll_assoc (g := gathering) (l := first) (m := []) (.inr .nil) ys
      simp only [Gathering.addAll_append, addAll_merged hfirst, Option.bind_some]
      exact hsecond.symm
    rw [hleft, Gathering.addAll_append]
  · intro a b c merged
    rw [← Attempt.toOption_eq_some_iff, ← Attempt.toOption_eq_some_iff, Attempt.toOption_bind,
      Attempt.toOption_bind, RegisteredType.merge_toOption_assoc]

end GirBind.Repository
