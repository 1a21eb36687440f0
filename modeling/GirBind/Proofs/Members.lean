import GirBind.Proofs.Gathering.Lookup
import GirBind.Proofs.Gathering.Sifting
import GirBind.Proofs.NodeIdentity
import GirBind.Proofs.Platforms
import GirBind.Repository.Merge

namespace GirBind

namespace Node

/-- Members of one parent, where a further description of a member adds its platforms. -/
def gathering : Gathering Node where
  same := sameMember
  join m n := some (m.withOwnPlatforms (m.platforms ∪ n.platforms))
  same_refl := sameMember_refl
  same_comm := sameMember_comm
  same_congr := sameMember_congr
  same_join h w := by
    cases h
    exact sameMember_withOwnPlatforms _ w _
  join_assoc l m n := by
    simp only [Option.bind_some, withOwnPlatforms, PlatformSet.union_assoc]

theorem gathering_rightComm : gathering.RightComm := by
  intro l m n
  simp only [gathering, Option.bind_some, withOwnPlatforms,
    PlatformSet.union_right_comm _ m.platforms]

theorem add_eq_absorb (n : Node) (ms : List Node) : gathering.add n ms = some (absorb n ms) := by
  induction ms with
  | nil => rfl
  | cons m ms ih =>
    rw [absorb]
    split
    case isTrue h => exact Gathering.add_cons_same (g := gathering) h
    case isFalse h =>
      rw [Gathering.add_cons_other (g := gathering) (Bool.eq_false_iff.2 h), ih]
      rfl

theorem addAll_eq_unite (ms ns : List Node) : gathering.addAll ms ns = some (unite ms ns) := by
  induction ns generalizing ms with
  | nil => rfl
  | cons n ns ih =>
    rw [Gathering.addAll, add_eq_absorb, Option.bind_some, ih]
    rfl

theorem unite_cons (ms ns : List Node) (n : Node) : unite ms (n :: ns) = unite (absorb n ms) ns :=
  rfl

theorem unite_append (ls ms ns : List Node) : unite ls (ms ++ ns) = unite (unite ls ms) ns :=
  List.foldl_append

theorem unite_assoc (ls ms ns : List Node) : unite (unite ls ms) ns = unite ls (unite ms ns) := by
  have h := Gathering.addAll_assoc (l := ls) (m := ms) (.inl gathering_rightComm) ns
  simp only [addAll_eq_unite, Option.bind_some] at h
  exact Option.some.inj h

theorem gathering_sifts {q : Node → Bool} (hq : ∀ {m n}, sameMember m n = true → q m = q n) :
    gathering.Sifts (Option.guard q) where
  same h n := by
    rw [(Option.guard_eq_some_iff.1 h).1]
  drop h hm := by
    rw [Option.guard_eq_none_iff] at hm ⊢
    rw [← hq h, hm]
  join h hz hm hn := by
    cases hz
    obtain ⟨rfl, hkept⟩ := Option.guard_eq_some_iff.1 hm
    obtain ⟨rfl, -⟩ := Option.guard_eq_some_iff.1 hn
    refine ⟨_, Option.guard_eq_some_iff.2 ⟨rfl, ?_⟩, rfl⟩
    rw [hq ((sameMember_withOwnPlatforms _ _ _).trans (sameMember_refl _)), hkept]

/-- Members may be left out before a union or after it, if it is by kind and name. -/
theorem filter_unite_of_same {q : Node → Bool} (hq : ∀ {m n}, sameMember m n = true → q m = q n)
    (ms ns : List Node) : (unite ms ns).filter q = unite (ms.filter q) (ns.filter q) := by
  have h := (gathering_sifts hq).addAll (addAll_eq_unite ms ns)
  rw [addAll_eq_unite] at h
  simp only [List.filterMap_eq_filter] at h
  exact (Option.some.inj h).symm

theorem filter_unite (q : NodeKind → Bool) (ms ns : List Node) :
    (unite ms ns).filter (fun m => q m.kind) =
      unite (ms.filter fun m => q m.kind) (ns.filter fun m => q m.kind) :=
  filter_unite_of_same (fun h => congrArg q (sameMember_iff.1 h).1) ms ns

theorem any_sameMember_absorb (n : Node) (ms : List Node) (l : Node) :
    (absorb n ms).any (sameMember · l) = (ms.any (sameMember · l) || sameMember n l) :=
  Gathering.any_same_add (add_eq_absorb n ms) l

theorem absorb_sameShapes {n : Node} {ms : List Node} (h : ms.any (sameMember · n) = true) :
    sameShapes (absorb n ms) ms = true := by
  induction ms with
  | nil => cases h
  | cons m ms ih =>
    rw [absorb]
    split
    case isTrue =>
      rw [sameShapes_cons, sameShape_withOwnPlatforms]
      exact ⟨sameShape_refl m, sameShapes_refl ms⟩
    case isFalse hm =>
      rw [List.any_cons, Bool.eq_false_iff.2 hm, Bool.false_or] at h
      exact sameShapes_cons.2 ⟨sameShape_refl m, ih h⟩

theorem unite_sameShapes_of_any {ms ns : List Node}
    (h : ∀ n ∈ ns, ms.any (sameMember · n) = true) : sameShapes (unite ms ns) ms = true := by
  induction ns generalizing ms with
  | nil => exact sameShapes_refl ms
  | cons n ns ih =>
    obtain ⟨hn, hns⟩ := List.forall_mem_cons.1 h
    refine sameShapes_trans (ih fun l hl => ?_) (absorb_sameShapes hn)
    rw [any_sameMember_absorb, hns l hl, Bool.true_or]

theorem any_sameMember_of_sameShapes {ms ns : List Node} (h : sameShapes ms ns = true) :
    ∀ n ∈ ns, ms.any (sameMember · n) = true := by
  induction ns generalizing ms with
  | nil => exact fun _ hn => absurd hn List.not_mem_nil
  | cons n ns ih =>
    cases ms with
    | nil => simp only [sameShapes, Bool.false_eq_true] at h
    | cons m ms =>
      obtain ⟨hm, hms⟩ := sameShapes_cons.1 h
      intro l hl
      rw [List.any_cons, Bool.or_eq_true]
      rcases List.mem_cons.1 hl with rfl | hl
      · exact .inl (sameMember_of_sameShape hm)
      · exact .inr (ih hms l hl)

theorem unite_sameShapes {ms ns : List Node} (h : sameShapes ms ns = true) :
    sameShapes (unite ms ns) ms = true :=
  unite_sameShapes_of_any (any_sameMember_of_sameShapes h)

end Node
end GirBind
