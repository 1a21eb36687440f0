namespace GirBind

/-- When two items describe one thing, and the item that they make together. Two that describe one
thing may still not fit. -/
structure Gathering (α : Type u) where
  same : α → α → Bool
  join : α → α → Option α
  same_refl : ∀ x, same x x = true
  same_comm : ∀ x y, same x y = same y x
  same_congr : ∀ {x y}, same x y = true → ∀ z, same x z = same y z
  same_join : ∀ {x y z}, join x y = some z → ∀ w, same z w = same x w
  join_assoc : ∀ x y z, (join x y).bind (join · z) = (join y z).bind (join x)

namespace Gathering

variable {α : Type u} (g : Gathering α)

/-- Joins an item to the first one that describes the same thing. Without one it comes last. -/
def add (x : α) : List α → Option (List α)
  | [] => some [x]
  | y :: ys => if g.same y x then (g.join y x).map (· :: ys) else (add x ys).map (y :: ·)

def addAll : List α → List α → Option (List α)
  | l, [] => some l
  | l, x :: xs => (g.add x l).bind (addAll · xs)

def joinAll : List α → Option α
  | [] => none
  | x :: xs => xs.foldlM g.join x

/-- Two items can be joined to a third in either order. -/
def RightComm : Prop := ∀ x y z, (g.join x y).bind (g.join · z) = (g.join x z).bind (g.join · y)

def Distinct (l : List α) : Prop := l.Pairwise fun x y => g.same x y = false

instance (l : List α) : Decidable (g.Distinct l) :=
  inferInstanceAs (Decidable (l.Pairwise fun x y => g.same x y = false))

def find? (x : α) (l : List α) : Option α := l.find? (g.same · x)

variable {g}

theorem add_cons_same {x y : α} {l : List α} (h : g.same y x = true) :
    g.add x (y :: l) = (g.join y x).map (· :: l) := by
  rw [add, if_pos h]

theorem add_cons_other {x y : α} {l : List α} (h : g.same y x = false) :
    g.add x (y :: l) = (g.add x l).map (y :: ·) := by
  rw [add, h, if_neg Bool.false_ne_true]

theorem same_congr_right {x y : α} (h : g.same x y = true) (z : α) : g.same z x = g.same z y := by
  rw [g.same_comm z x, g.same_comm z y, g.same_congr h]

theorem same_join_right {x y z : α} (h : g.join x y = some z) (w : α) :
    g.same w z = g.same w x := by
  rw [g.same_comm w z, g.same_comm w x, g.same_join h]

theorem addAll_append (l xs ys : List α) :
    g.addAll l (xs ++ ys) = (g.addAll l xs).bind (g.addAll · ys) := by
  induction xs generalizing l with
  | nil => rfl
  | cons x xs ih => simp only [List.cons_append, addAll, ih, Option.bind_assoc]

theorem add_joined_same {w x y : α} {l : List α} (h : g.same w y = true) :
    ((g.join w x).bind fun v => g.add y (v :: l)) =
      ((g.join w x).bind (g.join · y)).map (· :: l) := by
  rw [Option.map_bind]
  apply Option.bind_congr
  intro v hv
  exact add_cons_same ((g.same_join hv y).trans h)

theorem add_joined_other {w x y : α} {l : List α} (h : g.same w y = false) :
    ((g.join w x).bind fun v => g.add y (v :: l)) =
      (g.join w x).bind fun v => (g.add y l).map (v :: ·) :=
  Option.bind_congr fun _ hv => add_cons_other ((g.same_join hv y).trans h)

/-- An item joined beforehand arrives as if it had been added afterwards. -/
theorem add_join {x y : α} (h : g.same x y = true) (l : List α) :
    (g.join x y).bind (g.add · l) = (g.add x l).bind (g.add y) := by
  induction l with
  | nil =>
    rw [add, Option.bind_some, add_cons_same h, Option.map_eq_bind]
    rfl
  | cons z l ih =>
    cases hz : g.same z x with
    | true =>
      have hy : g.same z y = true := (same_congr_right h z) ▸ hz
      have hleft : (g.join x y).bind (g.add · (z :: l)) =
          ((g.join x y).bind (g.join z)).map (· :: l) := by
        rw [Option.map_bind]
        apply Option.bind_congr
        intro w hw
        exact add_cons_same ((same_join_right hw z).trans hz)
      rw [hleft, ← g.join_assoc, add_cons_same hz, Option.bind_map]
      exact (add_joined_same hy).symm
    | false =>
      have hy : g.same z y = false := (same_congr_right h z) ▸ hz
      have hleft : (g.join x y).bind (g.add · (z :: l)) =
          ((g.join x y).bind (g.add · l)).map (z :: ·) := by
        rw [Option.map_bind]
        apply Option.bind_congr
        intro w hw
        exact add_cons_other ((same_join_right hw z).trans hz)
      rw [hleft, ih, add_cons_other hz, Option.bind_map, Option.map_bind]
      apply Option.bind_congr
      intro w _
      exact (add_cons_other hy).symm

theorem addAll_join {x y z : α} (h : g.same x y = true) (hz : g.join x y = some z)
    (l xs : List α) : g.addAll l (x :: y :: xs) = g.addAll l (z :: xs) := by
  have hadd := add_join h l
  rw [hz, Option.bind_some] at hadd
  simp only [addAll]
  rw [← Option.bind_assoc, ← hadd]

theorem any_same_add {x : α} {l l' : List α} (h : g.add x l = some l') (w : α) :
    l'.any (g.same · w) = (l.any (g.same · w) || g.same x w) := by
  induction l generalizing l' with
  | nil =>
    cases h
    simp only [List.any_cons, List.any_nil, Bool.or_false, Bool.false_or]
  | cons y l ih =>
    cases hy : g.same y x with
    | true =>
      rw [add_cons_same hy] at h
      obtain ⟨v, hv, rfl⟩ := Option.map_eq_some_iff.1 h
      rw [List.any_cons, List.any_cons, g.same_join hv, ← g.same_congr hy, Bool.or_right_comm,
        Bool.or_self]
    | false =>
      rw [add_cons_other hy] at h
      obtain ⟨l'', hl, rfl⟩ := Option.map_eq_some_iff.1 h
      rw [List.any_cons, List.any_cons, ih hl, Bool.or_assoc]

theorem any_same_addAll {l xs l' : List α} (h : g.addAll l xs = some l') (w : α) :
    l'.any (g.same · w) = (l.any (g.same · w) || xs.any (g.same · w)) := by
  induction xs generalizing l with
  | nil =>
    cases h
    rw [List.any_nil, Bool.or_false]
  | cons x xs ih =>
    obtain ⟨m, hm, hrest⟩ := Option.bind_eq_some_iff.1 h
    rw [ih hrest, any_same_add hm, List.any_cons, Bool.or_assoc]

/-- Additions commute once an item of the first one's thing is there. The join has to be blind to
their order only if both describe that thing. -/
theorem add_comm {x y : α} {l : List α} (h : l.any (g.same · x) = true)
    (hc : g.same x y = true → g.RightComm) :
    (g.add x l).bind (g.add y) = (g.add y l).bind (g.add x) := by
  induction l with
  | nil => cases h
  | cons w l ih =>
    cases hwx : g.same w x with
    | true =>
      rw [add_cons_same hwx, Option.bind_map]
      cases hwy : g.same w y with
      | true =>
        have hxy : g.same x y = true := (g.same_congr hwx y).symm.trans hwy
        rw [add_cons_same hwy, Option.bind_map]
        refine (add_joined_same hwy).trans (Eq.trans ?_ (add_joined_same hwx).symm)
        rw [hc hxy]
      | false =>
        rw [add_cons_other hwy, Option.bind_map]
        refine (add_joined_other hwy).trans ?_
        simp only [Option.map_eq_bind, Function.comp_def, add_cons_same hwx]
        exact Option.bind_comm _ _
    | false =>
      have hl : l.any (g.same · x) = true := by rwa [List.any_cons, hwx, Bool.false_or] at h
      rw [add_cons_other hwx, Option.bind_map]
      cases hwy : g.same w y with
      | true =>
        rw [add_cons_same hwy, Option.bind_map]
        refine Eq.trans ?_ (add_joined_other hwx).symm
        simp only [Option.map_eq_bind, Function.comp_def, add_cons_same hwy]
        exact Option.bind_comm _ _
      | false =>
        rw [add_cons_other hwy, Option.bind_map]
        simp only [Function.comp_def, add_cons_other hwx, add_cons_other hwy]
        have hcons := congrArg (Option.map (w :: ·)) (ih hl)
        rwa [Option.map_bind, Option.map_bind] at hcons

theorem add_addAll {x : α} {l xs : List α} (h : l.any (g.same · x) = true)
    (hc : ∀ y ∈ xs, g.same x y = true → g.RightComm) :
    (g.add x l).bind (g.addAll · xs) = (g.addAll l xs).bind (g.add x) := by
  induction xs generalizing l with
  | nil => simp only [addAll, Option.bind_some, Option.bind_fun_some]
  | cons y xs ih =>
    simp only [addAll]
    rw [← Option.bind_assoc, add_comm h (hc y List.mem_cons_self), Option.bind_assoc,
      Option.bind_assoc]
    refine Option.bind_congr fun l' hl => ih ?_ fun z hz => hc z (List.mem_cons_of_mem y hz)
    rw [any_same_add hl, h, Bool.true_or]

theorem addAll_add {x : α} {l m : List α} (hm : g.RightComm ∨ g.Distinct m) :
    (g.add x m).bind (g.addAll l) = (g.addAll l m).bind (g.add x) := by
  induction m generalizing l with
  | nil => simp only [add, addAll, Option.bind_some, Option.bind_fun_some]
  | cons y m ih =>
    have hm' : g.RightComm ∨ g.Distinct m := hm.imp_right fun h => (List.pairwise_cons.1 h).2
    cases hy : g.same y x with
    | true =>
      have hc : ∀ z ∈ m, g.same x z = true → g.RightComm := by
        intro z hz hxz
        rcases hm with hr | hd
        · exact hr
        · have hyz := (List.pairwise_cons.1 hd).1 z hz
          rw [g.same_congr hy, hxz] at hyz
          cases hyz
      rw [add_cons_same hy, Option.bind_map]
      simp only [Function.comp_def, addAll]
      rw [← Option.bind_assoc, add_join hy, Option.bind_assoc, Option.bind_assoc]
      refine Option.bind_congr fun l' hl => add_addAll ?_ hc
      rw [any_same_add hl, hy, Bool.or_true]
    | false =>
      rw [add_cons_other hy, Option.bind_map]
      simp only [Function.comp_def, addAll]
      rw [Option.bind_comm, Option.bind_assoc]
      apply Option.bind_congr
      intro l' _
      exact ih hm'

theorem Distinct.add {x : α} {l l' : List α} (hd : g.Distinct l) (h : g.add x l = some l') :
    g.Distinct l' := by
  induction l generalizing l' with
  | nil =>
    cases h
    exact List.pairwise_singleton _ _
  | cons y l ih =>
    obtain ⟨hy, hl⟩ := List.pairwise_cons.1 hd
    cases hyx : g.same y x with
    | true =>
      rw [add_cons_same hyx] at h
      obtain ⟨v, hv, rfl⟩ := Option.map_eq_some_iff.1 h
      exact List.pairwise_cons.2 ⟨fun z hz => (g.same_join hv z).trans (hy z hz), hl⟩
    | false =>
      rw [add_cons_other hyx] at h
      obtain ⟨m, hm, rfl⟩ := Option.map_eq_some_iff.1 h
      refine List.pairwise_cons.2 ⟨fun z hz => Bool.eq_false_iff.2 fun hyz => ?_, ih hl hm⟩
      have hany : m.any (g.same · y) = true := List.any_eq_true.2 ⟨z, hz, g.same_comm z y ▸ hyz⟩
      rw [any_same_add hm, g.same_comm x y, hyx, Bool.or_false] at hany
      obtain ⟨w, hw, hs⟩ := List.any_eq_true.1 hany
      rw [g.same_comm w y, hy w hw] at hs
      cases hs

theorem Distinct.addAll {l xs l' : List α} (hd : g.Distinct l) (h : g.addAll l xs = some l') :
    g.Distinct l' := by
  induction xs generalizing l with
  | nil =>
    cases h
    exact hd
  | cons x xs ih =>
    obtain ⟨m, hm, hl⟩ := Option.bind_eq_some_iff.1 h
    exact ih (hd.add hm) hl

/-- Unions can be regrouped. -/
theorem addAll_assoc {l m : List α} (hm : g.RightComm ∨ g.Distinct m) (xs : List α) :
    (g.addAll l m).bind (g.addAll · xs) = (g.addAll m xs).bind (g.addAll l) := by
  induction xs generalizing m with
  | nil => simp only [addAll, Option.bind_some, Option.bind_fun_some]
  | cons x xs ih =>
    simp only [addAll]
    rw [← Option.bind_assoc, ← addAll_add hm, Option.bind_assoc, Option.bind_assoc]
    apply Option.bind_congr
    intro m' hx
    exact ih (hm.imp_right fun hd => hd.add hx)

end Gathering
end GirBind
