import GirBind.Proofs.Gathering.Basic

namespace GirBind.Gathering

variable {α : Type u} (g : Gathering α)

def meet (m : List α) (y : α) : Option α := (g.find? y m).elim (some y) (g.join y)

def meetAll (m : List α) : List α → Option (List α)
  | [] => some []
  | y :: l => (g.meet m y).bind fun v => (meetAll m l).map (v :: ·)

variable {g}

theorem meet_cons_same {x y : α} {m : List α} (h : g.same x y = true) :
    g.meet (x :: m) y = g.join y x := by
  rw [meet, find?, List.find?_cons_of_pos (p := (g.same · y)) h]
  rfl

theorem meet_cons_other {x y : α} {m : List α} (h : g.same x y = false) :
    g.meet (x :: m) y = g.meet m y := by
  rw [meet, find?, List.find?_cons_of_neg (p := (g.same · y)) (Bool.eq_false_iff.1 h)]
  rfl

theorem meet_of_forall_other {y : α} {m : List α} (h : ∀ x ∈ m, g.same x y = false) :
    g.meet m y = some y := by
  rw [meet, find?, List.find?_eq_none.2 fun x hx => Bool.eq_false_iff.1 (h x hx)]
  rfl

theorem meet_filter {y z : α} {m : List α} (h : g.same y z = false) :
    g.meet (m.filter fun x => !g.same x y) z = g.meet m z := by
  induction m with
  | nil => rfl
  | cons x m ih =>
    cases hxy : g.same x y with
    | true =>
      have hxz : g.same x z = false := (g.same_congr hxy z).trans h
      rw [List.filter_cons_of_neg (by simp only [hxy, Bool.not_true, Bool.false_eq_true,
        not_false_eq_true]), ih, meet_cons_other hxz]
    | false =>
      rw [List.filter_cons_of_pos (by simp only [hxy, Bool.not_false])]
      cases hxz : g.same x z with
      | true => rw [meet_cons_same hxz, meet_cons_same hxz]
      | false => rw [meet_cons_other hxz, meet_cons_other hxz, ih]

theorem meetAll_filter {y : α} {l m : List α} (h : ∀ z ∈ l, g.same y z = false) :
    g.meetAll (m.filter fun x => !g.same x y) l = g.meetAll m l := by
  induction l with
  | nil => rfl
  | cons z l ih =>
    obtain ⟨hz, hl⟩ := List.forall_mem_cons.1 h
    rw [meetAll, meetAll, meet_filter hz, ih hl]

theorem any_same_meetAll {l l' m : List α} (h : g.meetAll m l = some l') (w : α) :
    l'.any (g.same · w) = l.any (g.same · w) := by
  induction l generalizing l' with
  | nil =>
    cases h
    rfl
  | cons y l ih =>
    obtain ⟨v, hv, hl⟩ := Option.bind_eq_some_iff.1 h
    obtain ⟨k, hk, rfl⟩ := Option.map_eq_some_iff.1 hl
    have hy : g.same v w = g.same y w := by
      rw [meet] at hv
      cases hf : g.find? y m with
      | none =>
        rw [hf] at hv
        cases hv
        rfl
      | some x =>
        rw [hf] at hv
        exact g.same_join hv w
    rw [List.any_cons, List.any_cons, hy, ih hk]

theorem add_of_forall_other {x : α} {l : List α} (h : ∀ y ∈ l, g.same y x = false) :
    g.add x l = some (l ++ [x]) := by
  induction l with
  | nil => rfl
  | cons y l ih =>
    obtain ⟨hy, hl⟩ := List.forall_mem_cons.1 h
    rw [add_cons_other hy, ih hl]
    rfl

theorem addAll_of_distinct {l m : List α} (h : g.Distinct (l ++ m)) :
    g.addAll l m = some (l ++ m) := by
  induction m generalizing l with
  | nil => rw [addAll, List.append_nil]
  | cons x m ih =>
    have hx := (List.pairwise_append.1 h).2.2
    rw [addAll, add_of_forall_other fun y hy => hx y hy x List.mem_cons_self, Option.bind_some,
      ih (by rwa [List.append_assoc]), List.append_assoc]
    rfl

theorem addAll_cons {y : α} {l m : List α} (hm : g.Distinct m) :
    g.addAll (y :: l) m = (g.meet m y).bind fun v =>
      (g.addAll l (m.filter fun x => !g.same x y)).map (v :: ·) := by
  induction m generalizing y l with
  | nil => rfl
  | cons x m ih =>
    obtain ⟨hx, hm'⟩ := List.pairwise_cons.1 hm
    cases hyx : g.same y x with
    | true =>
      have hxy : g.same x y = true := (g.same_comm x y).trans hyx
      have hother : ∀ z ∈ m, g.same z y = false := by
        intro z hz
        rw [g.same_comm z y, g.same_congr hyx, hx z hz]
      have hfilter : (m.filter fun z => !g.same z y) = m :=
        List.filter_eq_self.2 fun z hz => by rw [hother z hz, Bool.not_false]
      rw [List.filter_cons_of_neg (by simp only [hxy, Bool.not_true, Bool.false_eq_true,
        not_false_eq_true]), hfilter, meet_cons_same hxy, addAll, add_cons_same hyx,
        Option.bind_map]
      apply Option.bind_congr
      intro v hv
      have hv' (z : α) : g.same z v = g.same z y := same_join_right hv z
      simp only [Function.comp_def, ih hm', hv', hfilter]
      rw [meet_of_forall_other fun z hz => (hv' z).trans (hother z hz)]
      rfl
    | false =>
      have hxy : g.same x y = false := (g.same_comm x y).trans hyx
      rw [List.filter_cons_of_pos (by simp only [hxy, Bool.not_false]), meet_cons_other hxy,
        addAll, add_cons_other hyx, Option.bind_map]
      simp only [Function.comp_def, ih hm', addAll, Option.map_bind]
      exact Option.bind_comm _ _

/-- A union in two passes: every item of the first list meets its counterpart in the second, and
what has no counterpart in the first list comes last. -/
theorem addAll_eq_meetAll {l m : List α} (hl : g.Distinct l) (hm : g.Distinct m) :
    g.addAll l m = (g.meetAll m l).map (· ++ m.filter fun x => !l.any (g.same · x)) := by
  induction l generalizing m with
  | nil =>
    have hnew : (m.filter fun x => !([] : List α).any (g.same · x)) = m :=
      List.filter_eq_self.2 fun _ _ => rfl
    rw [addAll_of_distinct hm, hnew]
    rfl
  | cons y l ih =>
    obtain ⟨hy, hl'⟩ := List.pairwise_cons.1 hl
    have hnew : ((m.filter fun x => !g.same x y).filter fun x => !l.any (g.same · x)) =
        m.filter fun x => !(y :: l).any (g.same · x) := by
      rw [List.filter_filter]
      apply List.filter_congr
      intro x _
      rw [List.any_cons, Bool.not_or, Bool.and_comm, g.same_comm x y]
    rw [addAll_cons hm, ih hl' (hm.sublist List.filter_sublist), meetAll_filter hy, hnew, meetAll,
      Option.map_bind]
    apply Option.bind_congr
    intro v _
    rw [Function.comp_apply, Option.map_map, Option.map_map]
    rfl

end GirBind.Gathering
