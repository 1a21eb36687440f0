import GirBind.Proofs.Gathering.Basic

namespace GirBind.Gathering

variable {α : Type u} {g : Gathering α}

theorem find?_cons_same {w y : α} {l : List α} (h : g.same y w = true) :
    g.find? w (y :: l) = some y :=
  List.find?_cons_of_pos h

theorem find?_cons_other {w y : α} {l : List α} (h : g.same y w = false) :
    g.find? w (y :: l) = g.find? w l :=
  List.find?_cons_of_neg (Bool.eq_false_iff.1 h)

theorem find?_of_mem {x : α} {l : List α} (hd : g.Distinct l) (hx : x ∈ l) :
    g.find? x l = some x := by
  induction l with
  | nil => cases hx
  | cons y l ih =>
    obtain ⟨hy, hl⟩ := List.pairwise_cons.1 hd
    rcases List.mem_cons.1 hx with rfl | hx
    · exact find?_cons_same (g.same_refl x)
    · rw [find?_cons_other (hy x hx), ih hl hx]

theorem find?_add_other {x w : α} {l l' : List α} (h : g.add x l = some l')
    (hw : g.same x w = false) : g.find? w l' = g.find? w l := by
  induction l generalizing l' with
  | nil =>
    cases h
    exact find?_cons_other hw
  | cons y l ih =>
    cases hy : g.same y x with
    | true =>
      rw [add_cons_same hy] at h
      obtain ⟨v, hv, rfl⟩ := Option.map_eq_some_iff.1 h
      have hyw : g.same y w = false := (g.same_congr hy w).trans hw
      rw [find?_cons_other hyw, find?_cons_other ((g.same_join hv w).trans hyw)]
    | false =>
      rw [add_cons_other hy] at h
      obtain ⟨m, hm, rfl⟩ := Option.map_eq_some_iff.1 h
      cases hyw : g.same y w with
      | true => rw [find?_cons_same hyw, find?_cons_same hyw]
      | false => rw [find?_cons_other hyw, find?_cons_other hyw, ih hm]

theorem find?_add_same {x w : α} {l l' : List α} (h : g.add x l = some l')
    (hw : g.same x w = true) :
    ∃ v, g.find? w l' = some v ∧ (g.find? w l).elim (some x) (g.join · x) = some v := by
  induction l generalizing l' with
  | nil =>
    cases h
    exact ⟨x, find?_cons_same hw, rfl⟩
  | cons y l ih =>
    cases hy : g.same y x with
    | true =>
      rw [add_cons_same hy] at h
      obtain ⟨v, hv, rfl⟩ := Option.map_eq_some_iff.1 h
      have hyw : g.same y w = true := (g.same_congr hy w).trans hw
      refine ⟨v, find?_cons_same ((g.same_join hv w).trans hyw), ?_⟩
      rw [find?_cons_same hyw]
      exact hv
    | false =>
      rw [add_cons_other hy] at h
      obtain ⟨m, hm, rfl⟩ := Option.map_eq_some_iff.1 h
      have hyw : g.same y w = false := (same_congr_right hw y).symm.trans hy
      rw [find?_cons_other hyw, find?_cons_other hyw]
      exact ih hm

/-- In a union the item of each thing is made from all items of that thing, in order. -/
theorem find?_addAll {l xs l' : List α} (h : g.addAll l xs = some l') (w : α) :
    g.find? w l' = g.joinAll ((g.find? w l).toList ++ xs.filter (g.same · w)) := by
  induction xs generalizing l with
  | nil =>
    rw [← Option.some.inj h]
    cases hf : g.find? w l with
    | none => rfl
    | some y => rfl
  | cons x xs ih =>
    obtain ⟨m, hm, hl⟩ := Option.bind_eq_some_iff.1 h
    rw [ih hl]
    cases hx : g.same x w with
    | true =>
      obtain ⟨v, hv, hj⟩ := find?_add_same hm hx
      rw [hv, List.filter_cons_of_pos (p := (g.same · w)) hx]
      cases hf : g.find? w l with
      | none =>
        rw [hf] at hj
        cases hj
        rfl
      | some y =>
        rw [hf] at hj
        change g.joinAll (v :: _) = g.joinAll (y :: x :: _)
        simp only [joinAll, List.foldlM_cons]
        rw [show g.join y x = some v from hj]
        rfl
    | false => rw [find?_add_other hm hx,
        List.filter_cons_of_neg (p := (g.same · w)) (Bool.eq_false_iff.1 hx)]

theorem countP_add_other {x w : α} {l l' : List α} (h : g.add x l = some l')
    (hw : g.same x w = false) : l'.countP (g.same · w) = l.countP (g.same · w) := by
  induction l generalizing l' with
  | nil =>
    cases h
    exact List.countP_cons_of_neg (Bool.eq_false_iff.1 hw)
  | cons y l ih =>
    cases hy : g.same y x with
    | true =>
      rw [add_cons_same hy] at h
      obtain ⟨v, hv, rfl⟩ := Option.map_eq_some_iff.1 h
      rw [List.countP_cons, List.countP_cons, g.same_join hv]
    | false =>
      rw [add_cons_other hy] at h
      obtain ⟨m, hm, rfl⟩ := Option.map_eq_some_iff.1 h
      rw [List.countP_cons, List.countP_cons, ih hm]

theorem countP_add_le {x w : α} {l l' : List α} (h : g.add x l = some l')
    (hl : l.countP (g.same · w) ≤ 1) : l'.countP (g.same · w) ≤ 1 := by
  induction l generalizing l' with
  | nil =>
    cases h
    exact List.countP_le_length
  | cons y l ih =>
    cases hy : g.same y x with
    | true =>
      rw [add_cons_same hy] at h
      obtain ⟨v, hv, rfl⟩ := Option.map_eq_some_iff.1 h
      rwa [List.countP_cons, g.same_join hv, ← List.countP_cons]
    | false =>
      rw [add_cons_other hy] at h
      obtain ⟨m, hm, rfl⟩ := Option.map_eq_some_iff.1 h
      cases hyw : g.same y w with
      | true =>
        have hxw : g.same x w = false := by
          rw [g.same_comm, ← g.same_congr hyw, hy]
        rwa [List.countP_cons, countP_add_other hm hxw, ← List.countP_cons]
      | false =>
        rw [List.countP_cons_of_neg (p := (g.same · w)) (Bool.eq_false_iff.1 hyw)] at hl ⊢
        exact ih hm hl

theorem countP_addAll_le {l xs l' : List α} (h : g.addAll l xs = some l') (w : α)
    (hl : l.countP (g.same · w) ≤ 1) : l'.countP (g.same · w) ≤ 1 := by
  induction xs generalizing l with
  | nil =>
    cases h
    exact hl
  | cons x xs ih =>
    obtain ⟨m, hm, hx⟩ := Option.bind_eq_some_iff.1 h
    exact ih hx (countP_add_le hm hl)

theorem toList_find? {w : α} {l : List α} (h : l.countP (g.same · w) ≤ 1) :
    (g.find? w l).toList = l.filter (g.same · w) := by
  rw [find?, ← List.head?_filter]
  rw [List.countP_eq_length_filter] at h
  cases hl : l.filter (g.same · w) with
  | nil => rfl
  | cons y ys =>
    rw [hl, List.length_cons] at h
    rw [List.length_eq_zero_iff.1 (Nat.le_zero.1 (Nat.le_of_succ_le_succ h))]
    rfl

theorem find?_of_countP_le {x : α} {l : List α} (h : l.countP (g.same · x) ≤ 1) (hx : x ∈ l) :
    g.find? x l = some x := by
  rw [← Option.mem_toList, toList_find? h]
  exact List.mem_filter.2 ⟨hx, g.same_refl x⟩

theorem forall_mem_add {P : α → Prop} (hjoin : ∀ {x y z}, g.join x y = some z → P x → P y → P z)
    {x : α} {l l' : List α} (hl : ∀ y ∈ l, P y) (hx : P x) (h : g.add x l = some l') :
    ∀ y ∈ l', P y := by
  induction l generalizing l' with
  | nil =>
    cases h
    exact List.forall_mem_singleton.2 hx
  | cons w l ih =>
    obtain ⟨hw, hl⟩ := List.forall_mem_cons.1 hl
    cases hwx : g.same w x with
    | true =>
      rw [add_cons_same hwx] at h
      obtain ⟨v, hv, rfl⟩ := Option.map_eq_some_iff.1 h
      exact List.forall_mem_cons.2 ⟨hjoin hv hw hx, hl⟩
    | false =>
      rw [add_cons_other hwx] at h
      obtain ⟨m, hm, rfl⟩ := Option.map_eq_some_iff.1 h
      exact List.forall_mem_cons.2 ⟨hw, ih hl hm⟩

theorem forall_mem_addAll {P : α → Prop}
    (hjoin : ∀ {x y z}, g.join x y = some z → P x → P y → P z) {l xs l' : List α}
    (hl : ∀ y ∈ l, P y) (hxs : ∀ x ∈ xs, P x) (h : g.addAll l xs = some l') :
    ∀ y ∈ l', P y := by
  induction xs generalizing l with
  | nil =>
    cases h
    exact hl
  | cons x xs ih =>
    obtain ⟨hx, hxs⟩ := List.forall_mem_cons.1 hxs
    obtain ⟨m, hm, h⟩ := Option.bind_eq_some_iff.1 h
    exact ih (forall_mem_add hjoin hl hx hm) hxs h

theorem joinAll_eq_of_join {β : Type v} {f : α → β}
    (hf : ∀ {x y z}, g.join x y = some z → f z = f x) {x z : α} {xs : List α}
    (h : g.joinAll (x :: xs) = some z) : f z = f x := by
  induction xs generalizing x with
  | nil =>
    cases h
    rfl
  | cons y xs ih =>
    obtain ⟨w, hw, hrest⟩ := Option.bind_eq_some_iff.1 h
    exact (ih hrest).trans (hf hw)

theorem addAll_of_same {x : α} {xs : List α} (h : ∀ y ∈ xs, g.same x y = true) :
    g.addAll [] (x :: xs) = (g.joinAll (x :: xs)).map ([·]) := by
  induction xs generalizing x with
  | nil => rfl
  | cons y xs ih =>
    obtain ⟨hy, hxs⟩ := List.forall_mem_cons.1 h
    have hstep : g.addAll [] (x :: y :: xs) = ((g.join x y).map ([·])).bind (g.addAll · xs) :=
      congrArg (Option.bind · (g.addAll · xs)) (add_cons_same hy)
    rw [hstep, Option.bind_map]
    refine Eq.trans ?_ Option.map_bind.symm
    apply Option.bind_congr
    intro z hz
    exact ih fun w hw => (g.same_join hz w).trans (hxs w hw)

end GirBind.Gathering
