import GirBind.Proofs.Gathering.Basic

namespace GirBind.Gathering

variable {α : Type u} {g : Gathering α}

/-- Which items of one thing can be joined: those that fit. What fits an item fits everything that
the item is made from. -/
structure Decides (g : Gathering α) (Fits : α → α → Prop) : Prop where
  isSome_join : ∀ {x y}, g.same x y = true → ((g.join x y).isSome ↔ Fits x y)
  join : ∀ {x y z w}, g.same x y = true → g.same x w = true → g.join x y = some z →
    (Fits z w ↔ Fits x w ∧ Fits y w)

variable {Fits : α → α → Prop}

def AllFit (g : Gathering α) (Fits : α → α → Prop) (l : List α) (x : α) : Prop :=
  ∀ y ∈ l, g.same y x = true → Fits y x

theorem allFit_cons {l : List α} {x y : α} :
    g.AllFit Fits (y :: l) x ↔ (g.same y x = true → Fits y x) ∧ g.AllFit Fits l x :=
  List.forall_mem_cons

theorem Decides.isSome_add (h : g.Decides Fits) {l : List α} (hl : g.Distinct l) (x : α) :
    (g.add x l).isSome ↔ g.AllFit Fits l x := by
  induction l with
  | nil => exact ⟨fun _ _ hy => absurd hy List.not_mem_nil, fun _ => rfl⟩
  | cons y l ih =>
    obtain ⟨hy, hl⟩ := List.pairwise_cons.1 hl
    cases hyx : g.same y x with
    | true =>
      -- no two items of the list are of one thing, so only the head has to fit
      have hother : g.AllFit Fits l x := by
        intro z hz hzx
        rw [g.same_comm z x, ← g.same_congr hyx, hy z hz] at hzx
        cases hzx
      rw [add_cons_same hyx, Option.isSome_map, h.isSome_join hyx, allFit_cons, hyx]
      exact ⟨fun hfits => ⟨fun _ => hfits, hother⟩, fun hfits => hfits.1 rfl⟩
    | false =>
      rw [add_cons_other hyx, Option.isSome_map, ih hl, allFit_cons, hyx]
      exact ⟨fun hfits => ⟨fun hfalse => (Bool.false_ne_true hfalse).elim, hfits⟩, And.right⟩

theorem Decides.allFit_add (h : g.Decides Fits) {l l' : List α} {x : α}
    (hx : g.add x l = some l') (w : α) :
    g.AllFit Fits l' w ↔ g.AllFit Fits l w ∧ (g.same x w = true → Fits x w) := by
  induction l generalizing l' with
  | nil =>
    cases hx
    rw [allFit_cons, and_comm]
  | cons y l ih =>
    cases hyx : g.same y x with
    | true =>
      rw [add_cons_same hyx] at hx
      obtain ⟨v, hv, rfl⟩ := Option.map_eq_some_iff.1 hx
      rw [allFit_cons, allFit_cons, g.same_join hv, ← g.same_congr hyx, and_right_comm]
      refine and_congr_left fun _ => ?_
      cases hyw : g.same y w with
      | true => simp only [true_imp_iff, h.join hyx hyw hv]
      | false => simp only [Bool.false_eq_true, false_imp_iff, and_self]
    | false =>
      rw [add_cons_other hyx] at hx
      obtain ⟨m, hm, rfl⟩ := Option.map_eq_some_iff.1 hx
      rw [allFit_cons, allFit_cons, ih hm, and_assoc]

/-- A union succeeds if all items of one thing fit each other. -/
theorem Decides.isSome_addAll (h : g.Decides Fits) {l : List α} (hl : g.Distinct l)
    (xs : List α) : (g.addAll l xs).isSome ↔
      (∀ x ∈ xs, g.AllFit Fits l x) ∧ xs.Pairwise fun x y => g.same x y = true → Fits x y := by
  induction xs generalizing l with
  | nil => exact ⟨fun _ => ⟨fun _ hx => absurd hx List.not_mem_nil, .nil⟩, fun _ => rfl⟩
  | cons x xs ih =>
    rw [addAll, List.forall_mem_cons, List.pairwise_cons, ← h.isSome_add hl]
    cases hx : g.add x l with
    | none => simp only [Option.bind_none, Option.isSome_none, Bool.false_eq_true, false_and]
    | some m =>
      have hfit : (∀ y ∈ xs, g.AllFit Fits m y) ↔
          (∀ y ∈ xs, g.AllFit Fits l y) ∧ ∀ y ∈ xs, g.same x y = true → Fits x y := by
        simp only [h.allFit_add hx]
        exact ⟨fun hm => ⟨fun y hy => (hm y hy).1, fun y hy => (hm y hy).2⟩,
          fun hm y hy => ⟨hm.1 y hy, hm.2 y hy⟩⟩
      rw [Option.bind_some, ih (hl.add hx), hfit, Option.isSome_some]
      simp only [true_and, and_assoc]

theorem eraseDups_append_cons {κ : Type v} [DecidableEq κ] {ks : List κ} {k : κ} (h : k ∈ ks)
    (ls : List κ) : (ks ++ k :: ls).eraseDups = (ks ++ ls).eraseDups := by
  have hk : (k :: ls).removeAll ks = ls.removeAll ks := by
    rw [List.removeAll, List.removeAll]
    apply List.filter_cons_of_neg
    rw [Bool.not_eq_true, Bool.not_eq_false']
    exact List.elem_eq_true_of_mem h
  rw [List.eraseDups_append, List.eraseDups_append, hk]

theorem eraseDups_of_nodup {κ : Type v} [DecidableEq κ] {ks : List κ} (h : ks.Nodup) :
    ks.eraseDups = ks := by
  induction ks with
  | nil => rfl
  | cons k ks ih =>
    obtain ⟨hk, hks⟩ := List.nodup_cons.1 h
    have hother : ks.filter (fun l => !l == k) = ks := by
      apply List.filter_eq_self.2
      intro l hl
      rw [Bool.not_eq_true', beq_eq_false_iff_ne]
      rintro rfl
      exact hk hl
    rw [List.eraseDups_cons, hother, ih hks]

section

variable {κ : Type v} [DecidableEq κ] {key : α → κ}

theorem keys_add (hkey : ∀ x y, g.same x y = (key x == key y)) {l l' : List α} {x : α}
    (h : g.add x l = some l') :
    l'.map key = if key x ∈ l.map key then l.map key else l.map key ++ [key x] := by
  induction l generalizing l' with
  | nil =>
    cases h
    rfl
  | cons y l ih =>
    cases hyx : g.same y x with
    | true =>
      rw [add_cons_same hyx] at h
      obtain ⟨v, hv, rfl⟩ := Option.map_eq_some_iff.1 h
      have hvy : key v = key y := by
        have hsame := (g.same_join hv y).trans (g.same_refl y)
        rwa [hkey, beq_iff_eq] at hsame
      rw [hkey, beq_iff_eq] at hyx
      have hmem : key x ∈ (y :: l).map key := by
        rw [List.map_cons, hyx]
        exact List.mem_cons_self
      rw [if_pos hmem, List.map_cons, List.map_cons, hvy]
    | false =>
      rw [add_cons_other hyx] at h
      obtain ⟨m, hm, rfl⟩ := Option.map_eq_some_iff.1 h
      rw [hkey, beq_eq_false_iff_ne] at hyx
      have hmem : key x ∈ key y :: l.map key ↔ key x ∈ l.map key := by
        rw [List.mem_cons, or_iff_right fun he => hyx he.symm]
      rw [List.map_cons, List.map_cons, ih hm, List.cons_append]
      simp only [hmem]
      split
      case isTrue => rfl
      case isFalse => rfl

theorem keys_addAll (hkey : ∀ x y, g.same x y = (key x == key y)) {l xs l' : List α}
    (h : g.addAll l xs = some l') :
    (l'.map key).eraseDups = (l.map key ++ xs.map key).eraseDups := by
  induction xs generalizing l with
  | nil =>
    cases h
    rw [List.map_nil, List.append_nil]
  | cons x xs ih =>
    obtain ⟨m, hm, hxs⟩ := Option.bind_eq_some_iff.1 h
    rw [ih hxs, keys_add hkey hm, List.map_cons]
    split
    case isTrue hmem => rw [eraseDups_append_cons hmem]
    case isFalse => rw [List.append_assoc, List.singleton_append]

end

end GirBind.Gathering
