import GirBind.Proofs.Gathering.Lookup

namespace GirBind.Gathering

variable {α : Type u} (g : Gathering α)

/-- An item that adds nothing to itself, nor to anything that it came first in. -/
structure Regular (x : α) : Prop where
  self : g.join x x = some x
  again : ∀ {y z}, g.join x y = some z → g.join z x = some z

def Absorbs (l m : List α) : Prop := ∀ x ∈ m, g.add x l = some l

variable {g} {x y : α} {l l' m xs : List α}

theorem Regular.join_right (hx : g.Regular x) {w v : α} (h : g.join w x = some v) :
    g.join v x = some v := by
  have hassoc := g.join_assoc w x x
  rwa [h, hx.self, Option.bind_some, Option.bind_some, h] at hassoc

theorem Regular.join_grown (hx : g.Regular x) {w v : α} (hw : g.join w x = some w)
    (hv : g.join w y = some v) : g.join v x = some v := by
  have hwxy : (g.join x y).bind (g.join w) = some v := by
    rw [← g.join_assoc, hw, Option.bind_some, hv]
  obtain ⟨z, hz, hwz⟩ := Option.bind_eq_some_iff.1 hwxy
  have hassoc := g.join_assoc w z x
  rwa [hwz, hx.again hz, Option.bind_some, Option.bind_some, hwz] at hassoc

theorem add_eq_self_of_find? {w : α} (h : g.find? x l = some w) (hw : g.join w x = some w) :
    g.add x l = some l := by
  induction l with
  | nil => cases h
  | cons y l ih =>
    cases hy : g.same y x with
    | true =>
      rw [find?_cons_same hy] at h
      cases h
      rw [add_cons_same hy, hw]
      rfl
    | false =>
      rw [find?_cons_other hy] at h
      rw [add_cons_other hy, ih h]
      rfl

theorem find?_of_add_eq_self (h : g.add x l = some l) :
    ∃ w, g.find? x l = some w ∧ g.join w x = some w := by
  obtain ⟨w, hw, hj⟩ := find?_add_same h (g.same_refl x)
  rw [hw] at hj
  exact ⟨w, hw, hj⟩

theorem Regular.add_twice (hx : g.Regular x) (h : g.add x l = some l') : g.add x l' = some l' := by
  obtain ⟨v, hv, hj⟩ := find?_add_same h (g.same_refl x)
  apply add_eq_self_of_find? hv
  cases hf : g.find? x l with
  | none =>
    rw [hf] at hj
    cases hj
    exact hx.self
  | some w =>
    rw [hf] at hj
    exact hx.join_right hj

theorem Regular.add_grown (hx : g.Regular x) (h : g.add x l = some l)
    (hy : g.add y l = some l') : g.add x l' = some l' := by
  obtain ⟨w, hw, hj⟩ := find?_of_add_eq_self h
  cases hyx : g.same y x with
  | true =>
    obtain ⟨v, hv, hwv⟩ := find?_add_same hy hyx
    rw [hw] at hwv
    exact add_eq_self_of_find? hv (hx.join_grown hj hwv)
  | false =>
    rw [← find?_add_other hy hyx] at hw
    exact add_eq_self_of_find? hw hj

theorem Regular.addAll_grown (hx : g.Regular x) (h : g.add x l = some l)
    (hxs : g.addAll l xs = some l') : g.add x l' = some l' := by
  induction xs generalizing l with
  | nil =>
    cases hxs
    exact h
  | cons y xs ih =>
    obtain ⟨m, hm, hl⟩ := Option.bind_eq_some_iff.1 hxs
    exact ih (hx.add_grown h hm) hl

/-- An item that came before may come again. -/
theorem Regular.addAll_insert (hx : g.Regular x) (before mid after : List α) :
    g.addAll l (before ++ x :: (mid ++ x :: after)) =
      g.addAll l (before ++ x :: (mid ++ after)) := by
  simp only [addAll_append, addAll]
  refine Option.bind_congr fun l₁ _ => Option.bind_congr fun l₂ h₂ =>
    Option.bind_congr fun l₃ h₃ => ?_
  rw [hx.addAll_grown (hx.add_twice h₂) h₃, Option.bind_some]

theorem Absorbs.addAll (h : g.Absorbs l m) : g.addAll l m = some l := by
  induction m with
  | nil => rfl
  | cons x m ih =>
    obtain ⟨hx, hm⟩ := List.forall_mem_cons.1 h
    rw [Gathering.addAll, hx, Option.bind_some, ih hm]

theorem Absorbs.grown (h : g.Absorbs l m) (hm : ∀ x ∈ m, g.Regular x)
    (hxs : g.addAll l xs = some l') : g.Absorbs l' m :=
  fun x hx => (hm x hx).addAll_grown (h x hx) hxs

theorem Distinct.absorbs (hd : g.Distinct l) (h : ∀ x ∈ l, g.Regular x) : g.Absorbs l l :=
  fun x hx => add_eq_self_of_find? (find?_of_mem hd hx) (h x hx).self

end GirBind.Gathering
