import GirBind.Proofs.Gathering.Basic

namespace GirBind.Gathering

variable {α : Type u} (g : Gathering α)

/-- A change of items that leaves some of them out, and either all or none that describe one thing.
It does not get in the way of a join. -/
structure Sifts (f : α → Option α) : Prop where
  same : ∀ {x x'}, f x = some x' → ∀ y, g.same x' y = g.same x y
  drop : ∀ {x y}, g.same x y = true → f x = none → f y = none
  join : ∀ {x y z x' y'}, g.same x y = true → g.join x y = some z → f x = some x' →
    f y = some y' → ∃ z', f z = some z' ∧ g.join x' y' = some z'

variable {g} {f : α → Option α} {l m xs : List α}

theorem Sifts.add_dropped (hf : g.Sifts f) {x : α} (hx : f x = none) (h : g.add x l = some m) :
    m.filterMap f = l.filterMap f := by
  induction l generalizing m with
  | nil =>
    cases h
    exact List.filterMap_cons_none hx
  | cons y l ih =>
    cases hyx : g.same y x with
    | true =>
      rw [add_cons_same hyx] at h
      obtain ⟨z, hz, rfl⟩ := Option.map_eq_some_iff.1 h
      have hxy : g.same x y = true := (g.same_comm x y).trans hyx
      have hyz : g.same y z = true := (same_join_right hz y).trans (g.same_refl y)
      have hy : f y = none := hf.drop hxy hx
      rw [List.filterMap_cons_none hy, List.filterMap_cons_none (hf.drop hyz hy)]
    | false =>
      rw [add_cons_other hyx] at h
      obtain ⟨k, hk, rfl⟩ := Option.map_eq_some_iff.1 h
      rw [List.filterMap_cons, List.filterMap_cons, ih hk]

theorem Sifts.add_kept (hf : g.Sifts f) {x x' : α} (hx : f x = some x')
    (h : g.add x l = some m) : g.add x' (l.filterMap f) = some (m.filterMap f) := by
  induction l generalizing m with
  | nil =>
    cases h
    rw [List.filterMap_cons_some hx]
    rfl
  | cons y l ih =>
    have hsame {y' : α} (hy : f y = some y') : g.same y' x' = g.same y x := by
      rw [hf.same hy, g.same_comm, hf.same hx, g.same_comm]
    cases hyx : g.same y x with
    | true =>
      rw [add_cons_same hyx] at h
      obtain ⟨z, hz, rfl⟩ := Option.map_eq_some_iff.1 h
      cases hy : f y with
      | none =>
        rw [hf.drop hyx hy] at hx
        cases hx
      | some y' =>
        obtain ⟨z', hz', hjoin⟩ := hf.join hyx hz hy hx
        rw [List.filterMap_cons_some hy, List.filterMap_cons_some hz',
          add_cons_same ((hsame hy).trans hyx), hjoin, Option.map_some]
    | false =>
      rw [add_cons_other hyx] at h
      obtain ⟨k, hk, rfl⟩ := Option.map_eq_some_iff.1 h
      cases hy : f y with
      | none =>
        rw [List.filterMap_cons_none hy, List.filterMap_cons_none hy]
        exact ih hk
      | some y' =>
        rw [List.filterMap_cons_some hy, List.filterMap_cons_some hy,
          add_cons_other ((hsame hy).trans hyx), ih hk, Option.map_some]

theorem Sifts.addAll (hf : g.Sifts f) (h : g.addAll l xs = some m) :
    g.addAll (l.filterMap f) (xs.filterMap f) = some (m.filterMap f) := by
  induction xs generalizing l with
  | nil =>
    cases h
    rfl
  | cons x xs ih =>
    obtain ⟨k, hk, hm⟩ := Option.bind_eq_some_iff.1 h
    cases hx : f x with
    | none =>
      rw [List.filterMap_cons_none hx, ← hf.add_dropped hx hk]
      exact ih hm
    | some x' =>
      rw [List.filterMap_cons_some hx, Gathering.addAll, hf.add_kept hx hk, Option.bind_some]
      exact ih hm

end GirBind.Gathering
