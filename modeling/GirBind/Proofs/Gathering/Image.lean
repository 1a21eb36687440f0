import GirBind.Proofs.Gathering.Pass

namespace GirBind.Gathering

variable {α : Type u} {β : Type v} (g : Gathering α)

/-- A change of items that neither tells things apart otherwise nor gets in the way of a join. -/
structure Commutes (f : α → α) : Prop where
  same : ∀ x y, g.same (f x) (f y) = g.same x y
  join : ∀ x y, g.join (f x) (f y) = (g.join x y).map f

variable {g} {f : α → α}

theorem Commutes.add (hf : g.Commutes f) (x : α) (l : List α) :
    g.add (f x) (l.map f) = (g.add x l).map (List.map f) := by
  induction l with
  | nil => rfl
  | cons y l ih =>
    rw [List.map_cons]
    cases hy : g.same y x with
    | true =>
      rw [add_cons_same hy, add_cons_same ((hf.same y x).trans hy), hf.join, Option.map_map,
        Option.map_map]
      rfl
    | false =>
      rw [add_cons_other hy, add_cons_other ((hf.same y x).trans hy), ih, Option.map_map,
        Option.map_map]
      rfl

theorem Commutes.addAll (hf : g.Commutes f) (l xs : List α) :
    g.addAll (l.map f) (xs.map f) = (g.addAll l xs).map (List.map f) := by
  induction xs generalizing l with
  | nil => rfl
  | cons x xs ih =>
    rw [List.map_cons, Gathering.addAll, Gathering.addAll, hf.add, Option.bind_map,
      Option.map_bind]
    exact Option.bind_congr fun l' _ => ih l'

theorem addAll_map_map {u v w : β → α} {l : List β} (hd : g.Distinct (l.map u))
    (hsame : ∀ b ∈ l, g.same (u b) (v b) = true)
    (hjoin : ∀ b ∈ l, g.join (u b) (v b) = some (w b)) :
    g.addAll (l.map u) (l.map v) = some (l.map w) := by
  induction l with
  | nil => rfl
  | cons b l ih =>
    obtain ⟨hb, hl⟩ := List.pairwise_cons.1 hd
    obtain ⟨hsameb, hsamel⟩ := List.forall_mem_cons.1 hsame
    obtain ⟨hjoinb, hjoinl⟩ := List.forall_mem_cons.1 hjoin
    have hother : ∀ c ∈ l, g.same (v c) (u b) = false := by
      intro c hc
      rw [← g.same_congr (hsamel c hc), g.same_comm, hb (u c) (List.mem_map_of_mem hc)]
    have hdistinct : g.Distinct ((b :: l).map v) := by
      refine List.pairwise_map.2 ((List.pairwise_map.1 hd).imp_of_mem ?_)
      intro c d hc hd hcd
      rw [← g.same_congr (hsame c hc), ← same_congr_right (hsame d hd), hcd]
    have hfilter : ((l.map v).filter fun x => !g.same x (u b)) = l.map v := by
      refine List.filter_eq_self.2 fun x hx => ?_
      obtain ⟨c, hc, rfl⟩ := List.mem_map.1 hx
      rw [hother c hc, Bool.not_false]
    have hfirst : g.same (v b) (u b) = true := (g.same_comm _ _).trans hsameb
    rw [List.map_cons, addAll_cons hdistinct, List.map_cons, meet_cons_same hfirst, hjoinb,
      Option.bind_some, List.filter_cons_of_neg (by simp only [hfirst, Bool.not_true,
        Bool.false_eq_true, not_false_eq_true]), hfilter, ih hl hsamel hjoinl]
    rfl

end GirBind.Gathering
