import GirBind.Platform

namespace GirBind.PlatformSet

def unionAll : List PlatformSet → PlatformSet
  | [] => empty
  | p :: ps => p ∪ unionAll ps

instance : HasSubset PlatformSet := ⟨fun p q => p ∪ q = q⟩

theorem subset_iff {p q : PlatformSet} : p ⊆ q ↔ p ∪ q = q := Iff.rfl

theorem union_right_comm (p q r : PlatformSet) : p ∪ q ∪ r = p ∪ r ∪ q := by
  rw [union_assoc, union_comm q r, union_assoc]

theorem union_empty (p : PlatformSet) : p ∪ empty = p := by
  rw [union_comm, empty_union]

theorem unionAll_append (ps qs : List PlatformSet) :
    unionAll (ps ++ qs) = unionAll ps ∪ unionAll qs := by
  induction ps with
  | nil => exact (empty_union _).symm
  | cons p ps ih => rw [List.cons_append, unionAll, ih, unionAll, union_assoc]

theorem foldl_union (p : PlatformSet) (ps : List PlatformSet) :
    ps.foldl (· ∪ ·) p = unionAll (p :: ps) := by
  induction ps generalizing p with
  | nil => exact (union_empty p).symm
  | cons q ps ih => rw [List.foldl_cons, ih, unionAll, unionAll, unionAll, union_assoc]

theorem unionAll_map_filter {α : Type u} {f : α → PlatformSet} {p : PlatformSet} {l : List α}
    (h : ∀ x ∈ l, f x = p) (q : α → Bool) :
    unionAll ((l.filter q).map f) = if l.any q then p else empty := by
  induction l with
  | nil => rfl
  | cons x l ih =>
    obtain ⟨hx, hl⟩ := List.forall_mem_cons.1 h
    cases hq : q x with
    | false => rw [List.filter_cons_of_neg (Bool.eq_false_iff.1 hq), ih hl, List.any_cons, hq,
        Bool.false_or]
    | true =>
      rw [List.filter_cons_of_pos hq, List.map_cons, unionAll, ih hl, List.any_cons, hq, hx,
        Bool.true_or, if_pos rfl]
      split
      case isTrue => exact union_self p
      case isFalse => exact union_empty p

theorem subset_refl (p : PlatformSet) : p ⊆ p := union_self p

theorem subset_union_left (p q : PlatformSet) : p ⊆ p ∪ q := by
  rw [subset_iff, ← union_assoc, union_self]

theorem subset_union_right (p q : PlatformSet) : q ⊆ p ∪ q := by
  rw [union_comm]
  exact subset_union_left q p

theorem subset_trans {p q r : PlatformSet} (h : p ⊆ q) (h' : q ⊆ r) : p ⊆ r := by
  rw [subset_iff] at *
  rw [← h', ← union_assoc, h]

theorem union_subset {p q r : PlatformSet} (h : p ⊆ r) (h' : q ⊆ r) : p ∪ q ⊆ r := by
  rw [subset_iff] at *
  rw [union_assoc, h', h]

theorem subset_unionAll {p : PlatformSet} {ps : List PlatformSet} (h : p ∈ ps) :
    p ⊆ unionAll ps := by
  induction ps with
  | nil => cases h
  | cons q ps ih =>
    rcases List.mem_cons.1 h with rfl | h
    · exact subset_union_left p _
    · exact subset_trans (ih h) (subset_union_right q _)

theorem inter_of_subset {p q : PlatformSet} (h : p ⊆ q) : q ∩ p = p := by
  have habsorb : ∀ a b : Bool, ((a || b) && a) = a := by decide
  rw [← subset_iff.1 h, union_def, inter_def]
  simp only [habsorb]

theorem needsGuard_iff {p : PlatformSet} : p.needsGuard = true ↔ p ≠ all := bne_iff_ne

end GirBind.PlatformSet
