import GirBind.Proofs.Gathering.Pass

namespace GirBind.Gathering

variable {α : Type u} {κ : Type v} [DecidableEq κ]

def byKey (key : α → κ) (join : α → α → Option α)
    (key_join : ∀ {x y z}, join x y = some z → key z = key x)
    (join_assoc : ∀ x y z, (join x y).bind (join · z) = (join y z).bind (join x)) :
    Gathering α where
  same x y := key x == key y
  join
  same_refl x := beq_self_eq_true (key x)
  same_comm x y := BEq.comm
  same_congr h z := by rw [eq_of_beq h]
  same_join h w := by rw [key_join h]
  join_assoc

/-- Of several items with one key the first one is kept. -/
def keepFirst (key : α → κ) : Gathering α :=
  byKey key (fun x _ => some x) (fun h => congrArg key (Option.some.inj h).symm) fun _ _ _ => rfl

theorem keepFirst_rightComm (key : α → κ) : (keepFirst key).RightComm := fun _ _ _ => rfl

theorem keepFirst_add (key : α → κ) (x : α) (l : List α) :
    (keepFirst key).add x l = some (if l.any (key · == key x) then l else l ++ [x]) := by
  induction l with
  | nil => rfl
  | cons y l ih =>
    cases h : key y == key x with
    | true =>
      rw [add_cons_same (g := keepFirst key) h, List.any_cons, h, Bool.true_or, if_pos rfl]
      rfl
    | false =>
      rw [add_cons_other (g := keepFirst key) h, ih, List.any_cons, h, Bool.false_or,
        Option.map_some]
      split
      case isTrue => rfl
      case isFalse => rfl

theorem keepFirst_meetAll (key : α → κ) (m l : List α) : (keepFirst key).meetAll m l = some l := by
  induction l with
  | nil => rfl
  | cons y l ih =>
    have hmeet : (keepFirst key).meet m y = some y := by
      rw [meet]
      cases (keepFirst key).find? y m with
      | none => rfl
      | some x => rfl
    rw [meetAll, hmeet, ih]
    rfl

theorem keepFirst_addAll {key : α → κ} {l m : List α} (hl : (keepFirst key).Distinct l)
    (hm : (keepFirst key).Distinct m) :
    (keepFirst key).addAll l m = some (l ++ m.filter fun x => !l.any (key · == key x)) := by
  rw [addAll_eq_meetAll hl hm, keepFirst_meetAll]
  rfl

end GirBind.Gathering
