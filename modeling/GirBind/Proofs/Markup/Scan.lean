import GirBind.Markup.Scan
import GirBind.Proofs.Attempt
import Mathlib.Data.List.Induction

namespace GirBind.Markup

/-- The place behind a text. Lines are counted by their ends, and columns from the last one on. -/
def Position.behind (before : List Char) : Position :=
  ⟨1 + before.count '\n', 1 + (before.reverse.takeWhile (· != '\n')).length⟩

theorem Position.after_start (before : List Char) : start.after before = behind before := by
  induction before using List.reverseRecOn with
  | nil => rfl
  | append_singleton before c ih =>
    rw [after_append, ih, after_cons, after_nil, advance]
    split
    case isTrue h =>
      subst h
      simp [behind, Nat.add_assoc]
    case isFalse h => simp [behind, h, Nat.add_assoc]

namespace Cursor

inductive Reads : Cursor → List PlacedToken → Cursor → Prop
  | nil {c : Cursor} : Reads c [] c
  | cons {c d e : Cursor} {t : Token} {ts : List PlacedToken} (hc : c.rest ≠ [])
    (ht : c.readToken = .ok (t, d)) (hts : Reads d ts e) : Reads c (⟨t, c.position⟩ :: ts) e

variable {c d : Cursor} {t : Token} {ts : List PlacedToken}

theorem readTokens_cons (hc : c.rest ≠ []) (ht : c.readToken = .ok (t, d)) :
    c.readTokens = d.readTokens.map (⟨t, c.position⟩ :: ·) := by
  rw [readTokens, dif_neg hc]
  split
  case h_1 herror => cases ht.symm.trans herror
  case h_2 hok =>
    cases ht.symm.trans hok
    cases d.readTokens with
    | error e => rfl
    | ok ts => rfl

theorem readTokens_of_error {e : Located Fault} (hc : c.rest ≠ []) (h : c.readToken = .error e) :
    c.readTokens = .error e := by
  rw [readTokens, dif_neg hc]
  split
  case h_1 herror =>
    cases h.symm.trans herror
    rfl
  case h_2 hok => cases h.symm.trans hok

theorem Reads.readTokens_eq (h : c.Reads ts d) : c.readTokens = d.readTokens.map (ts ++ ·) := by
  induction h with
  | nil => exact (Attempt.map_id _).symm
  | cons hc ht _ ih =>
    rw [readTokens_cons hc ht, ih, Attempt.map_map]
    rfl

/-- A scan goes on up to the end of the text or up to a fault. -/
theorem exists_reads (c : Cursor) : ∃ ts d, c.Reads ts d ∧
    (d.rest = [] ∨ d.rest ≠ [] ∧ ∃ e, d.readToken = .error e) := by
  fun_induction readTokens c with
  | case1 c hc => exact ⟨[], c, .nil, .inl hc⟩
  | case2 c hc e he => exact ⟨[], c, .nil, .inr ⟨hc, e, he⟩⟩
  | case3 c hc t d ht _ _ ih =>
    obtain ⟨ts, e, hts, hend⟩ := ih
    exact ⟨⟨t, c.position⟩ :: ts, e, .cons hc ht hts, hend⟩
  | case4 c hc t d ht _ _ ih =>
    obtain ⟨ts, e, hts, hend⟩ := ih
    exact ⟨⟨t, c.position⟩ :: ts, e, .cons hc ht hts, hend⟩

end Cursor
end GirBind.Markup
