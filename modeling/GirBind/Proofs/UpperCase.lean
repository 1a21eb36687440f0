import GirBind.Text.Case

namespace GirBind.Text

def IsRaisedCode (code : Nat) : Prop := 47 < code ∧ code < 95 ∨ 122 < code

instance (code : Nat) : Decidable (IsRaisedCode code) :=
  inferInstanceAs (Decidable (47 < code ∧ code < 95 ∨ 122 < code))

theorem IsRaisedCode.lt {code : Nat} (h : IsRaisedCode code) : 47 < code := by
  rw [IsRaisedCode] at h
  omega

theorem IsRaisedCode.isLower {c : Char} (h : IsRaisedCode c.toNat) : c.isLower = false := by
  apply Bool.and_eq_false_iff.2
  rw [decide_eq_false_iff_not, decide_eq_false_iff_not]
  rcases h with ⟨-, hsmall⟩ | hlarge
  · left
    intro hfirst
    have hfirst : 97 ≤ c.toNat := hfirst
    omega
  · right
    intro hlast
    have hlast : c.toNat ≤ 122 := hlast
    omega

theorem toNat_mem_of_mem_map_ofNat {c : Char} {codes : List Nat} (h : c ∈ codes.map Char.ofNat) :
    c.toNat ∈ codes ∨ c.toNat = 0 := by
  obtain ⟨code, hcode, rfl⟩ := List.mem_map.1 h
  by_cases hvalid : code.isValidChar
  case pos =>
    left
    rw [Char.ofNat, dif_pos hvalid]
    exact hcode
  case neg =>
    right
    rw [Char.ofNat, dif_neg hvalid]
    rfl

theorem isRaisedCode_of_run {c code : Nat} (h : upperRuns.findSome? (·.map? c) = some code) :
    IsRaisedCode code := by
  -- The images of a run are all on one side of the small letters.
  have htable : ∀ r ∈ upperRuns,
      47 < r.image ∧ r.image + (r.last - r.first) < 95 ∨ 122 < r.image := by decide +kernel
  obtain ⟨r, hr, hcode⟩ := List.exists_of_findSome?_eq_some h
  have hrun := htable r hr
  rw [CaseRun.map?] at hcode
  split at hcode
  case isTrue hwithin =>
    cases hcode
    rw [IsRaisedCode]
    omega
  case isFalse => cases hcode

/-- Upper case is that of ASCII, the character itself, or what a table has for it. -/
theorem upperChar_cases (c : Char) :
    c.toNat < 0x80 ∧ upperChar c = [c.toUpper] ∨
      ¬ c.toNat < 0x80 ∧ (upperChar c = [c] ∨ ∃ codes, codes ≠ [] ∧
        (∀ code ∈ codes, IsRaisedCode code) ∧ upperChar c = codes.map Char.ofNat) := by
  rw [upperChar]
  split
  case isTrue hc => exact .inl ⟨hc, rfl⟩
  case isFalse hc =>
    refine .inr ⟨hc, ?_⟩
    split
    case h_1 codes hfind =>
      have htable : ∀ e ∈ upperExpansions, e.2 ≠ [] ∧ ∀ code ∈ e.2, IsRaisedCode code := by
        decide +kernel
      obtain ⟨hne, hcodes⟩ := htable _ (List.mem_of_find?_eq_some hfind)
      exact .inr ⟨codes, hne, hcodes, rfl⟩
    case h_2 =>
      split
      case h_1 code hfind =>
        exact .inr ⟨[code], List.cons_ne_nil _ _,
          List.forall_mem_singleton.2 (isRaisedCode_of_run hfind), rfl⟩
      case h_2 => exact .inl rfl

end GirBind.Text
