import GirBind.Java.Literal
import GirBind.Proofs.Markup.Spelling
import Mathlib.Algebra.Group.Int.Defs

namespace GirBind

namespace Numeral

variable {width : Nat} {n : Int} {cs : List Char}

/-- The ways to write an integer: decimal digits behind an optional sign. -/
inductive WritesInteger : Int → List Char → Prop
  | bare {m : Nat} {digits : List Char} (h : IsWritten 10 m digits) : WritesInteger m digits
  | plus {m : Nat} {digits : List Char} (h : IsWritten 10 m digits) :
    WritesInteger m ('+' :: digits)
  | minus {m : Nat} {digits : List Char} (h : IsWritten 10 m digits) :
    WritesInteger (-m) ('-' :: digits)

theorem integer?_eq_some_iff : integer? cs = some n ↔ WritesInteger n cs := by
  constructor
  · intro h
    rw [integer?.eq_def] at h
    split at h
    all_goals
      obtain ⟨m, hm, rfl⟩ := Option.map_eq_some_iff.1 h
      rw [natural?_eq_some_iff (by decide)] at hm
    case h_1 => exact .plus hm
    case h_2 => exact .minus hm
    case h_3 => exact .bare hm
  · intro h
    cases h with
    | @bare m _ h =>
      -- digits start with no sign
      have hplus : '+' ∉ cs := h.not_mem (by decide) rfl
      have hminus : '-' ∉ cs := h.not_mem (by decide) rfl
      rw [integer?.eq_def]
      split
      case h_1 => exact absurd List.mem_cons_self hplus
      case h_2 => exact absurd List.mem_cons_self hminus
      case h_3 => rw [h.natural?_eq (by decide)]; rfl
    | @plus m _ h => rw [integer?, h.natural?_eq (by decide)]; rfl
    | @minus m _ h => rw [integer?, h.natural?_eq (by decide)]; rfl

def InRange (width : Nat) (n : Int) : Prop := -2 ^ (width - 1) ≤ n ∧ n < 2 ^ (width - 1)

instance (width : Nat) (n : Int) : Decidable (InRange width n) :=
  inferInstanceAs (Decidable (_ ∧ _))

theorem signed?_eq_some_iff :
    signed? width cs = some n ↔ WritesInteger n cs ∧ InRange width n := by
  have hbound : Int.ofNat (Nat.pow 2 (width - 1)) = 2 ^ (width - 1) := Int.natCast_pow 2 _
  rw [signed?, Option.filter_eq_some_iff, integer?_eq_some_iff, hbound, Bool.and_eq_true,
    decide_eq_true_eq, decide_eq_true_eq]
  rfl

theorem signed?_eq_none_iff :
    signed? width cs = none ↔ ∀ n, WritesInteger n cs → ¬InRange width n := by
  rw [Option.eq_none_iff_forall_ne_some]
  exact forall_congr' fun n => by rw [Ne, signed?_eq_some_iff, not_and]

/-- The one way to write an integer that has no plus sign and no zero in front of another digit or
behind a minus sign. -/
structure IsCanonical (n : Int) (cs : List Char) : Prop where
  writes : WritesInteger n cs
  noPlus : '+' ∉ cs
  noLeadingZero : ∀ c rest, cs ≠ '0' :: c :: rest ∧ cs ≠ '-' :: '0' :: rest

theorem isWritten_toDigits (m : Nat) : IsWritten 10 m (Nat.toDigits 10 m) := by
  induction m using Nat.strongRecOn with
  | ind m ih =>
    rw [Nat.toDigits_eq_if (by decide)]
    split
    case isTrue h => exact .digit (.lower h)
    case isFalse h =>
      have hwritten := (ih (m / 10) (by omega)).append (.lower (Nat.mod_lt m (by decide)))
      rwa [Nat.div_add_mod'] at hwritten

theorem eq_of_toDigits_eq_zero_cons {m : Nat} {rest : List Char}
    (h : Nat.toDigits 10 m = '0' :: rest) : m = 0 ∧ rest = [] := by
  induction m using Nat.strongRecOn generalizing rest with
  | ind m ih =>
    rw [Nat.toDigits_eq_if (by decide)] at h
    split at h
    case isTrue hm =>
      obtain ⟨hdigit, hrest⟩ := List.cons.inj h
      have hzero : ∀ d < 10, Nat.digitChar d = '0' → d = 0 := by decide
      exact ⟨hzero m hm hdigit, hrest.symm⟩
    case isFalse hm =>
      obtain ⟨first, more, hmore⟩ := List.exists_cons_of_ne_nil
        (Nat.toDigits_ne_nil (n := m / 10) (b := 10))
      rw [hmore, List.cons_append] at h
      obtain ⟨rfl, -⟩ := List.cons.inj h
      have := (ih (m / 10) (by omega) hmore).1
      omega

theorem isCanonical_toDigits (m : Nat) : IsCanonical m (Nat.toDigits 10 m) where
  writes := .bare (isWritten_toDigits m)
  noPlus := (isWritten_toDigits m).not_mem (by decide) rfl
  noLeadingZero c rest := by
    constructor
    · intro hzero
      cases (eq_of_toDigits_eq_zero_cons hzero).2
    · intro hminus
      have hmem : '-' ∉ Nat.toDigits 10 m := (isWritten_toDigits m).not_mem (by decide) rfl
      rw [hminus] at hmem
      exact hmem List.mem_cons_self

theorem isCanonical_minus_toDigits {m : Nat} (hm : m ≠ 0) :
    IsCanonical (-m) ('-' :: Nat.toDigits 10 m) where
  writes := .minus (isWritten_toDigits m)
  noPlus hplus := by
    rcases List.mem_cons.1 hplus with hplus | hplus
    · exact absurd hplus (by decide)
    · exact (isCanonical_toDigits m).noPlus hplus
  noLeadingZero c rest := by
    constructor
    · intro hzero
      exact absurd (List.cons.inj hzero).1 (by decide)
    · intro hzero
      exact hm (eq_of_toDigits_eq_zero_cons (List.cons.inj hzero).2).1

theorem isCanonical_toString (n : Int) : IsCanonical n (toString n).toList := by
  cases n with
  | ofNat m =>
    have htext : (toString (Int.ofNat m)).toList = Nat.toDigits 10 m := String.toList_ofList
    rw [htext]
    exact isCanonical_toDigits m
  | negSucc m =>
    have htext : (toString (Int.negSucc m)).toList = '-' :: Nat.toDigits 10 (m + 1) := by
      have happend : toString (Int.negSucc m) = "-" ++ String.ofList (Nat.toDigits 10 (m + 1)) :=
        rfl
      rw [happend, String.toList_append]
      exact congrArg ('-' :: ·) String.toList_ofList
    rw [htext]
    exact isCanonical_minus_toDigits (Nat.succ_ne_zero m)

end Numeral

/-- An integer type of Java: the width of its words, its keyword, and what stands behind its
literals. -/
structure Java.IntegerType where
  width : Nat
  keyword : String
  suffix : List Char
deriving DecidableEq

def Primitive.integerType? : Primitive → Option Java.IntegerType
  | byte => some ⟨8, "byte", []⟩
  | short => some ⟨16, "short", []⟩
  | int => some ⟨32, "int", []⟩
  | long => some ⟨64, "long", ['L']⟩
  | _ => none

theorem Primitive.javaType_of_integerType? {p : Primitive} {t : Java.IntegerType}
    (h : p.integerType? = some t) : p.javaType = t.keyword := by
  cases p <;> cases h <;> rfl

theorem Java.literal?_of_integerType? {p : Primitive} {t : IntegerType}
    (h : p.integerType? = some t) (value : String) : literal? p value =
      (Numeral.signed? t.width (Text.trim value).toList).map fun n =>
        toString n ++ .ofList t.suffix := by
  have hempty (text : String) : text ++ .ofList [] = text := String.append_empty
  cases p with
  | byte | short | int =>
    cases h
    simp only [hempty]
    rfl
  | long =>
    cases h
    rfl
  | boolean | float | double | void | string | pointer | gtype | vaList => cases h

end GirBind
