import GirBind.Markup.Reference
import Mathlib.Data.List.Induction
import Mathlib.Data.List.TakeWhile

namespace GirBind

namespace Numeral

variable {base n d : Nat} {c : Char} {cs : List Char}

inductive IsDigit (base : Nat) : Nat → Char → Prop
  | lower {d : Nat} (h : d < base) : IsDigit base d d.digitChar
  | upper {d : Nat} (h : d < base) : IsDigit base d d.digitChar.toUpper

/-- The ways to write a number. There may be zeros in front. -/
inductive IsWritten (base : Nat) : Nat → List Char → Prop
  | digit {d : Nat} {c : Char} (h : IsDigit base d c) : IsWritten base d [c]
  | append {n d : Nat} {cs : List Char} {c : Char} (hn : IsWritten base n cs)
    (h : IsDigit base d c) : IsWritten base (n * base + d) (cs ++ [c])

theorem digit?_of_lt (h : digit? 16 c = some d) (hd : d < base) : digit? base c = some d := by
  rw [digit?, Option.filter_eq_some_iff] at h ⊢
  exact ⟨h.1, decide_eq_true hd⟩

theorem digit?_digitChar (h : d < 16) :
    digit? 16 d.digitChar = some d ∧ digit? 16 d.digitChar.toUpper = some d := by
  revert d
  decide

theorem IsDigit.digit?_eq (h : IsDigit base d c) (hbase : base ≤ 16) :
    digit? base c = some d := by
  cases h with
  | lower h => exact digit?_of_lt (digit?_digitChar (Nat.lt_of_lt_of_le h hbase)).1 h
  | upper h => exact digit?_of_lt (digit?_digitChar (Nat.lt_of_lt_of_le h hbase)).2 h

theorem IsWritten.ne_nil (h : IsWritten base n cs) : cs ≠ [] := by
  cases h with
  | digit => exact List.cons_ne_nil _ _
  | append => exact List.append_ne_nil_of_right_ne_nil _ (List.cons_ne_nil _ _)

theorem IsWritten.not_mem (h : IsWritten base n cs) (hbase : base ≤ 16)
    (hc : digit? base c = none) : c ∉ cs := by
  have hdigit {d : Nat} {c' : Char} (h' : IsDigit base d c') : c ≠ c' := by
    intro he
    rw [he, h'.digit?_eq hbase] at hc
    cases hc
  induction h with
  | digit h => exact fun hmem => hdigit h (List.mem_singleton.1 hmem)
  | append _ h ih =>
    intro hmem
    rcases List.mem_append.1 hmem with hmem | hmem
    · exact ih hmem
    · exact hdigit h (List.mem_singleton.1 hmem)

theorem extend?_append (n : Nat) (cs ds : List Char) :
    extend? base n (cs ++ ds) = (extend? base n cs).bind (extend? base · ds) := by
  induction cs generalizing n with
  | nil => rfl
  | cons c cs ih =>
    rw [List.cons_append, extend?, extend?]
    cases digit? base c with
    | none => rfl
    | some d => exact ih _

theorem IsWritten.extend?_eq (h : IsWritten base n cs) (hbase : base ≤ 16) :
    extend? base 0 cs = some n := by
  induction h with
  | digit h => simp only [extend?, h.digit?_eq hbase, Nat.zero_mul, Nat.zero_add]
  | append _ h ih =>
    rw [extend?_append, ih]
    simp only [Option.bind_some, extend?, h.digit?_eq hbase]

theorem IsWritten.natural?_eq (h : IsWritten base n cs) (hbase : base ≤ 16) :
    natural? base cs = some n := by
  rw [natural?, if_neg (by simpa using h.ne_nil), h.extend?_eq hbase]

theorem IsWritten.unsigned?_eq {bound : Nat} (h : IsWritten base n cs) (hbase : base ≤ 16)
    (hbound : n < bound) : unsigned? base bound cs = some n := by
  have hplus : '+' ∉ cs := h.not_mem hbase rfl
  have hnatural := h.natural?_eq hbase
  unfold unsigned?
  split
  case h_1 r => exact absurd List.mem_cons_self hplus
  case h_2 =>
    dsimp only
    rw [hnatural]
    exact if_pos (decide_eq_true hbound)

theorem toNat_digitChar (h : d < 16) :
    d.digitChar.toNat = (if d < 10 then d + 48 else d + 87) ∧
      d.digitChar.toUpper.toNat = if d < 10 then d + 48 else d + 55 := by
  revert d
  decide

theorem isDigit_of_digit? (hbase : base ≤ 16) (h : digit? base c = some d) :
    IsDigit base d c := by
  simp only [digit?, Option.filter_eq_some_iff, decide_eq_true_eq, Char.le_def,
    UInt32.le_iff_toNat_le] at h
  obtain ⟨hvalue, hd⟩ := h
  obtain ⟨hlower, hupper⟩ := toNat_digitChar (Nat.lt_of_lt_of_le hd hbase)
  have hcode : c.toNat = d.digitChar.toNat ∨ c.toNat = d.digitChar.toUpper.toNat := by
    rw [hlower, hupper]
    split at hvalue
    case isTrue hc =>
      change 48 ≤ c.toNat ∧ c.toNat ≤ 57 at hc
      have hd : c.toNat - 48 = d := Option.some.inj hvalue
      rw [if_pos (by omega)]
      omega
    case isFalse =>
      split at hvalue
      case isTrue hc =>
        change 97 ≤ c.toNat ∧ c.toNat ≤ 122 at hc
        have hd : c.toNat - 87 = d := Option.some.inj hvalue
        rw [if_neg (by omega)]
        omega
      case isFalse =>
        split at hvalue
        case isTrue hc =>
          change 65 ≤ c.toNat ∧ c.toNat ≤ 90 at hc
          have hd : c.toNat - 55 = d := Option.some.inj hvalue
          rw [if_neg (by omega), if_neg (by omega)]
          omega
        case isFalse => cases hvalue
  cases hcode with
  | inl hc =>
    rw [Char.toNat_inj.1 hc]
    exact .lower hd
  | inr hc =>
    rw [Char.toNat_inj.1 hc]
    exact .upper hd

theorem isWritten_of_extend? (hbase : base ≤ 16) (hcs : cs ≠ []) (h : extend? base 0 cs = some n) :
    IsWritten base n cs := by
  induction cs using List.reverseRecOn generalizing n with
  | nil => exact absurd rfl hcs
  | append_singleton cs c ih =>
    rw [extend?_append] at h
    obtain ⟨m, hm, h⟩ := Option.bind_eq_some_iff.1 h
    rw [extend?] at h
    split at h
    case h_1 d hd =>
      have hdigit := isDigit_of_digit? hbase hd
      cases h
      cases cs with
      | nil =>
        cases hm
        rw [Nat.zero_mul, Nat.zero_add]
        exact .digit hdigit
      | cons c' cs => exact .append (ih (List.cons_ne_nil _ _) hm) hdigit
    case h_2 => cases h

theorem natural?_eq_some_iff (hbase : base ≤ 16) :
    natural? base cs = some n ↔ IsWritten base n cs := by
  refine ⟨fun h => ?_, fun h => h.natural?_eq hbase⟩
  rw [natural?] at h
  split at h
  case isTrue => cases h
  case isFalse hne =>
    rw [List.isEmpty_iff] at hne
    exact isWritten_of_extend? hbase hne h

def optionalPlus : List (List Char) := [[], ['+']]

theorem unsigned?_eq_some_iff {bound : Nat} (hbase : base ≤ 16) :
    unsigned? base bound cs = some n ↔
      n < bound ∧ ∃ sign ∈ optionalPlus, ∃ digits, cs = sign ++ digits ∧
        IsWritten base n digits := by
  constructor
  · intro h
    have hdigits {ds : List Char}
        (h : (natural? base ds).filter (fun n => decide (n < bound)) = some n) :
        n < bound ∧ IsWritten base n ds := by
      rw [Option.filter_eq_some_iff, decide_eq_true_eq, natural?_eq_some_iff hbase] at h
      exact ⟨h.2, h.1⟩
    unfold unsigned? at h
    split at h
    case h_1 ds =>
      obtain ⟨hbound, hds⟩ := hdigits h
      exact ⟨hbound, ['+'], by decide, ds, rfl, hds⟩
    case h_2 =>
      obtain ⟨hbound, hds⟩ := hdigits h
      exact ⟨hbound, [], by decide, cs, rfl, hds⟩
  · rintro ⟨hbound, sign, hsign, digits, rfl, hdigits⟩
    have hunsigned := hdigits.unsigned?_eq hbase hbound
    have hplus : '+' ∉ digits := hdigits.not_mem hbase rfl
    simp only [optionalPlus, List.mem_cons, List.not_mem_nil, or_false] at hsign
    cases hsign with
    | inl hsign => rw [hsign, List.nil_append, hunsigned]
    | inr hsign =>
      rw [hsign, List.singleton_append, ← hunsigned]
      unfold unsigned?
      split
      case h_1 hcons =>
        split
        case h_1 => exact absurd List.mem_cons_self hplus
        case h_2 => cases hcons; rfl
      case h_2 hne => exact absurd rfl (hne _)

end Numeral

namespace Markup

def namedCharacters : List (Char × List Char) := [
  ('<', ['l', 't']), ('>', ['g', 't']), ('&', ['a', 'm', 'p']), ('\x22', ['q', 'u', 'o', 't']),
  ('\x27', ['a', 'p', 'o', 's'])]

inductive Entity : Char → List Char → Prop
  | named {c : Char} {name : List Char} (h : (c, name) ∈ namedCharacters) : Entity c name
  | decimal {c : Char} {digits : List Char} (h : Numeral.IsWritten 10 c.toNat digits) :
    Entity c ('#' :: digits)
  | hexadecimal {c : Char} {digits : List Char} (h : Numeral.IsWritten 16 c.toNat digits) :
    Entity c ('#' :: 'x' :: digits)

/-- The ways to write one character of a text that ends at `close`. -/
inductive Spelling (close : Char) : Char → List Char → Prop
  | itself {c : Char} (h : c ∉ ['&', '<', close]) : Spelling close c [c]
  | reference {c : Char} {entity : List Char} (h : Entity c entity) :
    Spelling close c ('&' :: (entity ++ [';']))

inductive InSequence {α : Type u} (writes : α → List Char → Prop) : List α → List Char → Prop
  | nil : InSequence writes [] []
  | cons {a : α} {l : List α} {first rest : List Char} (ha : writes a first)
    (hl : InSequence writes l rest) : InSequence writes (a :: l) (first ++ rest)

abbrev Spelled (close : Char) : List Char → List Char → Prop := InSequence (Spelling close)

/-- The characters that no reference contains. -/
def delimiters : List Char := ['<', '\x22', '\x27', ';']

theorem InSequence.not_mem {α : Type u} {writes : α → List Char → Prop} {l : List α}
    {text : List Char} {c : Char} (h : InSequence writes l text)
    (hc : ∀ a s, writes a s → c ∉ s) : c ∉ text := by
  induction h with
  | nil => exact List.not_mem_nil
  | cons ha _ ih =>
    intro hmem
    rcases List.mem_append.1 hmem with hmem | hmem
    · exact hc _ _ ha hmem
    · exact ih hmem

namespace Reference

variable {c : Char} {entity digits : List Char}

theorem scalar?_toNat (c : Char) : scalar? c.toNat = some c := by
  have hvalid : c.toNat.isValidChar := c.valid
  have hc := Char.ofNat_toNat c
  rw [Char.ofNat, dif_pos hvalid] at hc
  rw [scalar?, dif_pos hvalid, hc]

theorem scalar?_eq_some_iff {code : Nat} : scalar? code = some c ↔ code = c.toNat := by
  constructor
  · intro h
    by_cases hvalid : code.isValidChar
    case pos =>
      rw [scalar?, dif_pos hvalid] at h
      cases h
      rfl
    case neg =>
      rw [scalar?, dif_neg hvalid] at h
      cases h
  · intro h
    rw [h, scalar?_toNat]

theorem code_eq_some_iff {base : Nat} (hbase : base ≤ 16) :
    (Numeral.unsigned? base (Nat.pow 2 32) digits).bind scalar? = some c ↔
      ∃ sign ∈ Numeral.optionalPlus, ∃ ds, digits = sign ++ ds ∧
        Numeral.IsWritten base c.toNat ds := by
  rw [Option.bind_eq_some_iff]
  constructor
  · rintro ⟨code, hcode, hc⟩
    rw [scalar?_eq_some_iff] at hc
    rw [hc, Numeral.unsigned?_eq_some_iff hbase] at hcode
    exact hcode.2
  · intro h
    have hbound : c.toNat < Nat.pow 2 32 := c.val.toNat_lt
    exact ⟨c.toNat, (Numeral.unsigned?_eq_some_iff hbase).2 ⟨hbound, h⟩, scalar?_toNat c⟩

theorem char?_numeric (text : List Char) : char? ('#' :: text) = numeric? ('#' :: text) := by
  rw [char?]
  all_goals simp

/-- The character for what stands between the ampersand and the semicolon of a reference. One of
the signs stands before the digits of a number. -/
inductive Denotes (signs : List (List Char)) : List Char → Char → Prop
  | named {c : Char} {name : List Char} (h : (c, name) ∈ namedCharacters) : Denotes signs name c
  | decimal {c : Char} {sign digits : List Char} (hsign : sign ∈ signs)
    (h : Numeral.IsWritten 10 c.toNat digits) : Denotes signs ('#' :: (sign ++ digits)) c
  | hexadecimal {c mark : Char} {sign digits : List Char} (hmark : mark = 'x' ∨ mark = 'X')
    (hsign : sign ∈ signs) (h : Numeral.IsWritten 16 c.toNat digits) :
    Denotes signs ('#' :: mark :: (sign ++ digits)) c

theorem Denotes.not_mem {d : Char} (h : Denotes Numeral.optionalPlus entity c)
    (hd : d ∈ delimiters) : d ∉ entity := by
  have hd : (∀ e ∈ namedCharacters, d ∉ e.2) ∧ (∀ sign ∈ Numeral.optionalPlus, d ∉ sign) ∧
      d ∉ ['#', 'x', 'X'] ∧ Numeral.digit? 10 d = none ∧ Numeral.digit? 16 d = none := by
    rw [delimiters] at hd
    simp only [List.mem_cons, List.not_mem_nil, or_false] at hd
    rcases hd with rfl | rfl | rfl | rfl
    all_goals decide
  obtain ⟨hnamed, hsigns, hmarks, hten, hsixteen⟩ := hd
  simp only [List.mem_cons, List.not_mem_nil, or_false, not_or] at hmarks
  cases h with
  | named h => exact hnamed _ h
  | decimal hsign h =>
    simp only [List.mem_cons, List.mem_append, not_or]
    exact ⟨hmarks.1, hsigns _ hsign, h.not_mem (by decide) hten⟩
  | hexadecimal hmark hsign h =>
    simp only [List.mem_cons, List.mem_append, not_or]
    refine ⟨hmarks.1, ?_, hsigns _ hsign, h.not_mem (by decide) hsixteen⟩
    rcases hmark with rfl | rfl
    · exact hmarks.2.1
    · exact hmarks.2.2

theorem denotes_of_char? (h : char? entity = some c) :
    Denotes Numeral.optionalPlus entity c := by
  unfold char? at h
  split at h
  case h_6 =>
    unfold numeric? at h
    split at h
    case h_1 =>
      obtain ⟨sign, hsign, ds, rfl, hds⟩ := (code_eq_some_iff (by decide)).1 h
      exact .hexadecimal (.inl rfl) hsign hds
    case h_2 =>
      obtain ⟨sign, hsign, ds, rfl, hds⟩ := (code_eq_some_iff (by decide)).1 h
      exact .hexadecimal (.inr rfl) hsign hds
    case h_3 =>
      obtain ⟨sign, hsign, ds, rfl, hds⟩ := (code_eq_some_iff (by decide)).1 h
      exact .decimal hsign hds
    case h_4 => cases h
  all_goals
    cases h
    exact .named (by decide)

theorem char?_of_denotes (h : Denotes Numeral.optionalPlus entity c) : char? entity = some c := by
  cases h with
  | named h =>
    have hnamed : ∀ e ∈ namedCharacters, char? e.2 = some e.1 := by decide
    exact hnamed _ h
  | @decimal c sign digits hsign h =>
    have hmark {mark : Char} (hmark : mark = 'x' ∨ mark = 'X') : mark ∉ sign ++ digits := by
      have hother : (∀ sign ∈ Numeral.optionalPlus, mark ∉ sign) ∧
          Numeral.digit? 10 mark = none := by
        rcases hmark with rfl | rfl
        all_goals decide
      rw [List.mem_append, not_or]
      exact ⟨hother.1 _ hsign, h.not_mem (by decide) hother.2⟩
    rw [char?_numeric, numeric?.eq_def]
    split
    case h_1 he =>
      rw [(List.cons.inj he).2] at hmark
      exact absurd List.mem_cons_self (hmark (by decide))
    case h_2 he =>
      rw [(List.cons.inj he).2] at hmark
      exact absurd List.mem_cons_self (hmark (by decide))
    case h_3 he =>
      cases he
      exact (code_eq_some_iff (by decide)).2 ⟨sign, hsign, digits, rfl, h⟩
    case h_4 hne => exact absurd rfl (hne _)
  | @hexadecimal c mark sign digits hmark hsign h =>
    rw [char?_numeric]
    have hcode := (code_eq_some_iff (by decide)).2 ⟨sign, hsign, digits, rfl, h⟩
    rcases hmark with rfl | rfl
    · exact hcode
    · exact hcode

theorem Denotes.mono {signs more : List (List Char)} (h : Denotes signs entity c)
    (hsigns : signs ⊆ more) : Denotes more entity c := by
  cases h with
  | named h => exact .named h
  | decimal hsign h => exact .decimal (hsigns hsign) h
  | hexadecimal hmark hsign h => exact .hexadecimal hmark (hsigns hsign) h

theorem denotes_of_entity (h : Entity c entity) : Denotes Numeral.optionalPlus entity c := by
  have hsign : [] ∈ Numeral.optionalPlus := by decide
  cases h with
  | named h => exact .named h
  | decimal h => exact .decimal hsign h
  | hexadecimal h => exact .hexadecimal (.inl rfl) hsign h

theorem decode_other {text : List Char} (h : c ≠ '&') :
    decode (c :: text) = (decode text).map (c :: ·) := by
  rw [decode, if_neg h]

theorem decode_unterminated {text : List Char} (h : ';' ∉ text) :
    decode ('&' :: text) = .error .unterminatedReference := by
  have hdrop : text.dropWhile (· != ';') = [] := by
    rw [List.dropWhile_eq_nil_iff]
    intro d hd
    rw [bne_iff_ne]
    rintro rfl
    exact h hd
  rw [decode, if_pos rfl]
  split
  case h_1 => rfl
  case h_2 hcons => cases hdrop.symm.trans hcons

theorem decode_terminated (h : ';' ∉ entity) (text : List Char) :
    decode ('&' :: (entity ++ ';' :: text)) =
      match char? entity with
      | some d => (decode text).map (d :: ·)
      | none => .error (.unknownReference (.ofList entity)) := by
  have hsemicolon : ∀ d ∈ entity, (d != ';') = true := by
    intro d hd
    rw [bne_iff_ne]
    rintro rfl
    exact h hd
  have hdrop : (entity ++ ';' :: text).dropWhile (· != ';') = ';' :: text := by
    rw [List.dropWhile_append_of_pos hsemicolon]
    rfl
  have htake : (entity ++ ';' :: text).takeWhile (· != ';') = entity := by
    rw [List.takeWhile_append_of_pos hsemicolon]
    exact List.append_nil entity
  rw [decode, if_pos rfl]
  split
  case h_1 hnil => cases hdrop.symm.trans hnil
  case h_2 hcons =>
    cases hdrop.symm.trans hcons
    cases hchar : char? entity with
    | none => simp only [htake, hchar]
    | some d => simp only [htake, hchar]

theorem decode_reference (h : Denotes Numeral.optionalPlus entity c) (text : List Char) :
    decode ('&' :: (entity ++ ';' :: text)) = (decode text).map (c :: ·) := by
  rw [decode_terminated (h.not_mem (by decide)), char?_of_denotes h]

/-- Whatever way a text is written, decoding yields the text. -/
theorem decode_spelled {close : Char} {value text : List Char} (h : Spelled close value text) :
    decode text = .ok value := by
  induction h with
  | nil => rw [decode]
  | cons ha _ ih =>
    cases ha with
    | itself hplain =>
      have hamp : _ ≠ '&' := fun he => hplain (he ▸ List.mem_cons_self)
      rw [List.cons_append, List.nil_append, decode_other hamp, ih]
      rfl
    | reference hentity =>
      rw [List.cons_append, List.append_assoc, List.cons_append, List.nil_append,
        decode_reference (denotes_of_entity hentity), ih]
      rfl

end Reference

theorem Spelled.close_not_mem {close : Char} {value text : List Char}
    (h : Spelled close value text) (hclose : close ∈ delimiters) (hne : close ≠ ';') :
    close ∉ text := by
  apply h.not_mem
  intro c s hs
  cases hs with
  | itself hplain =>
    intro hmem
    rw [List.mem_singleton] at hmem
    apply hplain
    rw [hmem]
    simp only [List.mem_cons, true_or, or_true]
  | reference hentity =>
    have hamp : close ≠ '&' := by
      rintro rfl
      revert hclose
      decide
    have hbetween := (Reference.denotes_of_entity hentity).not_mem hclose
    simp only [List.mem_cons, List.mem_append, List.not_mem_nil, or_false, not_or]
    exact ⟨hamp, hbetween, hne⟩

end Markup
end GirBind
