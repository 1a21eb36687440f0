import GirBind.Java.Literal

namespace GirBind.Java

section Units

/-- The units of UTF-16 that stand for a character. -/
def charUnits (c : Char) : List Nat :=
  if c.toNat < 0x10000 then [c.toNat]
  else [0xD800 + (c.toNat - 0x10000) / 0x400, 0xDC00 + (c.toNat - 0x10000) % 0x400]

def units (cs : List Char) : List Nat := cs.flatMap charUnits

variable {c d : Char} {us vs : List Nat}

theorem toNat_lt_or_lt (c : Char) :
    c.toNat < 0xD800 ∨ 0xDFFF < c.toNat ∧ c.toNat < 0x110000 := c.valid

theorem eq_of_toNat_mem_charUnits (hd : d.toNat < 0xD800) (h : d.toNat ∈ charUnits c) : c = d := by
  rw [charUnits] at h
  split at h
  case isTrue => exact Char.toNat_inj.1 (List.mem_singleton.1 h).symm
  case isFalse =>
    rw [List.mem_cons, List.mem_singleton] at h
    omega

theorem charUnits_append_inj (h : charUnits c ++ us = charUnits d ++ vs) : c = d ∧ us = vs := by
  have hc := toNat_lt_or_lt c
  have hd := toNat_lt_or_lt d
  rw [charUnits, charUnits] at h
  split at h
  case isTrue =>
    split at h
    case isTrue =>
      obtain ⟨hunit, hrest⟩ := List.cons.inj h
      exact ⟨Char.toNat_inj.1 hunit, hrest⟩
    case isFalse =>
      obtain ⟨hunit, -⟩ := List.cons.inj h
      omega
  case isFalse =>
    split at h
    case isTrue =>
      obtain ⟨hunit, -⟩ := List.cons.inj h
      omega
    case isFalse =>
      obtain ⟨hhigh, h⟩ := List.cons.inj h
      obtain ⟨hlow, hrest⟩ := List.cons.inj h
      have hcode : c.toNat = d.toNat := by omega
      exact ⟨Char.toNat_inj.1 hcode, hrest⟩

theorem charUnits_ne_nil (c : Char) : charUnits c ≠ [] := by
  rw [charUnits]
  split
  case isTrue => exact List.cons_ne_nil _ _
  case isFalse => exact List.cons_ne_nil _ _

theorem units_inj {cs ds : List Char} (h : units cs = units ds) : cs = ds := by
  induction cs generalizing ds with
  | nil =>
    cases ds with
    | nil => rfl
    | cons d ds => exact absurd (List.append_eq_nil_iff.1 h.symm).1 (charUnits_ne_nil d)
  | cons c cs ih =>
    cases ds with
    | nil => exact absurd (List.append_eq_nil_iff.1 h).1 (charUnits_ne_nil c)
    | cons d ds =>
      obtain ⟨rfl, hrest⟩ := charUnits_append_inj h
      exact congrArg (c :: ·) (ih hrest)

end Units

section Machine

variable {σ : Type}

def behind (out : List Nat) (result : Option (List Nat × σ)) : Option (List Nat × σ) :=
  result.map fun rest => (out ++ rest.1, rest.2)

/-- What a machine writes while it reads, and the state that it ends in. -/
def transduce (step : σ → Nat → Option (List Nat × σ)) : σ → List Nat → Option (List Nat × σ)
  | s, [] => some ([], s)
  | s, u :: us =>
    match step s u with
    | some (out, t) => behind out (transduce step t us)
    | none => none

variable {step : σ → Nat → Option (List Nat × σ)} {s t : σ} {us out : List Nat}

theorem transduce_cons_of_eq_some {u : Nat} (h : step s u = some (out, t)) (us : List Nat) :
    transduce step s (u :: us) = behind out (transduce step t us) := by
  rw [transduce, h]

theorem transduce_append_of_eq_some (h : transduce step s us = some (out, t)) (vs : List Nat) :
    transduce step s (us ++ vs) = behind out (transduce step t vs) := by
  induction us generalizing s out with
  | nil =>
    cases h
    exact (congrFun Option.map_id _).symm
  | cons u us ih =>
    rw [transduce] at h
    split at h
    case h_1 first middle hfirst =>
      obtain ⟨⟨rest, last⟩, hrest, he⟩ := Option.map_eq_some_iff.1 h
      cases he
      rw [List.cons_append, transduce_cons_of_eq_some hfirst, ih hrest, behind, behind, behind,
        Option.map_map]
      apply congrArg (Option.map · (transduce step last vs))
      funext final
      exact Prod.ext (List.append_assoc _ _ _).symm rfl
    case h_2 => cases h

theorem transduce_append_of_eq_none (h : transduce step s us = none) (vs : List Nat) :
    transduce step s (us ++ vs) = none := by
  induction us generalizing s with
  | nil => cases h
  | cons u us ih =>
    rw [transduce] at h
    rw [List.cons_append, transduce]
    split at h
    case h_1 first middle hfirst =>
      rw [behind, Option.map_eq_none_iff] at h
      rw [ih h]
      rfl
    case h_2 => rfl

theorem transduce_copy (h : ∀ u ∈ us, step s u = some ([u], s)) :
    transduce step s us = some (us, s) := by
  induction us with
  | nil => rfl
  | cons u us ih =>
    obtain ⟨hu, hus⟩ := List.forall_mem_cons.1 h
    rw [transduce_cons_of_eq_some hu, ih hus]
    rfl

/-- A machine that comes back to its state behind every good item, and stops at any other one. -/
theorem transduce_flatMap {α : Type} {P : α → Prop} [DecidablePred P] {f g : α → List Nat}
    (h : ∀ a, transduce step s (f a) = if P a then some (g a, s) else none) (l : List α) :
    transduce step s (l.flatMap f) = if ∀ a ∈ l, P a then some (l.flatMap g, s) else none := by
  induction l with
  | nil =>
    rw [if_pos fun _ ha => absurd ha List.not_mem_nil]
    rfl
  | cons a l ih =>
    rw [List.flatMap_cons]
    by_cases ha : P a
    case pos =>
      rw [transduce_append_of_eq_some ((h a).trans (if_pos ha)), ih]
      by_cases hl : ∀ b ∈ l, P b
      case pos =>
        rw [if_pos hl, if_pos (List.forall_mem_cons.2 ⟨ha, hl⟩)]
        rfl
      case neg =>
        rw [if_neg hl, if_neg fun hall => hl (List.forall_mem_cons.1 hall).2]
        rfl
    case neg =>
      rw [transduce_append_of_eq_none ((h a).trans (if_neg ha)),
        if_neg fun hall => ha (List.forall_mem_cons.1 hall).1]

end Machine

/-- How much of a Unicode escape has been read. -/
inductive Pending
  | text
  /-- a backslash behind an even number of them -/
  | backslash
  /-- one or more letters `u` -/
  | marks
  /-- some digits, and how many come after the next one -/
  | digits (left value : Nat)

namespace Pending

/-- The first translation of a source text. A backslash behind an odd number of them starts no
Unicode escape. -/
def step : Pending → Nat → Option (List Nat × Pending)
  | text, u => if u = '\\'.toNat then some ([], backslash) else some ([u], text)
  | backslash, u => if u = 'u'.toNat then some ([], marks) else some (['\\'.toNat, u], text)
  | marks, u =>
    if u = 'u'.toNat then some ([], marks)
    else (Numeral.digit? 16 (Char.ofNat u)).map fun d => ([], digits 2 d)
  | digits left value, u =>
    (Numeral.digit? 16 (Char.ofNat u)).map fun d =>
      if left = 0 then ([16 * value + d], text) else ([], digits (left - 1) (16 * value + d))

def rest? : Pending → Option (List Nat)
  | text => some []
  | backslash => some ['\\'.toNat]
  | marks | digits _ _ => none

end Pending

def translate? (us : List Nat) : Option (List Nat) :=
  (transduce Pending.step .text us).bind fun (out, pending) => pending.rest?.map (out ++ ·)

inductive Part
  | opening
  | text
  | escape
  /-- some octal digits, and how many more there may be -/
  | octal (left value : Nat)
  | closed
deriving DecidableEq

namespace Part

def simpleEscapes : List (Char × Char) := [
  ('b', '\x08'), ('s', ' '), ('t', '\t'), ('n', '\n'), ('f', '\x0c'), ('r', '\r'),
  ('\x22', '\x22'), ('\x27', '\x27'), ('\\', '\\')]

def lineEnds : List Char := ['\n', '\r']

theorem mem_lineEnds_iff {c : Char} : c ∈ lineEnds ↔ c = '\n' ∨ c = '\r' := by
  rw [lineEnds, List.mem_cons, List.mem_singleton]

def textStep (u : Nat) : Option (List Nat × Part) :=
  if u = '\x22'.toNat then some ([], closed)
  else if u = '\\'.toNat then some ([], escape)
  else if u ∈ lineEnds.map Char.toNat then none
  else some ([u], text)

/-- The reading of a string literal behind the first translation. -/
def step : Part → Nat → Option (List Nat × Part)
  | opening, u => if u = '\x22'.toNat then some ([], text) else none
  | text, u => textStep u
  | escape, u =>
    match simpleEscapes.find? fun e => e.1.toNat = u with
    | some e => some ([e.2.toNat], text)
    | none =>
      (Numeral.digit? 8 (Char.ofNat u)).map fun d => ([], octal (if d < 4 then 2 else 1) d)
  | octal left value, u =>
    match (Numeral.digit? 8 (Char.ofNat u)).filter fun _ => left ≠ 0 with
    | some d => some ([], octal (left - 1) (8 * value + d))
    | none => (textStep u).map fun (out, part) => (value :: out, part)
  | closed, _ => none

end Part

/-- The units of the string that a source text denotes, if it is one string literal. -/
def readString? (source : String) : Option (List Nat) :=
  (translate? (units source.toList)).bind fun us =>
    (transduce Part.step .opening us).bind fun (value, part) =>
      if part = .closed then some value else none

section Escapes

variable {c : Char}

theorem units_singleton (c : Char) : units [c] = charUnits c := List.flatMap_singleton _ _

theorem not_mem_charUnits {d : Char} (hd : d.toNat < 0xD800) (h : c ≠ d) :
    d.toNat ∉ charUnits c :=
  fun hmem => h (eq_of_toNat_mem_charUnits hd hmem)

theorem translate_escapeChar (c : Char) :
    transduce Pending.step .text (units (escapeChar c)) = some (units (escapeChar c), .text) := by
  by_cases hc : c = '\\' ∨ c = '\x22'
  case pos =>
    rw [escapeChar, if_pos hc]
    rcases hc with rfl | rfl
    · rfl
    · rfl
  case neg =>
    rw [escapeChar, if_neg hc, units_singleton]
    rw [not_or] at hc
    apply transduce_copy
    intro u hu
    have hne : u ≠ '\\'.toNat := fun he => not_mem_charUnits (by decide) hc.1 (he ▸ hu)
    rw [Pending.step, if_neg hne]

theorem read_escapeChar (c : Char) : transduce Part.step .text (units (escapeChar c)) =
    if c ∉ Part.lineEnds then some (charUnits c, .text) else none := by
  by_cases hc : c = '\\' ∨ c = '\x22'
  case pos =>
    rw [escapeChar, if_pos hc]
    rcases hc with rfl | rfl
    · rfl
    · rfl
  case neg =>
    rw [escapeChar, if_neg hc, units_singleton]
    by_cases hend : c ∈ Part.lineEnds
    case pos =>
      rw [if_neg (not_not_intro hend)]
      rcases Part.mem_lineEnds_iff.1 hend with rfl | rfl
      · rfl
      · rfl
    case neg =>
      rw [if_pos hend]
      rw [not_or] at hc
      apply transduce_copy
      intro u hu
      have hquote : u ≠ '\x22'.toNat := fun he => not_mem_charUnits (by decide) hc.2 (he ▸ hu)
      have hslash : u ≠ '\\'.toNat := fun he => not_mem_charUnits (by decide) hc.1 (he ▸ hu)
      have hline : u ∉ Part.lineEnds.map Char.toNat := by
        intro hmem
        obtain ⟨d, hd, rfl⟩ := List.mem_map.1 hmem
        have hlow : d.toNat < 0xD800 := by
          rcases Part.mem_lineEnds_iff.1 hd with rfl | rfl
          · decide
          · decide
        exact hend (eq_of_toNat_mem_charUnits hlow hu ▸ hd)
      rw [Part.step, Part.textStep, if_neg hquote, if_neg hslash, if_neg hline]

end Escapes

theorem units_append (cs ds : List Char) : units (cs ++ ds) = units cs ++ units ds :=
  List.flatMap_append

theorem units_escape (cs : List Char) :
    units (cs.flatMap escapeChar) = cs.flatMap fun c => units (escapeChar c) :=
  List.flatMap_assoc

section Literal

variable {value text : String}

theorem units_stringLiteral (value : String) : units (stringLiteral value).toList =
    ['\x22'.toNat] ++
      ((value.toList.flatMap fun c => units (escapeChar c)) ++ ['\x22'.toNat]) := by
  rw [stringLiteral, String.toList_ofList, ← List.singleton_append, units_append, units_append,
    units_escape]
  rfl

/-- There is no Unicode escape in a literal, whatever stands behind a backslash in its text. -/
theorem translate_stringLiteral (value : String) :
    translate? (units (stringLiteral value).toList) =
      some (units (stringLiteral value).toList) := by
  have hopen : transduce Pending.step .text ['\x22'.toNat] = some (['\x22'.toNat], .text) := rfl
  have hescaped : transduce Pending.step .text
      (value.toList.flatMap fun c => units (escapeChar c)) =
      some (value.toList.flatMap fun c => units (escapeChar c), .text) := by
    rw [transduce_flatMap (P := fun _ => True) fun c => (translate_escapeChar c).trans
      (if_pos trivial).symm]
    exact if_pos fun _ _ => trivial
  rw [translate?, units_stringLiteral, transduce_append_of_eq_some hopen,
    transduce_append_of_eq_some hescaped]
  simp [transduce, behind, Pending.step, Pending.rest?]

def BreaksLine (text : String) : Prop := ∃ c ∈ text.toList, c ∈ Part.lineEnds

theorem not_breaksLine_iff : ¬ BreaksLine text ↔ ∀ c ∈ text.toList, c ∉ Part.lineEnds := by
  rw [BreaksLine, not_exists]
  exact forall_congr' fun c => not_and

theorem readString?_of_not_breaksLine (h : ¬ BreaksLine value) :
    readString? (stringLiteral value) = some (units value.toList) := by
  have hopen : transduce Part.step .opening ['\x22'.toNat] = some ([], .text) := rfl
  have hread := transduce_flatMap read_escapeChar value.toList
  rw [if_pos (not_breaksLine_iff.1 h)] at hread
  rw [readString?, translate_stringLiteral, Option.bind_some, units_stringLiteral,
    transduce_append_of_eq_some hopen, transduce_append_of_eq_some hread]
  simp [transduce, behind, Part.step, Part.textStep, units]

theorem readString?_of_breaksLine (h : BreaksLine value) :
    readString? (stringLiteral value) = none := by
  have hopen : transduce Part.step .opening ['\x22'.toNat] = some ([], .text) := rfl
  have hread := transduce_flatMap read_escapeChar value.toList
  rw [if_neg fun hall => not_breaksLine_iff.2 hall h] at hread
  rw [readString?, translate_stringLiteral, Option.bind_some, units_stringLiteral,
    transduce_append_of_eq_some hopen, transduce_append_of_eq_none hread]
  rfl

theorem exists_readString?_iff :
    (∃ us, readString? (stringLiteral value) = some us) ↔ ¬ BreaksLine value := by
  constructor
  · rintro ⟨us, hus⟩ h
    cases (readString?_of_breaksLine h).symm.trans hus
  · intro h
    exact ⟨_, readString?_of_not_breaksLine h⟩

/-- Reading the literal of a text gives the text back if and only if it breaks no line. -/
theorem readString?_eq_some_iff :
    readString? (stringLiteral value) = some (units text.toList) ↔
      text = value ∧ ¬ BreaksLine value := by
  constructor
  · intro h
    have hbreaks := exists_readString?_iff.1 ⟨_, h⟩
    have hunits := Option.some.inj (h.symm.trans (readString?_of_not_breaksLine hbreaks))
    exact ⟨String.toList_inj.1 (units_inj hunits), hbreaks⟩
  · rintro ⟨rfl, hbreaks⟩
    exact readString?_of_not_breaksLine hbreaks

end Literal

end GirBind.Java
