import GirBind.Java.Name
import GirBind.Proofs.UpperCase
import Mathlib.Data.List.Basic

namespace GirBind.Java

def signs : List Char := ['_', '-']

theorem mem_signs_iff {c : Char} : c ∈ signs ↔ c = '_' ∨ c = '-' := by
  rw [signs, List.mem_cons, List.mem_singleton]

/-- What upper case makes of a character: something, without small letters of ASCII, and without
signs unless the character is one. -/
def IsRaised (c : Char) (b : List Char) : Prop :=
  b ≠ [] ∧ ∀ d ∈ b, d.isLower = false ∧ (d ∈ signs → d = c)

theorem not_mem_signs_of_isRaisedCode {c : Char} (h : Text.IsRaisedCode c.toNat) : c ∉ signs := by
  intro hmem
  rcases mem_signs_iff.1 hmem with rfl | rfl
  · exact absurd h (by decide)
  · exact absurd h (by decide)

theorem isRaised_upperChar (c : Char) : IsRaised c (Text.upperChar c) := by
  rcases Text.upperChar_cases c with ⟨hc, hupper⟩ | ⟨hc, hupper | ⟨codes, hne, hcodes, hupper⟩⟩
  · have hascii : ∀ n < 0x80, (Char.ofNat n).toUpper.isLower = false ∧
        ((Char.ofNat n).toUpper ∈ signs → (Char.ofNat n).toUpper = Char.ofNat n) := by
      decide +kernel
    have hraised := hascii c.toNat hc
    rw [Char.ofNat_toNat] at hraised
    rw [hupper]
    exact ⟨List.cons_ne_nil _ _, List.forall_mem_singleton.2 hraised⟩
  · have hraised : Text.IsRaisedCode c.toNat := by
      rw [Text.IsRaisedCode]
      omega
    rw [hupper]
    exact ⟨List.cons_ne_nil _ _, List.forall_mem_singleton.2 ⟨hraised.isLower, fun _ => rfl⟩⟩
  · rw [hupper]
    refine ⟨fun hnil => hne (List.map_eq_nil_iff.1 hnil), fun d hd => ?_⟩
    rcases Text.toNat_mem_of_mem_map_ofNat hd with hcode | hzero
    · have hraised := hcodes _ hcode
      exact ⟨hraised.isLower, fun hsign => absurd hsign (not_mem_signs_of_isRaisedCode hraised)⟩
    · obtain rfl : d = '\x00' := Char.toNat_inj.1 hzero
      exact ⟨rfl, fun hsign => absurd hsign (by decide)⟩

section CamelCase

variable {capital : Bool} {c : Char} {cs : List Char}

theorem camelChars_sign (h : c ∈ signs) : camelChars capital (c :: cs) = camelChars true cs := by
  rw [camelChars, if_pos (mem_signs_iff.1 h)]

theorem camelChars_letter (h : c ∉ signs) : camelChars capital (c :: cs) =
    (if capital then Text.upperChar c else [c]) ++ camelChars false cs := by
  rw [camelChars, if_neg fun hc => h (mem_signs_iff.2 hc)]

theorem not_mem_signs_of_mem_camelChars {d : Char} (h : d ∈ camelChars capital cs) :
    d ∉ signs := by
  induction cs generalizing capital with
  | nil => cases h
  | cons c cs ih =>
    by_cases hc : c ∈ signs
    case pos =>
      rw [camelChars_sign hc] at h
      exact ih h
    case neg =>
      rw [camelChars_letter hc, List.mem_append] at h
      rcases h with hd | hd
      · cases capital with
        | false => exact List.mem_singleton.1 hd ▸ hc
        | true =>
          intro hsign
          exact hc (((isRaised_upperChar c).2 d hd).2 hsign ▸ hsign)
      · exact ih hd

theorem camelChars_of_forall_not_mem_signs (h : ∀ c ∈ cs, c ∉ signs) :
    camelChars false cs = cs := by
  induction cs with
  | nil => rfl
  | cons c cs ih =>
    obtain ⟨hc, hcs⟩ := List.forall_mem_cons.1 h
    rw [camelChars_letter hc, if_neg Bool.false_ne_true, ih hcs, List.singleton_append]

theorem camelChars_append_sign (h : c ∈ signs) :
    camelChars capital (cs ++ [c]) = camelChars capital cs := by
  induction cs generalizing capital with
  | nil => exact camelChars_sign h
  | cons d cs ih =>
    rw [List.cons_append]
    by_cases hd : d ∈ signs
    case pos => rw [camelChars_sign hd, camelChars_sign hd, ih]
    case neg => rw [camelChars_letter hd, camelChars_letter hd, ih]

theorem isLower_head?_camelChars {d : Char} (h : d ∈ (camelChars true cs).head?) :
    d.isLower = false := by
  induction cs with
  | nil => cases h
  | cons c cs ih =>
    by_cases hc : c ∈ signs
    case pos =>
      rw [camelChars_sign hc] at h
      exact ih h
    case neg =>
      obtain ⟨hne, hraised⟩ := isRaised_upperChar c
      rw [camelChars_letter hc, if_pos rfl, List.head?_append_of_ne_nil _ hne] at h
      exact (hraised d (List.mem_of_head? h)).1

end CamelCase

def IsJoined (name : String) : Prop := ∀ c ∈ name.toList, c ∉ signs

/-- A name with at most one underscore behind it. -/
def IsMarked (base name : String) : Prop := name = base ∨ name = base ++ "_"

theorem isJoined_camelCase (capital : Bool) (name : String) :
    IsJoined (camelCase capital name) := by
  intro c hc
  rw [camelCase, String.toList_ofList] at hc
  exact not_mem_signs_of_mem_camelChars hc

theorem camelCase_of_isMarked {base name : String} (hbase : IsJoined base)
    (h : IsMarked base name) : camelCase false name = base := by
  have hcamel : camelChars false base.toList = base.toList :=
    camelChars_of_forall_not_mem_signs hbase
  rcases h with rfl | rfl
  · rw [camelCase, hcamel, String.ofList_toList]
  · rw [camelCase, String.toList_append, show "_".toList = ['_'] from rfl,
      camelChars_append_sign (by decide), hcamel, String.ofList_toList]

theorem isMarked_escapeKeyword (name : String) : IsMarked name (escapeKeyword name) := by
  rw [escapeKeyword]
  split
  case isTrue => exact .inr rfl
  case isFalse => exact .inl rfl

theorem marked_not_mem {words : List String} (h : ∀ word ∈ words, '_' ∉ word.toList)
    (name : String) : name ++ "_" ∉ words := by
  intro hmem
  apply h _ hmem
  rw [String.toList_append]
  exact List.mem_append_right _ List.mem_cons_self

theorem underscore_not_mem_keywords : ∀ word ∈ keywords, '_' ∉ word.toList := by decide +kernel

theorem underscore_not_mem_objectMethods : ∀ word ∈ objectMethods, '_' ∉ word.toList := by decide

theorem toLower_append_underscore (name : String) :
    (name ++ "_").toLower = name.toLower ++ "_" := by
  apply String.toList_inj.1
  change ((name ++ "_").map Char.toLower).toList = (name.map Char.toLower ++ "_").toList
  simp only [String.toList_map, String.toList_append, List.map_append]
  rfl

/-- The underscore behind a reserved word makes it another word in any case. -/
theorem toLower_escapeKeyword_not_mem (name : String) :
    (escapeKeyword name).toLower ∉ keywords := by
  rw [escapeKeyword]
  split
  case isTrue =>
    rw [toLower_append_underscore]
    exact marked_not_mem underscore_not_mem_keywords _
  case isFalse h => exact fun hmem => h (List.contains_iff_mem.2 hmem)

theorem escapeObjectMethod_not_mem (name : String) :
    escapeObjectMethod name ∉ objectMethods := by
  rw [escapeObjectMethod]
  split
  case isTrue => exact marked_not_mem underscore_not_mem_objectMethods _
  case isFalse h => exact fun hmem => h (List.contains_iff_mem.2 hmem)

def interfaceName (name : String) : String := escapeObjectMethod (memberName name)

theorem isMarked_memberName (name : String) :
    IsMarked (camelCase false name) (memberName name) :=
  isMarked_escapeKeyword _

theorem isMarked_interfaceName (name : String) :
    IsMarked (camelCase false name) (interfaceName name) := by
  rw [interfaceName, escapeObjectMethod]
  split
  case isTrue h =>
    rcases isMarked_memberName name with hname | hname
    · exact .inr (congrArg (· ++ "_") hname)
    · rw [hname] at h
      exact absurd (List.contains_iff_mem.1 h) (marked_not_mem underscore_not_mem_objectMethods _)
  case isFalse => exact isMarked_memberName name

theorem memberName_of_isMarked {name marked : String}
    (h : IsMarked (camelCase false name) marked) : memberName marked = memberName name := by
  rw [memberName, memberName, camelCase_of_isMarked (isJoined_camelCase false name) h]

/-- The name is not reserved in any case, and its only sign is at most one underscore behind the
words that it is made from. -/
structure IsSafe (base name : String) : Prop where
  unreserved : name.toLower ∉ keywords
  joined : IsJoined base
  marked : IsMarked base name

theorem isSafe_memberName (name : String) : IsSafe (camelCase false name) (memberName name) where
  unreserved := toLower_escapeKeyword_not_mem _
  joined := isJoined_camelCase false name
  marked := isMarked_memberName name

theorem isSafe_interfaceName (name : String) :
    IsSafe (camelCase false name) (interfaceName name) where
  unreserved := by
    rw [interfaceName, escapeObjectMethod]
    split
    case isTrue =>
      rw [toLower_append_underscore]
      exact marked_not_mem underscore_not_mem_keywords _
    case isFalse => exact toLower_escapeKeyword_not_mem _
  joined := isJoined_camelCase false name
  marked := isMarked_interfaceName name

theorem toLower_eq_self {name : String} (h : name ∈ keywords) : name.toLower = name := by
  have hall : ∀ word ∈ keywords, word.toList.map Char.toLower = word.toList := by decide +kernel
  apply String.toList_inj.1
  exact String.toList_map.trans (hall name h)

theorem IsSafe.not_mem_keywords {base name : String} (h : IsSafe base name) :
    name ∉ keywords := by
  intro hmem
  apply h.unreserved
  rwa [toLower_eq_self hmem]

theorem not_mem_keywords_of_head? {name : String}
    (h : ∀ c ∈ name.toList.head?, c.isLower = false) : name ∉ keywords := by
  have hall : ∀ word ∈ keywords, word.toList.head?.any Char.isLower = true := by decide +kernel
  intro hmem
  have hlower := hall name hmem
  cases hhead : name.toList.head? with
  | none =>
    rw [hhead] at hlower
    cases hlower
  | some c =>
    rw [hhead, Option.any_some, h c hhead] at hlower
    cases hlower

theorem simpleType_not_mem_keywords (name : String) : simpleType name ∉ keywords := by
  apply not_mem_keywords_of_head?
  intro c hc
  rw [simpleType, camelCase, String.toList_ofList] at hc
  exact isLower_head?_camelChars hc

theorem isLower_of_mem_upper {name : String} {c : Char} (h : c ∈ (Text.upper name).toList) :
    c.isLower = false := by
  rw [Text.upper, String.toList_ofList] at h
  obtain ⟨d, -, hc⟩ := List.mem_flatMap.1 h
  exact ((isRaised_upperChar d).2 c hc).1

theorem isLower_of_mem_constantName {name : String} {c : Char}
    (h : c ∈ (constantName name).toList) : c.isLower = false := by
  rw [constantName, prefixDigits] at h
  split at h
  case h_1 =>
    split at h
    case isTrue =>
      rw [String.toList_append] at h
      rcases List.mem_append.1 h with hc | hc
      · exact List.mem_singleton.1 hc ▸ rfl
      · exact isLower_of_mem_upper hc
    case isFalse => exact isLower_of_mem_upper h
  case h_2 => exact isLower_of_mem_upper h

theorem constantName_not_mem_keywords (name : String) : constantName name ∉ keywords := by
  apply not_mem_keywords_of_head?
  intro c hc
  exact isLower_of_mem_constantName (List.mem_of_head? hc)

theorem on_append_not_mem {words : List String}
    (h : ∀ word ∈ words, word.toList.take 2 ≠ ['o', 'n']) (name : String) :
    "on" ++ name ∉ words := by
  intro hmem
  apply h _ hmem
  rw [String.toList_append]
  rfl

end GirBind.Java
