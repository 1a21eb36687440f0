import GirBind.Java.Name
import GirBind.Proofs.UpperCase
import GirBind.Text.Blank
import GirBind.Text.Lines
import Mathlib.Data.List.Chain
import Mathlib.Data.List.TakeWhile

namespace GirBind

/-- No slash stands right behind an asterisk, where it would end a block comment. -/
def NoTerminator (cs : List Char) : Prop := cs.IsChain fun a b => a = '*' → b ≠ '/'

namespace NoTerminator

variable {c : Char} {cs a b : List Char}

instance (cs : List Char) : Decidable (NoTerminator cs) :=
  inferInstanceAs (Decidable (cs.IsChain _))

theorem cons_iff : NoTerminator (c :: cs) ↔
    (c = '*' → cs.head? ≠ some '/') ∧ NoTerminator cs := by
  rw [NoTerminator, List.isChain_cons]
  refine and_congr_left fun _ => ⟨fun h hc hhead => h '/' hhead hc rfl, ?_⟩
  rintro h _ hy hc rfl
  exact h hc hy

theorem append_iff : NoTerminator (a ++ b) ↔
    NoTerminator a ∧ NoTerminator b ∧ (a.getLast? = some '*' → b.head? ≠ some '/') := by
  rw [NoTerminator, List.isChain_append]
  refine and_congr_right fun _ => and_congr_right fun _ => ⟨fun h hlast hhead =>
    h '*' hlast '/' hhead rfl rfl, ?_⟩
  rintro h _ hx _ hy rfl rfl
  exact h hx hy

theorem iff_forall : NoTerminator cs ↔ ∀ before behind, cs ≠ before ++ '*' :: '/' :: behind := by
  rw [NoTerminator, List.isChain_iff_forall_rel_of_append_cons_cons]
  constructor
  · rintro h before behind rfl
    exact h rfl rfl rfl
  · rintro h _ _ before behind rfl rfl rfl
    exact h before behind rfl

theorem of_infix (h : NoTerminator cs) (ha : a <:+: cs) : NoTerminator a := List.IsChain.infix h ha

theorem of_not_mem_star (h : '*' ∉ cs) : NoTerminator cs := by
  rw [iff_forall]
  rintro before behind rfl
  exact h (List.mem_append_right _ List.mem_cons_self)

theorem of_not_mem_slash (h : '/' ∉ cs) : NoTerminator cs := by
  rw [iff_forall]
  rintro before behind rfl
  exact h (List.mem_append_right _ (List.mem_cons_of_mem _ List.mem_cons_self))

theorem around_iff (hstar : c ≠ '*') (hslash : c ≠ '/') :
    NoTerminator (a ++ c :: b) ↔ NoTerminator a ∧ NoTerminator b := by
  rw [append_iff, cons_iff]
  constructor
  · exact fun h => ⟨h.1, h.2.1.2⟩
  · exact fun h => ⟨h.1, ⟨fun hc => absurd hc hstar, h.2⟩,
      fun _ hhead => hslash (Option.some.inj hhead)⟩

theorem blank_append_iff (ha : ∀ c ∈ a, Text.isBlank c = true) :
    NoTerminator (a ++ b) ↔ NoTerminator b := by
  have hstar : '*' ∉ a := fun h => absurd (ha _ h) (by decide)
  rw [append_iff]
  exact ⟨fun h => h.2.1, fun h => ⟨of_not_mem_star hstar, h,
    fun hlast => absurd (List.mem_of_getLast? hlast) hstar⟩⟩

theorem append_blank_iff (hb : ∀ c ∈ b, Text.isBlank c = true) :
    NoTerminator (a ++ b) ↔ NoTerminator a := by
  have hslash : '/' ∉ b := fun h => absurd (hb _ h) (by decide)
  rw [append_iff]
  exact ⟨fun h => h.1, fun h => ⟨h, of_not_mem_slash hslash,
    fun _ hhead => hslash (List.mem_of_head? hhead)⟩⟩

/-- A character and what it becomes: the two of a terminator and line breaks stay, and nothing else
becomes one of them. -/
def IsImage (c : Char) (b : List Char) : Prop :=
  if c ∈ ['*', '/', '\n'] then b = [c] else b ≠ [] ∧ ∀ s ∈ ['*', '/', '\n'], s ∉ b

instance (c : Char) (b : List Char) : Decidable (IsImage c b) := by
  have := List.decidableBAll (· ∉ b) ['*', '/', '\n']
  dsimp only [IsImage]
  infer_instance

theorem IsImage.singleton (c : Char) : IsImage c [c] := by
  rw [IsImage]
  split
  case isTrue => rfl
  case isFalse h =>
    exact ⟨List.cons_ne_nil _ _, fun s hs hmem => h (List.mem_singleton.1 hmem ▸ hs)⟩

theorem IsImage.ne_nil (h : IsImage c b) : b ≠ [] := by
  rw [IsImage] at h
  split at h
  case isTrue => exact h ▸ List.cons_ne_nil _ _
  case isFalse => exact h.1

theorem IsImage.noTerminator (h : IsImage c b) : NoTerminator b := by
  rw [IsImage] at h
  split at h
  case isTrue => exact h ▸ .singleton c
  case isFalse => exact of_not_mem_star (h.2 '*' (by decide))

theorem IsImage.mem_iff {s : Char} (h : IsImage c b) (hs : s ∈ ['*', '/', '\n']) :
    (s ∈ b ↔ s = c) ∧ (b.head? = some s ↔ c = s) ∧ (b.getLast? = some s ↔ c = s) := by
  rw [IsImage] at h
  split at h
  case isTrue =>
    subst h
    exact ⟨List.mem_singleton, Option.some_inj, Option.some_inj⟩
  case isFalse hc =>
    have hmem := h.2 s hs
    have hne : c ≠ s := fun hcs => hc (hcs ▸ hs)
    exact ⟨iff_of_false hmem hne.symm, iff_of_false (fun h => hmem (List.mem_of_head? h)) hne,
      iff_of_false (fun h => hmem (List.mem_of_getLast? h)) hne⟩

theorem mem_flatten_iff {bs : List (List Char)} (h : List.Forall₂ IsImage cs bs) :
    '\n' ∈ bs.flatten ↔ '\n' ∈ cs := by
  induction h with
  | nil => rfl
  | cons hc _ ih =>
    rw [List.flatten_cons, List.mem_append, (hc.mem_iff (by decide)).1, ih, List.mem_cons]

theorem flatten_iff {bs : List (List Char)} (h : List.Forall₂ IsImage cs bs) :
    NoTerminator bs.flatten ↔ NoTerminator cs := by
  induction h with
  | nil => rfl
  | @cons c b cs bs hc hcs ih =>
    have hhead : bs.flatten.head? = some '/' ↔ cs.head? = some '/' := by
      cases hcs with
      | nil => rfl
      | cons hd _ =>
        rw [List.flatten_cons, List.head?_append_of_ne_nil _ hd.ne_nil,
          (hd.mem_iff (by decide)).2.1, List.head?_cons, Option.some_inj]
    rw [List.flatten_cons, append_iff, cons_iff, ih, (hc.mem_iff (by decide)).2.2, Ne, hhead]
    exact ⟨fun h => ⟨h.2.2, h.2.1⟩, fun h => ⟨hc.noTerminator, h.2, h.1⟩⟩

theorem flatMap_iff {f : Char → List Char} (h : ∀ c, IsImage c (f c)) :
    NoTerminator (cs.flatMap f) ↔ NoTerminator cs := by
  rw [List.flatMap]
  exact flatten_iff (List.forall₂_map_right_iff.2 (List.forall₂_same.2 fun c _ => h c))

theorem trimEndChars_iff : NoTerminator (Text.trimEndChars cs) ↔ NoTerminator cs := by
  have hcs : Text.trimEndChars cs ++ (cs.reverse.takeWhile Text.isBlank).reverse = cs := by
    rw [Text.trimEndChars, ← List.reverse_append, List.takeWhile_append_dropWhile,
      List.reverse_reverse]
  have hblank : ∀ c ∈ (cs.reverse.takeWhile Text.isBlank).reverse, Text.isBlank c = true :=
    fun c hc => List.mem_takeWhile_imp (List.mem_reverse.1 hc)
  rw [← append_blank_iff hblank, hcs]

theorem trimChars_iff : NoTerminator (Text.trimChars cs) ↔ NoTerminator cs := by
  have hblank : ∀ c ∈ cs.takeWhile Text.isBlank, Text.isBlank c = true :=
    fun c hc => List.mem_takeWhile_imp hc
  rw [show Text.trimChars cs = Text.trimEndChars (cs.dropWhile Text.isBlank) from rfl,
    trimEndChars_iff, ← blank_append_iff hblank, List.takeWhile_append_dropWhile]

theorem dropReturn_iff : NoTerminator (Text.dropReturn cs) ↔ NoTerminator cs := by
  rw [Text.dropReturn]
  split
  case isTrue hlast =>
    have hreturn : ∀ c ∈ ['\r'], Text.isBlank c = true := List.forall_mem_singleton.2 (by decide)
    rw [← append_blank_iff hreturn, List.dropLast_append_getLast? _ hlast]
  case isFalse => rfl

theorem lines_iff : (∀ line ∈ Text.lines cs, NoTerminator line) ↔ NoTerminator cs := by
  fun_induction Text.lines cs with
  | case1 cs _ hempty =>
    rw [List.isEmpty_iff.1 hempty]
    exact iff_of_true (fun _ h => absurd h List.not_mem_nil) .nil
  | case2 cs => exact List.forall_mem_singleton
  | case3 cs c rest hrest ih =>
    obtain rfl : c = '\n' := by
      have hhead := List.head?_dropWhile_not (· != '\n') cs
      rw [hrest] at hhead
      exact of_not_not fun hne => Bool.noConfusion (hhead.symm.trans (bne_iff_ne.2 hne))
    have hcs : cs.takeWhile (· != '\n') ++ '\n' :: rest = cs := by
      rw [← hrest, List.takeWhile_append_dropWhile]
    rw [List.forall_mem_cons, ih, dropReturn_iff]
    exact (around_iff (by decide) (by decide)).symm.trans (iff_of_eq (congrArg NoTerminator hcs))

theorem escapeKeyword_iff (name : String) :
    NoTerminator (Java.escapeKeyword name).toList ↔ NoTerminator name.toList := by
  rw [Java.escapeKeyword]
  split
  case isTrue =>
    rw [String.toList_append]
    exact (around_iff (b := []) (by decide) (by decide)).trans (and_iff_left .nil)
  case isFalse => rfl

theorem isImage_codes {codes : List Nat} (hc : ¬c.toNat < 0x80) (hne : codes ≠ [])
    (h : ∀ code ∈ codes, 47 < code) : IsImage c (codes.map Char.ofNat) := by
  have hsigns : ∀ s ∈ ['*', '/', '\n'], s.toNat ≠ 0 ∧ s.toNat ≤ 47 :=
    List.forall_mem_cons.2 ⟨by decide,
      List.forall_mem_cons.2 ⟨by decide, List.forall_mem_singleton.2 (by decide)⟩⟩
  have hsign : c ∉ ['*', '/', '\n'] := fun hmem =>
    hc (Nat.lt_of_le_of_lt (hsigns c hmem).2 (by decide))
  rw [IsImage, if_neg hsign]
  refine ⟨fun h => hne (List.map_eq_nil_iff.1 h), fun s hs hmem => ?_⟩
  obtain ⟨hzero, hle⟩ := hsigns s hs
  rcases Text.toNat_mem_of_mem_map_ofNat hmem with hcode | hnone
  · exact absurd (h _ hcode) (Nat.not_lt.2 hle)
  · exact hzero hnone

theorem isImage_upperChar (c : Char) : IsImage c (Text.upperChar c) := by
  rcases Text.upperChar_cases c with ⟨hc, hupper⟩ | ⟨hc, hupper | ⟨codes, hne, hcodes, hupper⟩⟩
  · have hall : ∀ n < 0x80, IsImage (Char.ofNat n) [(Char.ofNat n).toUpper] := by decide +kernel
    have himage := hall c.toNat hc
    rwa [Char.ofNat_toNat, ← hupper] at himage
  · exact hupper ▸ .singleton c
  · exact hupper ▸ isImage_codes hc hne fun code hcode => (hcodes code hcode).lt

theorem upper_iff (s : String) : NoTerminator (Text.upper s).toList ↔ NoTerminator s.toList := by
  rw [Text.upper, String.toList_ofList]
  exact flatMap_iff isImage_upperChar

/-- What a name keeps in camel case. -/
def letters (cs : List Char) : List Char := cs.filter fun c => c != '_' && c != '-'

theorem exists_camelChars (capital : Bool) (cs : List Char) : ∃ bs,
    List.Forall₂ IsImage (letters cs) bs ∧ Java.camelChars capital cs = bs.flatten := by
  induction cs generalizing capital with
  | nil => exact ⟨[], .nil, rfl⟩
  | cons c cs ih =>
    by_cases hc : c = '_' ∨ c = '-'
    case pos =>
      have hdrop : (c != '_' && c != '-') = false := by
        rcases hc with rfl | rfl
        · rfl
        · rfl
      rw [Java.camelChars, if_pos hc, letters, List.filter_cons, hdrop, if_neg Bool.false_ne_true]
      exact ih true
    case neg =>
      obtain ⟨bs, hbs, hcs⟩ := ih false
      have hkeep : (c != '_' && c != '-') = true := by
        rw [not_or] at hc
        rw [bne_iff_ne.2 hc.1, bne_iff_ne.2 hc.2, Bool.and_self]
      rw [Java.camelChars, if_neg hc, letters, List.filter_cons, hkeep, if_pos rfl, hcs]
      refine ⟨_ :: bs, .cons ?_ hbs, List.flatten_cons.symm⟩
      split
      case isTrue => exact isImage_upperChar c
      case isFalse => exact .singleton c

theorem camelCase_iff (capital : Bool) (name : String) :
    NoTerminator (Java.camelCase capital name).toList ↔ NoTerminator (letters name.toList) := by
  obtain ⟨bs, hbs, hname⟩ := exists_camelChars capital name.toList
  rw [Java.camelCase, String.toList_ofList, hname, flatten_iff hbs]

theorem memberName_iff (name : String) :
    NoTerminator (Java.memberName name).toList ↔ NoTerminator (letters name.toList) := by
  rw [Java.memberName, escapeKeyword_iff, camelCase_iff]

theorem not_mem_memberName {name : String} (h : '\n' ∉ name.toList) :
    '\n' ∉ (Java.memberName name).toList := by
  have hcamel : '\n' ∉ (Java.camelCase false name).toList := by
    obtain ⟨bs, hbs, hname⟩ := exists_camelChars false name.toList
    rw [Java.camelCase, String.toList_ofList, hname, mem_flatten_iff hbs]
    exact fun hmem => h (List.mem_filter.1 hmem).1
  rw [Java.memberName, Java.escapeKeyword]
  split
  case isTrue =>
    rw [String.toList_append, List.mem_append, not_or]
    exact ⟨hcamel, by decide⟩
  case isFalse => exact hcamel

theorem of_letters (h : NoTerminator (letters cs)) : NoTerminator cs := by
  rw [iff_forall] at h ⊢
  rintro before behind rfl
  refine h (letters before) (letters behind) ?_
  rw [letters, List.filter_append, List.filter_cons, List.filter_cons]
  rfl

theorem letters_infix (h : a <:+: cs) : letters a <:+: letters cs := h.filter _

end NoTerminator

theorem Text.not_mem_lines {cs : List Char} : ∀ line ∈ Text.lines cs, '\n' ∉ line := by
  fun_induction Text.lines cs with
  | case1 => exact fun _ h => absurd h List.not_mem_nil
  | case2 cs hrest =>
    refine List.forall_mem_singleton.2 fun hmem => ?_
    have hall := List.dropWhile_eq_nil_iff.1 hrest _ hmem
    exact absurd hall (by decide)
  | case3 cs c rest _ ih =>
    refine List.forall_mem_cons.2 ⟨fun hmem => ?_, ih⟩
    have htake : '\n' ∈ cs.takeWhile (· != '\n') := by
      rw [Text.dropReturn] at hmem
      split at hmem
      case isTrue => exact (List.dropLast_sublist _).subset hmem
      case isFalse => exact hmem
    exact absurd (List.mem_takeWhile_imp htake) (by decide)

end GirBind
