import GirBind.Doc.Recognize
import Mathlib.Data.List.TakeWhile

namespace GirBind

namespace Text

variable {cs rest : List Char}

theorem takeWhile_stop {p : Char → Bool} {c : Char} (hcs : ∀ x ∈ cs, p x = true) (hc : p c = false)
    (rest : List Char) : (cs ++ c :: rest).takeWhile p = cs := by
  rw [List.takeWhile_append_of_pos hcs, List.takeWhile_cons, hc, if_neg Bool.false_ne_true,
    List.append_nil]

theorem span_stop {p q : Char → Bool} {c : Char} (h : ∀ x ∈ cs, p x = q x) (hc : p c = false)
    (rest : List Char) : (cs ++ c :: rest).takeWhile p = cs.takeWhile q ∧
      (cs ++ c :: rest).dropWhile p = cs.dropWhile q ++ c :: rest := by
  induction cs with
  | nil => simp only [List.nil_append, List.takeWhile_cons, List.dropWhile_cons, hc,
      Bool.false_eq_true, if_false, List.takeWhile_nil, List.dropWhile_nil, and_self]
  | cons x cs ih =>
    obtain ⟨hx, hcs⟩ := List.forall_mem_cons.1 h
    obtain ⟨htake, hdrop⟩ := ih hcs
    rw [List.cons_append, List.takeWhile_cons, List.dropWhile_cons, List.takeWhile_cons,
      List.dropWhile_cons, hx, htake, hdrop]
    cases q x with
    | true => exact ⟨rfl, rfl⟩
    | false => exact ⟨rfl, rfl⟩

theorem drop_length_takeWhile (p : Char → Bool) (cs : List Char) :
    cs.drop (cs.takeWhile p).length = cs.dropWhile p := by
  induction cs with
  | nil => rfl
  | cons c cs ih =>
    cases hc : p c with
    | true =>
      rw [List.takeWhile_cons_of_pos hc, List.dropWhile_cons_of_pos hc, ← ih]
      rfl
    | false =>
      rw [List.takeWhile_cons, List.dropWhile_cons, hc]
      rfl

theorem firstLine_append (h : '\n' ∉ cs) (rest : List Char) :
    firstLine (cs ++ rest) = cs ++ firstLine rest := by
  apply List.takeWhile_append_of_pos
  intro c hc
  exact bne_iff_ne.2 fun hbreak => h (hbreak ▸ hc)

theorem firstLine_subset (cs : List Char) : firstLine cs ⊆ cs := (List.takeWhile_sublist _).subset

theorem beforeLast?_eq_none {close : Char} (h : close ∉ cs) : beforeLast? close cs = none := by
  induction cs with
  | nil => rfl
  | cons c cs ih =>
    rw [List.mem_cons, not_or] at h
    rw [beforeLast?, ih h.2, if_neg (Ne.symm h.1)]

theorem beforeLast?_append {close : Char} (cs : List Char) (h : close ∉ rest) :
    beforeLast? close (cs ++ close :: rest) = some cs := by
  induction cs with
  | nil => rw [List.nil_append, beforeLast?, beforeLast?_eq_none h, if_pos rfl]
  | cons c cs ih => rw [List.cons_append, beforeLast?, ih]

theorem beforeLast?_firstLine {close : Char} (hcs : '\n' ∉ cs) (hclose : close ≠ '\n')
    (hrest : close ∉ rest) : beforeLast? close (firstLine (cs ++ close :: rest)) = some cs := by
  have hfirst : firstLine (close :: rest) = close :: firstLine rest := by
    have hne : (close != '\n') = true := bne_iff_ne.2 hclose
    rw [firstLine, List.takeWhile_cons, if_pos hne]
    rfl
  rw [firstLine_append hcs, hfirst]
  exact beforeLast?_append cs fun h => hrest (firstLine_subset rest h)

def EndsWord (cs : List Char) : Prop := ∀ c ∈ cs.head?, isWord c = false

theorem takeWhile_isWord (hcs : ∀ c ∈ cs, isWord c = true) (hrest : EndsWord rest) :
    (cs ++ rest).takeWhile isWord = cs := by
  cases rest with
  | nil => rw [List.append_nil, List.takeWhile_eq_self_iff.2 hcs]
  | cons c rest => exact takeWhile_stop hcs (hrest c rfl) rest

theorem inRanges_of_disjoint {a b : List (Nat × Nat)} {c : Char}
    (h : ∀ r ∈ a, ∀ s ∈ b, r.2 < s.1 ∨ s.2 < r.1) (hc : inRanges a c = true) :
    inRanges b c = false := by
  rw [Bool.eq_false_iff]
  intro hb
  obtain ⟨r, hr, hcr⟩ := List.any_eq_true.1 hc
  obtain ⟨s, hs, hcs⟩ := List.any_eq_true.1 hb
  rw [Bool.and_eq_true, decide_eq_true_eq, decide_eq_true_eq] at hcr hcs
  have := h r hr s hs
  omega

theorem isBlank_of_isWord {c : Char} (h : isWord c = true) : isBlank c = false := by
  rw [isWord, Bool.or_eq_true, Bool.or_eq_true] at h
  rcases h with (h | h) | h
  · have hascii : inRanges [(48, 57), (65, 90), (97, 122)] c = true := by
      change (decide (65 ≤ c.toNat ∧ c.toNat ≤ 90) ||
        (decide (97 ≤ c.toNat) && decide (c.toNat ≤ 122)) ||
        (decide (48 ≤ c.toNat) && decide (c.toNat ≤ 57))) = true at h
      simp only [inRanges, List.any_cons, List.any_nil, Bool.or_eq_true, Bool.and_eq_true,
        decide_eq_true_eq] at h ⊢
      omega
    exact inRanges_of_disjoint (by decide) hascii
  · rw [beq_iff_eq.1 h]
    rfl
  · exact inRanges_of_disjoint (by decide +kernel) h

theorem ne_of_isWord {c sign : Char} (hc : isWord c = true) (hsign : isWord sign = false) :
    c ≠ sign := by
  rintro rfl
  rw [hc] at hsign
  cases hsign

end Text

namespace Doc

open Text (isWord isBlank EndsWord beforeLast?_firstLine)

variable {c : Char} {cs rest : List Char}

theorem fenced?_of_ne {s : Char} (h : c ≠ s) (opening closing cs : List Char) :
    fenced? (s :: opening) closing (c :: cs) = none := by
  have hprefix : (s :: opening).isPrefixOf (c :: cs) = false := by
    rw [List.isPrefixOf, beq_false_of_ne h.symm, Bool.false_and]
  rw [fenced?, hprefix, if_neg Bool.false_ne_true]

theorem code?_of_ne (h : c ≠ '\x60') (cs : List Char) : code? (c :: cs) = none := by
  rw [code?]
  intro rest hrest
  exact h (List.cons.inj hrest).1

theorem link?_of_ne (h : c ≠ '[') (cs : List Char) : link? (c :: cs) = none := by
  rw [link?]
  intro rest hrest
  exact h (List.cons.inj hrest).1

theorem identifier?_of_ne (h : c ≠ '%') (cs : List Char) : identifier? (c :: cs) = none := by
  rw [identifier?]
  intro rest hrest
  exact h (List.cons.inj hrest).1

theorem sigil?_of_ne {sign : Char} (h : c ≠ sign) (make : String → Item) (cs : List Char) :
    sigil? sign make (c :: cs) = none := by
  cases cs with
  | nil => rfl
  | cons first rest => exact if_neg fun hall => h hall.1

theorem hyperlink?_of_ne (h : c ≠ '[') (cs : List Char) : hyperlink? (c :: cs) = none := by
  rw [hyperlink?]
  intro rest hrest
  exact h (List.cons.inj hrest).1

theorem image?_of_ne (h : c ≠ '!') (cs : List Char) : image? (c :: cs) = none := by
  rw [image?]
  intro rest hrest
  exact h (List.cons.inj hrest).1

theorem header?_of_ne (h : c ≠ '#') (cs : List Char) : header? (c :: cs) = none := by
  have hlevel : (c :: cs).takeWhile (· == '#') = [] := by
    rw [List.takeWhile_cons, beq_false_of_ne h, if_neg Bool.false_ne_true]
  rw [header?, hlevel]
  rfl

theorem bullet?_of_ne (hblank : isBlank c = false) (h : c ≠ '-') (cs : List Char) :
    bullet? (c :: cs) = none := by
  rw [bullet?, List.dropWhile_cons, hblank, if_neg Bool.false_ne_true]
  split
  case h_1 hcs => exact absurd (List.cons.inj hcs).1 h
  case h_2 => rfl

theorem bullet?_dash (h : isBlank c = true) (cs : List Char) :
    bullet? ('-' :: c :: cs) = some (.bullet, 2) := by
  rw [bullet?]
  exact if_pos h

theorem bullet?_blank (h : isBlank c = true) (cs : List Char) :
    bullet? (c :: cs) = (bullet? cs).map fun found => (found.1, found.2 + 1) := by
  rw [bullet?, bullet?, List.dropWhile_cons_of_pos h, List.takeWhile_cons_of_pos h]
  split
  case h_1 blank rest _ =>
    cases isBlank blank with
    | true => rfl
    | false => rfl
  case h_2 => rfl

theorem strong?_of_ne (h : c ≠ '*') (cs : List Char) : strong? (c :: cs) = none := by
  rw [strong?]
  intro rest hrest
  exact h (List.cons.inj hrest).1

theorem tag?_of_ne (h : c ≠ '<') (cs : List Char) : tag? (c :: cs) = none := by
  rw [tag?]
  intro rest hrest
  exact h (List.cons.inj hrest).1

theorem paragraph?_of_ne (h : c ≠ '\n') (cs : List Char) : paragraph? (c :: cs) = none := by
  have hbreaks : (c :: cs).takeWhile (· == '\n') = [] := by
    rw [List.takeWhile_cons, beq_false_of_ne h, if_neg Bool.false_ne_true]
  rw [paragraph?, hbreaks]
  rfl

/-- The characters that an item can start with inside a line. -/
def signs : List Char := ['\x60', '|', '[', '%', '#', '@', '!', '*', '<', '\n']

def lineItem? (lineStart : Bool) (cs : List Char) : Option Found :=
  if lineStart then (header? cs).or (bullet? cs) else none

theorem item?_eq (lineStart : Bool) (cs : List Char) : item? lineStart cs =
    ((fenced? ['\x60', '\x60', '\x60'] ['\x60', '\x60', '\x60'] cs).or <|
      (fenced? ['|', '['] [']', '|'] cs).or <| (code? cs).or <| (link? cs).or <|
      (identifier? cs).or <| (sigil? '#' .nativeType cs).or <| (sigil? '@' .parameter cs).or <|
      (hyperlink? cs).or <| (image? cs).or <| (lineItem? lineStart cs).or <|
      (strong? cs).or <| (tag? cs).or <| paragraph? cs) := by
  cases lineStart with
  | true =>
    rw [lineItem?, if_pos rfl, Option.or_assoc]
    rfl
  | false => rfl

/-- The items but for breaks between paragraphs. -/
def marked? (lineStart : Bool) (cs : List Char) : Option Found :=
  (fenced? "```".toList "```".toList cs).or <| (fenced? "|[".toList "]|".toList cs).or <|
    (code? cs).or <| (link? cs).or <| (identifier? cs).or <| (sigil? '#' .nativeType cs).or <|
    (sigil? '@' .parameter cs).or <| (hyperlink? cs).or <| (image? cs).or <|
    (lineItem? lineStart cs).or <| (strong? cs).or <| tag? cs

theorem item?_eq_or (lineStart : Bool) (cs : List Char) :
    item? lineStart cs = (marked? lineStart cs).or (paragraph? cs) := by
  rw [item?_eq, marked?]
  simp only [Option.or_assoc]
  rfl

theorem marked?_eq_lineItem?
    (h : c ∈ signs → c = '\n' ∨ c ∈ ['|', '!'] ∧ cs.head? ≠ some '[') (lineStart : Bool) :
    marked? lineStart (c :: cs) = lineItem? lineStart (c :: cs) := by
  have hne (sign : Char) (hsign : sign ∈ signs) (hother : sign ∉ ['\n', '|', '!']) : c ≠ sign := by
    rintro rfl
    rw [List.mem_cons, not_or] at hother
    rcases h hsign with hbreak | ⟨hmem, -⟩
    · exact hother.1 hbreak
    · exact hother.2 hmem
  have hgrave : c ≠ '\x60' := hne _ (by decide) (by decide)
  have hbracket : c ≠ '[' := hne _ (by decide) (by decide)
  have hhead (hc : c ∈ ['|', '!']) : cs.head? ≠ some '[' := by
    have hsigns : ['|', '!'] ⊆ signs := by decide
    rcases h (hsigns hc) with rfl | ⟨-, hhead⟩
    · exact absurd hc (by decide)
    · exact hhead
  have hbar : fenced? ['|', '['] [']', '|'] (c :: cs) = none := by
    by_cases hc : c = '|'
    · subst hc
      refine if_neg fun hopening => hhead (by decide) ?_
      obtain ⟨rest, hrest⟩ := List.isPrefixOf_iff_prefix.1 hopening
      rw [← (List.cons.inj hrest).2]
      rfl
    · exact fenced?_of_ne hc _ _ cs
  have himage : image? (c :: cs) = none := by
    rw [image?]
    intro rest hrest
    obtain ⟨rfl, rfl⟩ := List.cons.inj hrest
    exact hhead (by decide) rfl
  have hfence : fenced? ['\x60', '\x60', '\x60'] ['\x60', '\x60', '\x60'] (c :: cs) = none :=
    fenced?_of_ne hgrave _ _ cs
  rw [marked?]
  change (fenced? ['\x60', '\x60', '\x60'] ['\x60', '\x60', '\x60'] (c :: cs)).or
    ((fenced? ['|', '['] [']', '|'] (c :: cs)).or _) = _
  rw [hfence, hbar, code?_of_ne hgrave, link?_of_ne hbracket,
    identifier?_of_ne (hne _ (by decide) (by decide)), sigil?_of_ne (hne _ (by decide) (by decide)),
    sigil?_of_ne (hne _ (by decide) (by decide)), hyperlink?_of_ne hbracket, himage,
    strong?_of_ne (hne _ (by decide) (by decide)), tag?_of_ne (hne _ (by decide) (by decide))]
  simp only [Option.none_or, Option.or_none]

/-- Behind a character that starts no item, and where no line item starts either, there is none. -/
theorem item?_of_not_mem (h : c ∉ signs) {lineStart : Bool}
    (hline : lineItem? lineStart (c :: cs) = none) : item? lineStart (c :: cs) = none := by
  have hbreak : c ≠ '\n' := fun hc => h (hc ▸ by decide)
  rw [item?_eq_or, marked?_eq_lineItem? fun hmem => absurd hmem h, hline, paragraph?_of_ne hbreak]
  rfl

theorem code?_append {content : List Char} (hne : content ≠ []) (h : ∀ c ∈ content, c ≠ '\x60')
    (rest : List Char) : code? ('\x60' :: (content ++ '\x60' :: rest)) =
      some (.code (.ofList content), content.length + 2) := by
  have htake : (content ++ '\x60' :: rest).takeWhile (· != '\x60') = content :=
    Text.takeWhile_stop (fun c hc => bne_iff_ne.2 (h c hc)) (bne_self_eq_false _) rest
  have hopen : ¬(content.isEmpty = true ∨ (content ++ '\x60' :: rest).length = content.length) := by
    rw [List.isEmpty_iff, not_or, List.length_append, List.length_cons]
    exact ⟨hne, by omega⟩
  rw [code?, htake]
  exact if_neg hopen

theorem identifier?_append {name : List Char} (hne : name ≠ []) (h : ∀ c ∈ name, isWord c = true)
    (hrest : EndsWord rest) : identifier? ('%' :: (name ++ rest)) =
      some (.identifier (.ofList name), name.length + 1) := by
  have hname : ¬name.isEmpty = true := fun h => hne (List.isEmpty_iff.1 h)
  rw [identifier?, Text.takeWhile_isWord h hrest]
  exact if_neg hname

theorem sigil?_append {sign : Char} {name : List Char} (make : String → Item)
    (hsign : isWord sign = false) (hlength : 2 ≤ name.length) (h : ∀ c ∈ name, isWord c = true)
    (hrest : EndsWord rest) : sigil? sign make (sign :: (name ++ rest)) =
      some (make (.ofList name), name.length + 1) := by
  obtain _ | ⟨first, _ | ⟨second, more⟩⟩ := name
  case nil => exact absurd hlength (by decide)
  case cons.nil => exact absurd hlength (Nat.lt_irrefl 1)
  case cons.cons =>
    obtain ⟨hfirst, hmore⟩ := List.forall_mem_cons.1 h
    have htake : (second :: more ++ rest).takeWhile isWord = second :: more :=
      Text.takeWhile_isWord hmore hrest
    rw [List.cons_append, sigil?, htake]
    exact if_pos ⟨rfl, Text.ne_of_isWord hfirst hsign, Text.isBlank_of_isWord hfirst,
      List.cons_ne_nil _ _⟩

theorem strong?_append {content : List Char} (hne : content ≠ []) (hbreak : '\n' ∉ content)
    (hrest : '*' ∉ rest) : strong? ('*' :: (content ++ '*' :: rest)) =
      some (.strong (.ofList content), content.length + 2) := by
  obtain ⟨first, more, rfl⟩ := List.exists_cons_of_ne_nil hne
  rw [strong?, Text.beforeLast?_firstLine hbreak (by decide) hrest]

theorem separator_append (among cs : List Char) :
    (separator among cs).1 ++ (separator among cs).2 = cs := by
  cases cs with
  | nil => rfl
  | cons c cs =>
    rw [separator]
    split
    case isTrue => rfl
    case isFalse => rfl

theorem separator_stop {among : List Char} {close : Char} (h : close ∉ among)
    (cs rest : List Char) : separator among (cs ++ close :: rest) =
      ((separator among cs).1, (separator among cs).2 ++ close :: rest) := by
  cases cs with
  | nil => exact if_neg h
  | cons c cs =>
    rw [List.cons_append, separator, separator]
    split
    case isTrue => rfl
    case isFalse => rfl

theorem separator_subset (among cs : List Char) : (separator among cs).2 ⊆ cs := by
  intro c hc
  rw [← separator_append among cs]
  exact List.mem_append_right _ hc

/-- The parts of a path between its separators, and the text behind the second separator. -/
structure PathParts where
  part1 : List Char
  period : List Char
  part2 : List Char
  sign : List Char
  behind : List Char

namespace PathParts

def read (inside : Char → Bool) (cs : List Char) : PathParts :=
  let inside1 (c : Char) : Bool := c != '.' && inside c
  let inside2 (c : Char) : Bool := c != '.' && inside c && c != ':'
  let behind1 := separator ['.'] (cs.dropWhile inside1)
  let behind2 := separator ['.', ':'] (behind1.2.dropWhile inside2)
  ⟨cs.takeWhile inside1, behind1.1, behind1.2.takeWhile inside2, behind2.1, behind2.2⟩

def path (p : PathParts) (part3 : List Char) : LinkPath :=
  ⟨.ofList (p.part1 ++ p.period ++ p.part2 ++ p.sign ++ part3), nonempty? p.part1,
    nonempty? p.part2, nonempty? part3⟩

theorem read_append (inside : Char → Bool) (cs : List Char) :
    let p := read inside cs
    p.part1 ++ p.period ++ p.part2 ++ p.sign ++ p.behind = cs := by
  simp only [read, List.append_assoc, separator_append, List.takeWhile_append_dropWhile]

theorem behind_subset (inside : Char → Bool) (cs : List Char) : (read inside cs).behind ⊆ cs := by
  intro c hc
  rw [← read_append inside cs]
  exact List.mem_append_right _ hc

theorem read_stop {close : Char} (hcs : close ∉ cs) (hclose : close ∉ ['.', ':'])
    (rest : List Char) : read (· != close) (cs ++ close :: rest) =
      { read (fun _ => true) cs with
        behind := (read (fun _ => true) cs).behind ++ close :: rest } := by
  have hne : ∀ c ∈ cs, (c != close) = true := fun c hc => bne_iff_ne.2 fun h => hcs (h ▸ hc)
  have hperiod : close ∉ ['.'] := fun h => hclose (List.mem_cons.2 (.inl (List.mem_singleton.1 h)))
  obtain ⟨htake1, hdrop1⟩ := Text.span_stop
    (p := fun c => c != '.' && c != close) (q := fun c => c != '.' && true)
    (c := close) (fun c hc => by rw [hne c hc]) (by rw [bne_self_eq_false, Bool.and_false]) rest
  have hsub : (separator ['.'] (cs.dropWhile fun c => c != '.' && true)).2 ⊆ cs := fun c hc =>
    (List.dropWhile_sublist _).subset (separator_subset _ _ hc)
  obtain ⟨htake2, hdrop2⟩ := Text.span_stop
    (p := fun c => c != '.' && c != close && c != ':') (q := fun c => c != '.' && true && c != ':')
    (c := close) (fun c hc => by rw [hne c (hsub hc)])
    (by rw [bne_self_eq_false, Bool.and_false, Bool.false_and]) rest
  unfold read
  dsimp only
  rw [htake1, hdrop1, separator_stop hperiod]
  dsimp only
  rw [htake2, hdrop2, separator_stop hclose]

end PathParts

def LinkPath.ofChars (cs : List Char) : LinkPath :=
  (PathParts.read (fun _ => true) cs).path (PathParts.read (fun _ => true) cs).behind

theorem LinkPath.text_ofChars (cs : List Char) : (ofChars cs).text = .ofList cs :=
  congrArg String.ofList (PathParts.read_append _ cs)

theorem linkPath?_eq (cs : List Char) : linkPath? cs =
    (Text.beforeLast? ']' (Text.firstLine (PathParts.read (· != ']') cs).behind)).map
      (PathParts.read (· != ']') cs).path := by
  rw [linkPath?]
  dsimp only
  simp only [Text.drop_length_takeWhile]
  rfl

theorem linkPath?_eq_none (h : ']' ∉ cs) : linkPath? cs = none := by
  have hlast : ']' ∉ Text.firstLine (PathParts.read (· != ']') cs).behind :=
    fun hmem => h (PathParts.behind_subset _ _ (Text.firstLine_subset _ hmem))
  rw [linkPath?_eq, Text.beforeLast?_eq_none hlast]
  rfl

/-- The path of a link ends at the bracket if there is no other one behind it. -/
theorem linkPath?_append (hbracket : ']' ∉ cs) (hbreak : '\n' ∉ cs) (hrest : ']' ∉ rest) :
    linkPath? (cs ++ ']' :: rest) = some (.ofChars cs) := by
  have hbreak : '\n' ∉ (PathParts.read (fun _ => true) cs).behind :=
    fun hmem => hbreak (PathParts.behind_subset _ _ hmem)
  rw [linkPath?_eq, PathParts.read_stop hbracket (by decide),
    beforeLast?_firstLine hbreak (by decide) hrest]
  rfl

theorem pairwise_of_not_mem {sign close : Char} (h : close ∉ cs) :
    cs.Pairwise fun a b => a = sign → b ≠ close :=
  List.pairwise_of_forall_mem_list fun _ _ _ hb _ hclose => h (hclose ▸ hb)

theorem pairwise_stop {sign close : Char} (hne : close ≠ sign) (hcs : sign ∉ cs)
    (hrest : close ∉ rest) : (cs ++ close :: rest).Pairwise fun a b => a = sign → b ≠ close := by
  induction cs with
  | nil => exact List.pairwise_cons.2 ⟨fun _ _ h => absurd h hne, pairwise_of_not_mem hrest⟩
  | cons c cs ih =>
    rw [List.mem_cons, not_or] at hcs
    exact List.pairwise_cons.2 ⟨fun _ _ h => absurd h (Ne.symm hcs.1), ih hcs.2⟩

theorem linkAfter?_eq_none (h : cs.Pairwise fun a b => a = '@' → b ≠ ']') (kind : List Char) :
    linkAfter? kind cs = none := by
  induction cs generalizing kind with
  | nil => rfl
  | cons c cs ih =>
    obtain ⟨hc, hcs⟩ := List.pairwise_cons.1 h
    rw [linkAfter?, ih hcs]
    by_cases hat : c = '@' ∧ kind ≠ []
    · rw [linkPath?_eq_none fun hmem => hc _ hmem hat.1 rfl]
      simp only [Option.map_none, ite_self]
    · simp only [if_neg hat, ite_self]

/-- The kind of a link goes up to the last at sign in front of a path, over brackets as well. -/
theorem linkAfter?_append {kind path : List Char} (before : List Char)
    (hkind : '\n' ∉ kind) (hne : before ≠ [] ∨ kind ≠ [])
    (hpath : ∀ c ∈ path, c ≠ '@' ∧ c ≠ ']' ∧ c ≠ '\n') (hrest : ']' ∉ rest) :
    linkAfter? before (kind ++ '@' :: (path ++ ']' :: rest)) =
      some (.link (.ofList (before.reverse ++ kind)) (.ofChars path),
        before.length + kind.length + path.length + 3) := by
  induction kind generalizing before with
  | nil =>
    have hbefore : before ≠ [] := hne.resolve_right fun h => h rfl
    have hlast := pairwise_stop (by decide : ']' ≠ '@') (fun h => (hpath _ h).1 rfl) hrest
    rw [List.nil_append, linkAfter?, if_neg (by decide), linkAfter?_eq_none hlast,
      linkPath?_append (fun h => (hpath _ h).2.1 rfl) (fun h => (hpath _ h).2.2 rfl) hrest]
    dsimp only
    rw [if_pos ⟨rfl, hbefore⟩, Option.map_some, LinkPath.text_ofChars, String.length_ofList,
      List.append_nil]
    rfl
  | cons c kind ih =>
    rw [List.mem_cons, not_or] at hkind
    rw [List.cons_append, linkAfter?, if_neg (Ne.symm hkind.1),
      ih (c :: before) hkind.2 (.inl (List.cons_ne_nil _ _))]
    dsimp only
    rw [List.reverse_cons, List.append_assoc, List.singleton_append, List.length_cons,
      List.length_cons, Nat.add_right_comm _ 1]
    rfl

theorem targetAfter?_eq_none (h : cs.Pairwise fun a b => a = ']' → b ≠ ')')
    (make : String → String → Item) (description : List Char) :
    targetAfter? make description cs = none := by
  induction cs generalizing description with
  | nil => rfl
  | cons c cs ih =>
    obtain ⟨hc, hcs⟩ := List.pairwise_cons.1 h
    unfold targetAfter?
    rw [ih hcs]
    dsimp only
    split
    case isTrue => rfl
    case isFalse =>
      split
      next rest _ _ _ =>
        have hclose : ')' ∉ Text.firstLine rest := fun hmem =>
          hc _ (List.mem_cons_of_mem _ (Text.firstLine_subset _ hmem)) rfl rfl
        rw [Text.beforeLast?_eq_none hclose]
      next => rfl

/-- The description goes up to the last bracket in front of an address. -/
theorem targetAfter?_append {description url : List Char} (make : String → String → Item)
    (before : List Char) (hdescription : '\n' ∉ description)
    (hne : before ≠ [] ∨ description ≠ []) (hurl : ∀ c ∈ url, c ≠ ']' ∧ c ≠ '\n')
    (hurlne : url ≠ []) (hrest : ')' ∉ rest) :
    targetAfter? make before (description ++ ']' :: '(' :: (url ++ ')' :: rest)) =
      some (make (.ofList (before.reverse ++ description)) (.ofList url),
        before.length + description.length + url.length + 4) := by
  induction description generalizing before with
  | nil =>
    obtain ⟨b, before, rfl⟩ := List.exists_cons_of_ne_nil (hne.resolve_right fun h => h rfl)
    obtain ⟨u, url, rfl⟩ := List.exists_cons_of_ne_nil hurlne
    have hbracket : ']' ∉ '(' :: u :: url := by
      rw [List.mem_cons, not_or]
      exact ⟨by decide, fun h => (hurl _ h).1 rfl⟩
    have hlast := pairwise_stop (by decide : ')' ≠ ']') hbracket hrest
    have hline : Text.beforeLast? ')' (Text.firstLine (u :: url ++ ')' :: rest)) =
        some (u :: url) :=
      beforeLast?_firstLine (fun h => (hurl _ h).2 rfl) (by decide) hrest
    rw [List.nil_append, List.append_nil]
    unfold targetAfter?
    rw [if_neg (by decide), ← List.cons_append, targetAfter?_eq_none hlast]
    dsimp only
    split
    case h_1 hbehind _ =>
      obtain rfl : u :: url ++ ')' :: rest = _ := (List.cons.inj hbehind).2
      rw [hline]
      rfl
    case h_2 h => exact absurd rfl (h _ _ _ rfl rfl)
  | cons c description ih =>
    rw [List.mem_cons, not_or] at hdescription
    unfold targetAfter?
    rw [List.cons_append]
    dsimp only
    rw [if_neg (Ne.symm hdescription.1),
      ih (c :: before) hdescription.2 (.inl (List.cons_ne_nil _ _))]
    dsimp only
    rw [List.reverse_cons, List.append_assoc, List.singleton_append, List.length_cons,
      List.length_cons, Nat.add_right_comm _ 1]
    rfl

end Doc

end GirBind
