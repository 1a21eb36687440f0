import GirBind.Proofs.Doc.Recognition

namespace GirBind

namespace Text

variable {cs text : List Char}

theorem eq_of_before? {close : List Char} (h : before? close cs = some text) :
    ∃ rest, cs = text ++ (close ++ rest) := by
  induction cs generalizing text with
  | nil => cases h
  | cons c cs ih =>
    rw [before?] at h
    split at h
    case isTrue hclose =>
      cases h
      obtain ⟨rest, hrest⟩ := List.isPrefixOf_iff_prefix.1 hclose
      exact ⟨rest, hrest.symm⟩
    case isFalse =>
      obtain ⟨more, hmore, rfl⟩ := Option.map_eq_some_iff.1 h
      obtain ⟨rest, rfl⟩ := ih hmore
      exact ⟨rest, rfl⟩

theorem eq_of_beforeLast? {close : Char} (h : beforeLast? close cs = some text) :
    ∃ rest, cs = text ++ close :: rest := by
  induction cs generalizing text with
  | nil => cases h
  | cons c cs ih =>
    rw [beforeLast?] at h
    split at h
    case h_1 more hmore =>
      cases h
      obtain ⟨rest, rfl⟩ := ih hmore
      exact ⟨rest, rfl⟩
    case h_2 =>
      split at h
      case isTrue hclose =>
        cases h
        exact ⟨cs, by rw [hclose]; rfl⟩
      case isFalse => cases h

theorem eq_of_beforeLast?_firstLine {close : Char}
    (h : beforeLast? close (firstLine cs) = some text) : ∃ rest, cs = text ++ close :: rest := by
  obtain ⟨rest, hrest⟩ := eq_of_beforeLast? h
  obtain ⟨more, hmore⟩ : firstLine cs <+: cs := List.takeWhile_prefix _
  refine ⟨rest ++ more, ?_⟩
  rw [← hmore, hrest, List.append_assoc, List.cons_append]

theorem eq_takeWhile_ne {c : Char} {cs : List Char}
    (h : cs.length ≠ (cs.takeWhile (· != c)).length) :
    ∃ rest, cs = cs.takeWhile (· != c) ++ c :: rest := by
  have happend := List.takeWhile_append_dropWhile (p := (· != c)) (l := cs)
  cases hdrop : cs.dropWhile (· != c) with
  | nil =>
    rw [hdrop, List.append_nil] at happend
    exact absurd (congrArg List.length happend.symm) h
  | cons d rest =>
    have hd := List.head?_dropWhile_not (· != c) cs
    rw [hdrop] at hd
    rw [hdrop, bne_eq_false_iff_eq.1 hd] at happend
    exact ⟨rest, happend.symm⟩

end Text

namespace Doc

open Text (isBlank)

variable {cs : List Char} {i : Item} {n : Nat}

/-- How an item is written: its parts, none of which is empty, and the signs around them. -/
def Item.HasSource : Item → List Char → Prop
  | codeBlock text, cs => text.toList ≠ [] ∧
    (cs = "```".toList ++ (text.toList ++ "```".toList) ∨
      cs = "|[".toList ++ (text.toList ++ "]|".toList))
  | code text, cs => text.toList ≠ [] ∧ cs = '\x60' :: (text.toList ++ ['\x60'])
  | link kind path, cs => kind.toList ≠ [] ∧
    cs = '[' :: (kind.toList ++ '@' :: (path.text.toList ++ [']'])) ∧
      ∀ part ∈ path.part2.toList ++ path.part3.toList, part.toList <:+: path.text.toList
  | identifier name, cs => name.toList ≠ [] ∧ cs = '%' :: name.toList
  | nativeType name, cs => name.toList ≠ [] ∧ cs = '#' :: name.toList
  | parameter name, cs => name.toList ≠ [] ∧ cs = '@' :: name.toList
  | hyperlink description url, cs => description.toList ≠ [] ∧ url.toList ≠ [] ∧
    cs = '[' :: (description.toList ++ ']' :: '(' :: (url.toList ++ [')']))
  | image description url, cs => description.toList ≠ [] ∧ url.toList ≠ [] ∧
    cs = '!' :: '[' :: (description.toList ++ ']' :: '(' :: (url.toList ++ [')']))
  | header level title, cs => 1 ≤ level ∧ level ≤ 6 ∧ ∃ blank line breaks,
    isBlank blank = true ∧ line ≠ [] ∧ title.toList = Text.trimChars (blank :: line) ∧
      cs = .replicate level '#' ++ blank :: (line ++ .replicate breaks '\n')
  | bullet, cs => ∃ blanks blank, (∀ c ∈ blanks, isBlank c = true) ∧ isBlank blank = true ∧
    cs = blanks ++ ['-', blank]
  | strong text, cs => text.toList ≠ [] ∧ cs = '*' :: (text.toList ++ ['*'])
  | tag text, cs => text.toList ≠ [] ∧ cs = '<' :: (text.toList ++ ['>'])
  | paragraph, cs => ∃ breaks, 2 ≤ breaks ∧ cs = .replicate breaks '\n'

theorem Item.HasSource.ne_nil (h : i.HasSource cs) : cs ≠ [] := by
  rintro rfl
  cases i with
  | codeBlock text => rcases h.2 with h | h <;> cases h
  | link kind path => cases h.2.1
  | hyperlink description url | image description url => cases h.2.2
  | header level title =>
    obtain ⟨-, -, blank, line, breaks, -, -, -, h⟩ := h
    exact List.append_ne_nil_of_right_ne_nil _ (List.cons_ne_nil _ _) h.symm
  | bullet =>
    obtain ⟨blanks, blank, -, -, h⟩ := h
    exact List.append_ne_nil_of_right_ne_nil _ (List.cons_ne_nil _ _) h.symm
  | paragraph =>
    obtain ⟨breaks, hbreaks, h⟩ := h
    have := congrArg List.length h
    rw [List.length_replicate, List.length_nil] at this
    omega
  | code text | identifier name | nativeType name | parameter name | strong text | tag text =>
    cases h.2

def Starts (cs : List Char) (i : Item) (n : Nat) : Prop :=
  ∃ source rest, cs = source ++ rest ∧ source.length = n ∧ i.HasSource source

/-- What a recognizer finds is written at the start of the text. -/
def IsFaithful (find : List Char → Option Found) : Prop :=
  ∀ cs i n, find cs = some (i, n) → Starts cs i n

theorem IsFaithful.or {f g : List Char → Option Found} (hf : IsFaithful f) (hg : IsFaithful g) :
    IsFaithful fun cs => (f cs).or (g cs) := by
  intro cs i n h
  rcases Option.or_eq_some_iff.1 h with h | ⟨-, h⟩
  · exact hf cs i n h
  · exact hg cs i n h

theorem isFaithful_fenced? {opening closing : List Char}
    (h : (opening, closing) ∈ [("```".toList, "```".toList), ("|[".toList, "]|".toList)]) :
    IsFaithful (fenced? opening closing) := by
  intro cs i n hfound
  rw [fenced?] at hfound
  split at hfound
  case isTrue hopening =>
    obtain ⟨inside, rfl⟩ := List.isPrefixOf_iff_prefix.1 hopening
    rw [List.drop_left] at hfound
    cases inside with
    | nil => cases hfound
    | cons c inside =>
      obtain ⟨content, hcontent, hitem⟩ := Option.map_eq_some_iff.1 hfound
      obtain ⟨rest, rfl⟩ := Text.eq_of_before? hcontent
      cases hitem
      have htext : (String.ofList (c :: content)).toList = c :: content := String.toList_ofList
      refine ⟨opening ++ (c :: content ++ closing), rest, ?_, ?_, ?_, ?_⟩
      · simp only [List.append_assoc, List.cons_append]
      · simp only [List.length_append, List.length_cons]
        omega
      · rw [htext]
        exact List.cons_ne_nil _ _
      · rw [htext]
        rcases List.mem_cons.1 h with h | h
        · cases h
          exact .inl rfl
        · cases List.mem_singleton.1 h
          exact .inr rfl
  case isFalse => cases hfound

theorem ofList_ne_nil {cs : List Char} (h : cs ≠ []) : (String.ofList cs).toList ≠ [] := by
  rwa [String.toList_ofList]

theorem starts_run {sign close : Char} {make : String → Item} {rest : List Char}
    (hmake : ∀ text, text.toList ≠ [] → (make text).HasSource (sign :: (text.toList ++ [close])))
    (h : (if (rest.takeWhile (· != close)).isEmpty ∨
        rest.length = (rest.takeWhile (· != close)).length then none
      else some (make (.ofList (rest.takeWhile (· != close))),
        (rest.takeWhile (· != close)).length + 2)) = some (i, n)) :
    Starts (sign :: rest) i n := by
  split at h
  case isTrue => cases h
  case isFalse hne =>
    rw [List.isEmpty_iff, not_or] at hne
    obtain ⟨more, hmore⟩ := Text.eq_takeWhile_ne hne.2
    cases h
    refine ⟨sign :: (rest.takeWhile (· != close) ++ [close]), more, ?_, ?_, ?_⟩
    · rw [List.cons_append, List.append_assoc, List.singleton_append, ← hmore]
    · rw [List.length_cons, List.length_append, List.length_singleton]
    · have hitem := hmake _ (ofList_ne_nil hne.1)
      rwa [String.toList_ofList] at hitem

theorem isFaithful_code? : IsFaithful code? := by
  intro cs i n h
  have hsource (text : String) (htext : text.toList ≠ []) :
      (Item.code text).HasSource ('\x60' :: (text.toList ++ ['\x60'])) := ⟨htext, rfl⟩
  rw [code?.eq_def] at h
  split at h
  case h_1 => exact starts_run hsource h
  case h_2 => cases h

theorem isFaithful_tag? : IsFaithful tag? := by
  intro cs i n h
  have hsource (text : String) (htext : text.toList ≠ []) :
      (Item.tag text).HasSource ('<' :: (text.toList ++ ['>'])) := ⟨htext, rfl⟩
  rw [tag?.eq_def] at h
  split at h
  case h_1 => exact starts_run hsource h
  case h_2 => cases h

theorem isFaithful_strong? : IsFaithful strong? := by
  intro cs i n h
  rw [strong?.eq_def] at h
  split at h
  case h_1 rest =>
    split at h
    case h_1 c content hcontent =>
      obtain ⟨more, rfl⟩ := Text.eq_of_beforeLast?_firstLine hcontent
      cases h
      refine ⟨'*' :: (c :: content ++ ['*']), more, ?_, ?_, ?_, ?_⟩
      · simp only [List.append_assoc, List.cons_append, List.nil_append]
      · rw [List.length_cons, List.length_append, List.length_singleton]
      · exact ofList_ne_nil (List.cons_ne_nil _ _)
      · rw [String.toList_ofList]
    case h_2 => cases h
  case h_2 => cases h

theorem isFaithful_identifier? : IsFaithful identifier? := by
  intro cs i n h
  rw [identifier?.eq_def] at h
  split at h
  case h_1 rest =>
    dsimp only at h
    split at h
    case isTrue => cases h
    case isFalse hne =>
      rw [List.isEmpty_iff] at hne
      cases h
      refine ⟨'%' :: rest.takeWhile Text.isWord, rest.dropWhile Text.isWord, ?_, rfl,
        ofList_ne_nil hne, ?_⟩
      · rw [List.cons_append, List.takeWhile_append_dropWhile]
      · rw [String.toList_ofList]
  case h_2 => cases h

theorem isFaithful_sigil? {sign : Char} {make : String → Item}
    (hmake : ∀ name, name.toList ≠ [] → (make name).HasSource (sign :: name.toList)) :
    IsFaithful (sigil? sign make) := by
  intro cs i n h
  rw [sigil?.eq_def] at h
  split at h
  case h_1 c first rest =>
    dsimp only at h
    split at h
    case isTrue hsign =>
      obtain ⟨rfl, -⟩ := hsign
      cases h
      refine ⟨c :: first :: rest.takeWhile Text.isWord, rest.dropWhile Text.isWord, ?_, rfl, ?_⟩
      · rw [List.cons_append, List.cons_append, List.takeWhile_append_dropWhile]
      · have hname := hmake (.ofList (first :: rest.takeWhile Text.isWord))
          (ofList_ne_nil (List.cons_ne_nil _ _))
        rwa [String.toList_ofList] at hname
    case isFalse => cases h
  case h_2 => cases h

theorem isFaithful_nativeType? : IsFaithful (sigil? '#' .nativeType) :=
  isFaithful_sigil? fun _ hname => ⟨hname, rfl⟩

theorem isFaithful_parameter? : IsFaithful (sigil? '@' .parameter) :=
  isFaithful_sigil? fun _ hname => ⟨hname, rfl⟩

theorem isFaithful_bullet? : IsFaithful bullet? := by
  intro cs i n h
  rw [bullet?] at h
  split at h
  case h_1 blank rest hrest =>
    split at h
    case isTrue hblank =>
      cases h
      refine ⟨cs.takeWhile isBlank ++ ['-', blank], rest, ?_, ?_, _, blank,
        fun c hc => List.mem_takeWhile_imp hc, hblank, rfl⟩
      · rw [List.append_assoc, List.cons_append, List.singleton_append, ← hrest,
          List.takeWhile_append_dropWhile]
      · rw [List.length_append]
        rfl
    case isFalse => cases h
  case h_2 => cases h

theorem takeWhile_eq_replicate (c : Char) (cs : List Char) :
    cs.takeWhile (· == c) = .replicate (cs.takeWhile (· == c)).length c :=
  List.eq_replicate_of_mem fun _ hd =>
    beq_iff_eq.1 (List.mem_takeWhile_imp (p := (· == c)) hd)

theorem isFaithful_header? : IsFaithful header? := by
  intro cs i n h
  rw [header?] at h
  dsimp only at h
  split at h
  case isTrue hlevel =>
    split at h
    case h_1 => cases h
    case h_2 blank rest hdrop =>
      split at h
      case isTrue hline =>
        cases h
        have hlevels := takeWhile_eq_replicate '#' cs
        have hbreaks := takeWhile_eq_replicate '\n' (rest.drop (Text.firstLine rest).length)
        have hrest : Text.firstLine rest ++ rest.drop (Text.firstLine rest).length = rest := by
          rw [Text.firstLine, Text.drop_length_takeWhile, List.takeWhile_append_dropWhile]
        have hcs : cs.takeWhile (· == '#') ++ blank :: rest = cs := by
          rw [← hdrop, Text.drop_length_takeWhile, List.takeWhile_append_dropWhile]
        refine ⟨cs.takeWhile (· == '#') ++ blank :: (Text.firstLine rest ++
          (rest.drop (Text.firstLine rest).length).takeWhile (· == '\n')),
          (rest.drop (Text.firstLine rest).length).dropWhile (· == '\n'), ?_, ?_, hlevel.1,
          hlevel.2, blank, Text.firstLine rest,
          ((rest.drop (Text.firstLine rest).length).takeWhile (· == '\n')).length, hline.1,
          hline.2, String.toList_ofList, ?_⟩
        · rw [List.append_assoc, List.cons_append, List.append_assoc,
            List.takeWhile_append_dropWhile, hrest, hcs]
        · simp only [List.length_append, List.length_cons]
          omega
        · rw [← hlevels, ← hbreaks]
      case isFalse => cases h
  case isFalse => cases h

theorem starts_breaks {breaks : Nat} (hle : breaks ≤ (cs.takeWhile (· == '\n')).length)
    (h : 2 ≤ breaks) : Starts cs .paragraph breaks := by
  refine ⟨.replicate breaks '\n', cs.drop breaks, ?_, List.length_replicate, breaks, h, rfl⟩
  have htake : cs.take breaks = .replicate breaks '\n' := by
    rw [← List.takeWhile_append_dropWhile (p := (· == '\n')) (l := cs),
      List.take_append_of_le_length hle, takeWhile_eq_replicate, List.take_replicate,
      Nat.min_eq_left hle]
  rw [← htake, List.take_append_drop]

theorem isFaithful_paragraph? : IsFaithful paragraph? := by
  intro cs i n h
  rw [paragraph?] at h
  split at h
  case isTrue => cases h
  case isFalse hbreaks =>
    split at h
    case isTrue =>
      split at h
      case isTrue => cases h
      case isFalse =>
        cases h
        exact starts_breaks (by omega) (by omega)
    case isFalse =>
      cases h
      exact starts_breaks (by omega) (by omega)

theorem toList_nonempty? {cs : List Char} {text : String} (h : nonempty? cs = some text) :
    text.toList = cs := by
  rw [nonempty?] at h
  split at h
  case isTrue => cases h
  case isFalse =>
    cases h
    exact String.toList_ofList

theorem linkPath?_source {path : LinkPath} (h : linkPath? cs = some path) :
    (∃ rest, cs = path.text.toList ++ ']' :: rest) ∧
      ∀ part ∈ path.part2.toList ++ path.part3.toList, part.toList <:+: path.text.toList := by
  rw [linkPath?_eq] at h
  obtain ⟨part3, hpart3, rfl⟩ := Option.map_eq_some_iff.1 h
  obtain ⟨rest, hbehind⟩ := Text.eq_of_beforeLast?_firstLine hpart3
  have happend := PathParts.read_append (· != ']') cs
  generalize PathParts.read (· != ']') cs = p at hbehind happend
  have htext : (p.path part3).text.toList =
      p.part1 ++ p.period ++ p.part2 ++ p.sign ++ part3 := String.toList_ofList
  refine ⟨⟨rest, ?_⟩, fun part hpart => ?_⟩
  · rw [htext, ← happend, hbehind]
    simp only [List.append_assoc]
  · rw [htext]
    rcases List.mem_append.1 hpart with hpart | hpart
    · rw [toList_nonempty? (Option.mem_toList.1 hpart)]
      exact ⟨p.part1 ++ p.period, p.sign ++ part3, by simp only [List.append_assoc]⟩
    · rw [toList_nonempty? (Option.mem_toList.1 hpart)]
      exact (List.suffix_append _ _).isInfix

/-- The kind of a link that starts with the given characters, in reverse, and the path behind it. -/
theorem eq_of_linkAfter? (before : List Char) (h : linkAfter? before cs = some (i, n)) :
    ∃ kind path rest, i = .link (.ofList (before.reverse ++ kind)) path ∧
      before.reverse ++ kind ≠ [] ∧ cs = kind ++ '@' :: (path.text.toList ++ ']' :: rest) ∧
      n = before.length + kind.length + path.text.toList.length + 3 ∧
      ∀ part ∈ path.part2.toList ++ path.part3.toList, part.toList <:+: path.text.toList := by
  induction cs generalizing before with
  | nil => cases h
  | cons c cs ih =>
    rw [linkAfter?] at h
    split at h
    case isTrue => cases h
    case isFalse =>
      split at h
      case h_1 found hfound =>
        cases h
        obtain ⟨kind, path, rest, rfl, hne, rfl, rfl, hparts⟩ := ih (c :: before) hfound
        rw [List.reverse_cons, List.append_assoc, List.singleton_append] at hne ⊢
        refine ⟨c :: kind, path, rest, rfl, hne, rfl, ?_, hparts⟩
        rw [List.length_cons, List.length_cons]
        omega
      case h_2 =>
        split at h
        case isTrue hat =>
          obtain ⟨path, hpath, hfound⟩ := Option.map_eq_some_iff.1 h
          obtain ⟨⟨rest, rfl⟩, hparts⟩ := linkPath?_source hpath
          cases hfound
          refine ⟨[], path, rest, ?_, ?_, ?_, ?_, hparts⟩
          · rw [List.append_nil]
          · rw [List.append_nil]
            exact fun h => hat.2 (List.reverse_eq_nil_iff.1 h)
          · rw [hat.1]
            rfl
          · rw [String.length_toList]
            rfl
        case isFalse => cases h

theorem isFaithful_link? : IsFaithful link? := by
  intro cs i n h
  rw [link?.eq_def] at h
  split at h
  case h_1 =>
    obtain ⟨kind, path, rest, rfl, hne, rfl, rfl, hparts⟩ := eq_of_linkAfter? [] h
    rw [List.reverse_nil, List.nil_append] at hne ⊢
    have hkind : (String.ofList kind).toList = kind := String.toList_ofList
    refine ⟨'[' :: (kind ++ '@' :: (path.text.toList ++ [']'])), rest, ?_, ?_, ?_, ?_, hparts⟩
    · simp only [List.cons_append, List.append_assoc, List.nil_append]
    · simp only [List.length_cons, List.length_append, List.length_nil]
      omega
    · rwa [hkind]
    · rw [hkind]
  case h_2 => cases h

theorem eq_of_targetAfter? {make : String → String → Item} (before : List Char)
    (h : targetAfter? make before cs = some (i, n)) :
    ∃ description url rest, i = make (.ofList (before.reverse ++ description)) (.ofList url) ∧
      before.reverse ++ description ≠ [] ∧ url ≠ [] ∧
      cs = description ++ ']' :: '(' :: (url ++ ')' :: rest) ∧
      n = before.length + description.length + url.length + 4 := by
  induction cs generalizing before with
  | nil => cases h
  | cons c cs ih =>
    unfold targetAfter? at h
    split at h
    case isTrue => cases h
    case isFalse =>
      split at h
      case h_1 found hfound =>
        cases h
        obtain ⟨description, url, rest, rfl, hne, hurl, rfl, rfl⟩ := ih (c :: before) hfound
        rw [List.reverse_cons, List.append_assoc, List.singleton_append] at hne ⊢
        refine ⟨c :: description, url, rest, rfl, hne, hurl, rfl, ?_⟩
        rw [List.length_cons, List.length_cons]
        omega
      case h_2 =>
        split at h
        case h_1 b before =>
          split at h
          case h_1 u url hline =>
            obtain ⟨rest, rfl⟩ := Text.eq_of_beforeLast?_firstLine hline
            cases h
            refine ⟨[], u :: url, rest, ?_, ?_, List.cons_ne_nil _ _, rfl, rfl⟩
            · rw [List.append_nil]
            · rw [List.append_nil]
              exact fun h => List.cons_ne_nil _ _ (List.reverse_eq_nil_iff.1 h)
          case h_2 => cases h
        case h_2 => cases h

theorem isFaithful_hyperlink? : IsFaithful hyperlink? := by
  intro cs i n h
  rw [hyperlink?.eq_def] at h
  split at h
  case h_1 =>
    obtain ⟨description, url, rest, rfl, hne, hurl, rfl, rfl⟩ := eq_of_targetAfter? [] h
    rw [List.reverse_nil, List.nil_append] at hne ⊢
    refine ⟨'[' :: (description ++ ']' :: '(' :: (url ++ [')'])), rest, ?_, ?_, ofList_ne_nil hne,
      ofList_ne_nil hurl, ?_⟩
    · simp only [List.cons_append, List.append_assoc, List.nil_append]
    · simp only [List.length_cons, List.length_append, List.length_nil]
      omega
    · rw [String.toList_ofList, String.toList_ofList]
  case h_2 => cases h

theorem isFaithful_image? : IsFaithful image? := by
  intro cs i n h
  rw [image?.eq_def] at h
  split at h
  case h_1 =>
    obtain ⟨⟨j, m⟩, hfound, hj⟩ := Option.map_eq_some_iff.1 h
    obtain ⟨description, url, rest, rfl, hne, hurl, rfl, rfl⟩ := eq_of_targetAfter? [] hfound
    rw [List.reverse_nil, List.nil_append] at hne hj
    cases hj
    refine ⟨'!' :: '[' :: (description ++ ']' :: '(' :: (url ++ [')'])), rest, ?_, ?_,
      ofList_ne_nil hne, ofList_ne_nil hurl, ?_⟩
    · simp only [List.cons_append, List.append_assoc, List.nil_append]
    · simp only [List.length_cons, List.length_append, List.length_nil]
      omega
    · rw [String.toList_ofList, String.toList_ofList]
  case h_2 => cases h

theorem isFaithful_lineItem? (lineStart : Bool) : IsFaithful (lineItem? lineStart) := by
  cases lineStart with
  | true => exact isFaithful_header?.or isFaithful_bullet?
  | false => exact fun _ _ _ h => absurd h (by simp [lineItem?])

theorem isFaithful_marked? (lineStart : Bool) : IsFaithful (marked? lineStart) :=
  (isFaithful_fenced? (by decide)).or <| (isFaithful_fenced? (by decide)).or <|
    isFaithful_code?.or <| isFaithful_link?.or <| isFaithful_identifier?.or <|
    isFaithful_nativeType?.or <| isFaithful_parameter?.or <| isFaithful_hyperlink?.or <|
    isFaithful_image?.or <| (isFaithful_lineItem? lineStart).or <|
    isFaithful_strong?.or isFaithful_tag?

end Doc
end GirBind
