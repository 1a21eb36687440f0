import GirBind.Proofs.Markup.Decoding
import Mathlib.Data.List.Infix

namespace GirBind

namespace Text

variable {close cs text : List Char}

theorem exists_of_before? (hclose : close ≠ []) (h : before? close cs = some text) :
    ¬ close <:+: text ∧ ∃ rest, cs = text ++ (close ++ rest) := by
  induction cs generalizing text with
  | nil => cases h
  | cons c cs ih =>
    rw [before?] at h
    split at h
    case isTrue hhere =>
      cases h
      obtain ⟨rest, hrest⟩ := List.isPrefixOf_iff_prefix.1 hhere
      exact ⟨fun hin => hclose (List.infix_nil.1 hin), rest, hrest.symm⟩
    case isFalse hhere =>
      obtain ⟨text, htext, rfl⟩ := Option.map_eq_some_iff.1 h
      obtain ⟨hfree, rest, rfl⟩ := ih htext
      refine ⟨fun hin => ?_, rest, rfl⟩
      -- an occurrence at the start would have been found here, any other one in the rest
      rcases List.infix_cons_iff.1 hin with hprefix | hin
      · apply hhere
        rw [List.isPrefixOf_iff_prefix]
        exact hprefix.trans (List.prefix_append (c :: text) _)
      · exact hfree hin

end Text

namespace Markup

/-- A letter or an underscore, then letters, digits, underscores, periods and hyphens. -/
inductive NamePart : List Char → Prop
  | cons {c : Char} {cs : List Char} (hc : isNameStart c = true)
    (hcs : ∀ d ∈ cs, isNameRest d = true) : NamePart (c :: cs)

inductive NamePattern : List Char → Prop
  | plain {name : List Char} (h : NamePart name) : NamePattern name
  | prefixed {before name : List Char} (hbefore : NamePart before) (h : NamePart name) :
    NamePattern (before ++ ':' :: name)

inductive AttributePiece : String × String → List Char → Prop
  | quoted {key value : String} {before left right raw : List Char} {quote : Char}
    (hkey : NamePattern key.toList) (hbefore : AreBlank before) (hleft : AreBlank left)
    (hright : AreBlank right) (hquote : quote = '\x22' ∨ quote = '\x27') (hfree : quote ∉ raw)
    (hvalue : Reference.Decodes Numeral.optionalPlus raw value.toList) :
    AttributePiece (key, value)
      (before ++ (key.toList ++ (left ++ '=' :: (right ++ quote :: (raw ++ [quote])))))

/-- What opens and what closes a construct whose content is taken as it stands. -/
inductive Encloses : List Char → List Char → (String → Token) → Prop
  | comment : Encloses "<!--".toList "-->".toList .comment
  | cdata : Encloses "<![CDATA[".toList "]]>".toList .text
  | instruction : Encloses "<?".toList "?>".toList .declaration
  | declaration : Encloses "<!".toList ">".toList .declaration

/-- A token with its own piece of the document, what stands before that and what follows. Plain
text begins behind a tag or the like and goes on up to the next one. -/
inductive Piece (before : List Char) : Token → List Char → List Char → Prop
  | startTag {name : String} {attributes : List (String × String)} {text blanks rest : List Char}
    (selfClosing : Bool) (hname : NamePattern name.toList)
    (hkeys : (attributes.map Prod.fst).Nodup)
    (htext : InSequence AttributePiece attributes text) (hblanks : AreBlank blanks) :
    Piece before (.startTag name attributes selfClosing)
      ('<' :: (name.toList ++ (text ++ (blanks ++ tagEnd selfClosing)))) rest
  | endTag {name : String} {blanks rest : List Char} (hname : NamePattern name.toList)
    (hblanks : AreBlank blanks) :
    Piece before (.endTag name) ('<' :: '/' :: (name.toList ++ (blanks ++ ['>']))) rest
  | enclosed {opening closing content rest : List Char} {make : String → Token}
    (h : Encloses opening closing make) (hfree : ¬ closing <:+: content) :
    Piece before (make (.ofList content)) (opening ++ (content ++ closing)) rest
  | characters {content : String} {raw rest : List Char} (hne : raw ≠ []) (hfree : '<' ∉ raw)
    (hbefore : ∀ c ∈ before.getLast?, c = '>') (hrest : StartsWith (· = '<') rest)
    (hcontent : Reference.Decodes Numeral.optionalPlus raw content.toList) :
    Piece before (.text content) raw rest

theorem namePart_of_isSimpleName {cs : List Char} (h : isSimpleName cs = true) : NamePart cs := by
  cases cs with
  | nil => cases h
  | cons c cs =>
    rw [isSimpleName, Bool.and_eq_true, List.all_eq_true] at h
    exact .cons h.1 h.2

theorem namePattern_of_isName {cs : List Char} (h : isName cs = true) : NamePattern cs := by
  rcases isName_cases h with h | ⟨a, b, rfl, ha, hb⟩
  · exact .plain (namePart_of_isSimpleName h)
  · exact .prefixed (namePart_of_isSimpleName ha) (namePart_of_isSimpleName hb)

namespace Cursor

variable {c d : Cursor} {t : Token}

theorem rest_of_readName {name : String} (h : c.readName = .ok (name, d)) :
    NamePattern name.toList ∧ c.rest = name.toList ++ d.rest := by
  rw [readName] at h
  dsimp only at h
  split at h
  case isTrue hname =>
    cases h
    rw [String.toList_ofList]
    exact ⟨namePattern_of_isName hname, List.takeWhile_append_dropWhile.symm⟩
  case isFalse => cases h

theorem exists_blanks (c : Cursor) : ∃ blanks, AreBlank blanks ∧
    c.rest = blanks ++ c.skipBlanks.rest :=
  ⟨c.rest.takeWhile Text.isBlank, fun _ h => List.mem_takeWhile_imp h,
    List.takeWhile_append_dropWhile.symm⟩

theorem rest_of_expect {wanted : Char} (h : c.expect wanted = .ok d) :
    c.rest = wanted :: d.rest := by
  rw [expect] at h
  split at h
  case h_1 => cases h
  case h_2 x r hr =>
    split at h
    case isTrue hx =>
      cases h
      rw [hr, hx, skip, hr]
      rfl
    case isFalse => cases h

theorem rest_of_takeBefore? {close text : List Char} (hclose : close ≠ [])
    (h : c.takeBefore? close = some (text, d)) :
    ¬ close <:+: text ∧ c.rest = text ++ (close ++ d.rest) := by
  obtain ⟨text, htext, hd⟩ := Option.map_eq_some_iff.1 h
  cases hd
  obtain ⟨hfree, rest, hrest⟩ := Text.exists_of_before? hclose htext
  refine ⟨hfree, ?_⟩
  have hskip : (c.skip (text.length + close.length)).rest = rest := by
    rw [← List.length_append]
    exact rest_skip (hrest.trans (List.append_assoc _ _ _).symm)
  rw [hskip, hrest]

theorem rest_of_readValue {value : String} (h : c.readValue = .ok (value, d)) :
    ∃ quote raw, (quote = '\x22' ∨ quote = '\x27') ∧ quote ∉ raw ∧
      Reference.Decodes Numeral.optionalPlus raw value.toList ∧
      c.rest = quote :: (raw ++ quote :: d.rest) := by
  rw [readValue] at h
  split at h
  case h_1 => cases h
  case h_2 quote r hr =>
    split at h
    case isTrue hquote =>
      split at h
      case h_1 => cases h
      case h_2 raw e hraw =>
        split at h
        case h_1 v hv =>
          cases h
          obtain ⟨hfree, hrest⟩ := rest_of_takeBefore? (List.cons_ne_nil _ _) hraw
          have hmem : quote ∉ raw := fun hin => hfree ((List.singleton_infix_iff _ _).2 hin)
          have hskip : (c.skip 1).rest = r := rest_skip (s := [quote]) hr
          refine ⟨quote, raw, hquote, hmem, decodeAt_eq_ok_iff.1 hv, ?_⟩
          rw [hr, ← hskip, hrest]
          rfl
        case h_2 => cases h
    case isFalse => cases h

theorem rest_of_readAttribute {pair : String × String} (h : c.readAttribute = .ok (pair, d)) :
    NamePattern pair.1.toList ∧ ∃ text, (∀ before, AreBlank before →
      AttributePiece pair (before ++ text)) ∧ c.rest = text ++ d.rest := by
  obtain ⟨⟨key, afterKey⟩, hkey, h⟩ := Attempt.bind_eq_ok_iff.1 h
  obtain ⟨afterSign, hsign, h⟩ := Attempt.bind_eq_ok_iff.1 h
  obtain ⟨⟨value, e⟩, hvalue, h⟩ := Attempt.bind_eq_ok_iff.1 h
  cases h
  obtain ⟨hname, hrest⟩ := rest_of_readName hkey
  obtain ⟨left, hleft, hrestLeft⟩ := afterKey.exists_blanks
  obtain ⟨right, hright, hrestRight⟩ := afterSign.exists_blanks
  obtain ⟨quote, raw, hquote, hfree, hraw, hrestValue⟩ := rest_of_readValue hvalue
  refine ⟨hname, _, fun before hbefore =>
    .quoted hname hbefore hleft hright hquote hfree hraw, ?_⟩
  rw [hrest, hrestLeft, rest_of_expect hsign, hrestRight, hrestValue]
  simp only [List.append_assoc, List.cons_append, List.nil_append]

theorem rest_of_readAttributes {tag : String} {read : List (String × String)}
    (hread : (read.map Prod.fst).Nodup) (h : readAttributes tag read c = .ok (t, d)) :
    ∃ attributes selfClosing text blanks, t = .startTag tag (read ++ attributes) selfClosing ∧
      ((read ++ attributes).map Prod.fst).Nodup ∧ InSequence AttributePiece attributes text ∧
      AreBlank blanks ∧ c.rest = text ++ (blanks ++ (tagEnd selfClosing ++ d.rest)) := by
  fun_induction readAttributes tag read c with
  | case1 => cases h
  | case2 read c start r hr e he =>
    cases h
    obtain ⟨blanks, hblanks, hrest⟩ := c.exists_blanks
    refine ⟨[], true, [], blanks, by rw [List.append_nil], by rwa [List.append_nil], .nil, hblanks, ?_⟩
    have hskip : (start.skip 1).rest = r := rest_skip (s := ['/']) hr
    rw [hrest, show c.skipBlanks.rest = '/' :: r from hr, ← hskip, rest_of_expect he]
    rfl
  | case3 => cases h
  | case4 read c start r hr =>
    cases h
    obtain ⟨blanks, hblanks, hrest⟩ := c.exists_blanks
    refine ⟨[], false, [], blanks, by rw [List.append_nil], by rwa [List.append_nil], .nil, hblanks, ?_⟩
    have hskip : (start.skip 1).rest = r := rest_skip (s := ['>']) hr
    rw [hrest, show c.skipBlanks.rest = '>' :: r from hr, ← hskip]
    rfl
  | case5 => cases h
  | case6 => cases h
  | case7 read c start _ _ _ _ _ pair e he hnew ih =>
    obtain ⟨blanks, hblanks, hrest⟩ := c.exists_blanks
    obtain ⟨-, first, hfirst, hstart⟩ := rest_of_readAttribute he
    have hkeys : ((read ++ [pair]).map Prod.fst).Nodup := by
      rw [List.map_append, List.nodup_append]
      refine ⟨hread, List.pairwise_singleton _ _, ?_⟩
      intro key hkey key' hkey' heq
      obtain ⟨e, he, rfl⟩ := List.mem_map.1 hkey
      apply hnew
      rw [List.any_eq_true]
      exact ⟨e, he, beq_iff_eq.2 (heq.trans (List.mem_singleton.1 hkey'))⟩
    obtain ⟨attributes, selfClosing, text, after, ht, hnodup, htext, hafter, he⟩ := ih hkeys h
    rw [List.append_assoc] at ht hnodup
    refine ⟨pair :: attributes, selfClosing, _, after, ht, hnodup,
      .cons (hfirst blanks hblanks) htext, hafter, ?_⟩
    rw [hrest, show c.skipBlanks.rest = first ++ e.rest from hstart, he]
    simp only [List.append_assoc]

theorem rest_of_readStartTag (before : List Char) (h : c.readStartTag = .ok (t, d)) :
    ∃ piece, Piece before t ('<' :: piece) d.rest ∧ c.rest = piece ++ d.rest := by
  rw [readStartTag] at h
  split at h
  case h_1 => cases h
  case h_2 name e he =>
    obtain ⟨hname, hrest⟩ := rest_of_readName he
    have hnone : (([] : List (String × String)).map Prod.fst).Nodup := List.nodup_nil
    obtain ⟨attributes, selfClosing, text, blanks, rfl, hnodup, htext, hblanks, he⟩ :=
      rest_of_readAttributes hnone h
    refine ⟨_, .startTag selfClosing hname hnodup htext hblanks, ?_⟩
    rw [hrest, he]
    simp only [List.append_assoc]

theorem rest_of_readEndTag (before : List Char) (h : c.readEndTag = .ok (t, d)) :
    ∃ piece, Piece before t ('<' :: '/' :: piece) d.rest ∧ c.rest = piece ++ d.rest := by
  rw [readEndTag] at h
  split at h
  case h_1 => cases h
  case h_2 name e he =>
    split at h
    case h_1 f hf =>
      cases h
      obtain ⟨hname, hrest⟩ := rest_of_readName he
      obtain ⟨blanks, hblanks, hrestBlanks⟩ := e.exists_blanks
      refine ⟨_, .endTag hname hblanks, ?_⟩
      rw [hrest, hrestBlanks, rest_of_expect hf]
      simp only [List.append_assoc, List.singleton_append]
    case h_2 => cases h

theorem rest_of_skip {opening : List Char} (h : opening.isPrefixOf c.rest = true) :
    c.rest = opening ++ (c.skip opening.length).rest := by
  obtain ⟨rest, hrest⟩ := List.isPrefixOf_iff_prefix.1 h
  rw [rest_skip hrest.symm, hrest]

theorem rest_of_readEnclosed {opening : List Char} {close construct : String}
    {make : String → Token} (before : List Char) (henclose : Encloses opening close.toList make)
    (hopen : opening.isPrefixOf c.rest = true)
    (h : (c.skip opening.length).readEnclosed close construct make = .ok (t, d)) :
    ∃ piece, Piece before t piece d.rest ∧ c.rest = piece ++ d.rest := by
  have hclose : close.toList ≠ [] := by
    generalize close.toList = closing at henclose
    cases henclose <;> decide
  rw [readEnclosed, readUntil] at h
  cases htake : (c.skip opening.length).takeBefore? close.toList with
  | none =>
    rw [htake] at h
    cases h
  | some out =>
    obtain ⟨content, e⟩ := out
    rw [htake] at h
    cases h
    obtain ⟨hfree, hrest⟩ := rest_of_takeBefore? hclose htake
    refine ⟨_, .enclosed henclose hfree, ?_⟩
    rw [rest_of_skip hopen, hrest]
    simp only [List.append_assoc]

theorem rest_of_readMarkup {rest : List Char} (before : List Char) (hc : c.rest = '<' :: rest)
    (h : c.readMarkup = .ok (t, d)) : ∃ piece, Piece before t piece d.rest ∧
      c.rest = piece ++ d.rest := by
  rw [readMarkup] at h
  split at h
  case isTrue hopen => exact rest_of_readEnclosed before .comment hopen h
  split at h
  case isTrue hopen => exact rest_of_readEnclosed before .cdata hopen h
  split at h
  case isTrue hopen => exact rest_of_readEnclosed before .instruction hopen h
  split at h
  case isTrue hopen => exact rest_of_readEnclosed before .declaration hopen h
  split at h
  case isTrue hopen =>
    obtain ⟨piece, hpiece, hrest⟩ := rest_of_readEndTag before h
    refine ⟨_, hpiece, ?_⟩
    rw [rest_of_skip hopen]
    exact congrArg ('<' :: '/' :: ·) hrest
  case isFalse =>
    obtain ⟨piece, hpiece, hrest⟩ := rest_of_readStartTag before h
    have hskip : (c.skip 1).rest = rest := rest_skip (s := ['<']) hc
    refine ⟨_, hpiece, ?_⟩
    rw [hc, ← hskip, hrest]
    rfl

theorem rest_of_readText {before : List Char} (hother : ¬ StartsWith (· = '<') c.rest)
    (hbefore : ∀ x ∈ before.getLast?, x = '>') (h : c.readText = .ok (t, d)) :
    ∃ piece, Piece before t piece d.rest ∧ c.rest = piece ++ d.rest := by
  rw [readText] at h
  dsimp only at h
  split at h
  case h_1 content hcontent =>
    cases h
    have hne : c.rest.takeWhile (· != '<') ≠ [] := by
      intro hnil
      apply hother
      intro x hx
      obtain ⟨r, hr⟩ := List.head?_eq_some_iff.1 hx
      rw [hr, List.takeWhile_cons] at hnil
      split at hnil
      case isTrue => cases hnil
      case isFalse hx => simpa using hx
    have hfree : '<' ∉ c.rest.takeWhile (· != '<') := fun hin =>
      absurd (List.mem_takeWhile_imp hin) (by decide)
    have hrest : StartsWith (· = '<') (c.rest.dropWhile (· != '<')) := by
      intro x hx
      have hhead := List.head?_dropWhile_not (· != '<') c.rest
      rw [show (c.rest.dropWhile (· != '<')).head? = some x from hx] at hhead
      simpa using hhead
    exact ⟨_, .characters hne hfree hbefore hrest (decodeAt_eq_ok_iff.1 hcontent),
      List.takeWhile_append_dropWhile.symm⟩
  case h_2 => cases h

theorem exists_piece {before : List Char} (hc : c.rest ≠ [])
    (hbefore : StartsWith (· = '<') c.rest ∨ ∀ x ∈ before.getLast?, x = '>')
    (h : c.readToken = .ok (t, d)) :
    ∃ piece, Piece before t piece d.rest ∧ c.rest = piece ++ d.rest := by
  rw [readToken] at h
  split at h
  case h_1 rest hrest => exact rest_of_readMarkup before hrest h
  case h_2 hcons =>
    have hother : ¬ StartsWith (· = '<') c.rest := by
      intro hstart
      obtain ⟨x, r, hr⟩ := List.exists_cons_of_ne_nil hc
      rw [hr] at hstart
      exact hcons r (hstart x rfl ▸ hr)
    exact rest_of_readText hother (hbefore.resolve_left hother) h

end Cursor

namespace Piece

variable {before piece rest : List Char} {t : Token}

theorem ne_nil (h : Piece before t piece rest) : piece ≠ [] := by
  cases h with
  | startTag => exact List.cons_ne_nil _ _
  | endTag => exact List.cons_ne_nil _ _
  | enclosed h => cases h <;> exact List.cons_ne_nil _ _
  | characters hne => exact hne

/-- A piece ends with a greater-than sign, or a less-than sign follows it. -/
theorem ends (h : Piece before t piece rest) :
    StartsWith (· = '<') rest ∨ ∀ x ∈ (before ++ piece).getLast?, x = '>' := by
  have hlast {l m : List Char} (h : m.getLast? = some '>') : (l ++ m).getLast? = some '>' := by
    rw [List.getLast?_append, h, Option.some_or]
  have hmarkup (h : piece.getLast? = some '>') : ∀ x ∈ (before ++ piece).getLast?, x = '>' := by
    intro x hx
    rw [hlast h] at hx
    exact (Option.some.inj hx).symm
  cases h with
  | startTag selfClosing =>
    apply Or.inr
    apply hmarkup
    apply hlast (l := ['<'])
    apply hlast
    apply hlast
    apply hlast
    cases selfClosing <;> rfl
  | endTag =>
    apply Or.inr
    apply hmarkup
    apply hlast (l := ['<', '/'])
    apply hlast
    exact hlast rfl
  | enclosed h =>
    apply Or.inr
    apply hmarkup
    apply hlast
    apply hlast
    cases h <;> rfl
  | characters _ _ _ hrest => exact .inl hrest

end Piece
end Markup
end GirBind
