import GirBind.Proofs.Attempt
import GirBind.Proofs.Markup.Lexeme

namespace GirBind

namespace Text

theorem before?_append {close data : List Char} (hclose : IsClosing close)
    (h : ¬ close <:+: data) (rest : List Char) :
    before? close (data ++ (close ++ rest)) = some data := by
  obtain ⟨body, z, rfl, hz⟩ := hclose
  induction data with
  | nil =>
    have hself : (body ++ [z]).isPrefixOf (body ++ [z] ++ rest) = true :=
      List.isPrefixOf_iff_prefix.2 (List.prefix_append _ _)
    obtain ⟨c, cs, hcs⟩ : ∃ c cs, body ++ [z] = c :: cs :=
      List.exists_cons_of_ne_nil (List.append_ne_nil_of_right_ne_nil _ (List.cons_ne_nil _ _))
    rw [hcs] at hself ⊢
    rw [List.nil_append, List.cons_append, before?]
    exact if_pos hself
  | cons c data ih =>
    have htail : ¬ body ++ [z] <:+: data := fun hin => h (List.infix_cons hin)
    -- an occurrence that starts here would lie within the data, or would have its last character
    -- within the body of the closing mark
    have hhere : ¬ (body ++ [z]).isPrefixOf (c :: data ++ (body ++ [z] ++ rest)) = true := by
      intro hpre
      rw [List.isPrefixOf_iff_prefix] at hpre
      by_cases hlen : (body ++ [z]).length ≤ (c :: data).length
      · exact h (List.prefix_of_prefix_length_le hpre (List.prefix_append _ _) hlen).isInfix
      · obtain ⟨after, hafter⟩ := hpre
        rw [List.length_append, List.length_singleton] at hlen
        have hge : (c :: data).length ≤ body.length := by omega
        have hleft : (body ++ [z] ++ after)[body.length]? = some z := by
          rw [List.append_assoc, List.getElem?_append_right (Nat.le_refl _), Nat.sub_self]
          rfl
        have hright : (c :: data ++ (body ++ [z] ++ rest))[body.length]? =
            body[body.length - (c :: data).length]? := by
          rw [List.getElem?_append_right hge, List.append_assoc, List.getElem?_append_left]
          rw [List.length_cons] at hge ⊢
          omega
        rw [hafter, hright] at hleft
        exact hz (List.mem_of_getElem? hleft)
    rw [List.cons_append] at hhere ⊢
    rw [before?, if_neg hhere, ih htail]
    rfl

end Text

namespace Markup

theorem toNat_lt_of_isNameRest {c : Char} (h : isNameRest c = true) : c.toNat < 128 := by
  have hupper : c.isUpper = decide (c.val ≥ 65 ∧ c.val ≤ 90) := rfl
  have hlower : c.isLower = (decide (c.val ≥ 97) && decide (c.val ≤ 122)) := rfl
  have halpha : c.isAlpha = (c.isUpper || c.isLower) := rfl
  simp only [isNameRest, Char.isAlphanum, halpha, hupper, hlower, Char.isDigit,
    Bool.or_eq_true, Bool.and_eq_true, decide_eq_true_eq, beq_iff_eq, UInt32.le_iff_toNat_le,
    ge_iff_le] at h
  rcases h with (((((⟨-, h⟩ | ⟨-, h⟩) | ⟨-, h⟩) | rfl) | rfl) | rfl)
  · exact Nat.lt_of_le_of_lt h (by decide)
  · exact Nat.lt_of_le_of_lt h (by decide)
  · exact Nat.lt_of_le_of_lt h (by decide)
  all_goals decide

theorem endsName_eq_false {c : Char} (h : isNameRest c = true ∨ c = ':') :
    Cursor.endsName c = false := by
  have hascii : ∀ n < 128, isNameRest (Char.ofNat n) = true ∨ Char.ofNat n = ':' →
      Cursor.endsName (Char.ofNat n) = false := by decide +kernel
  have hlt : c.toNat < 128 := by
    rcases h with h | rfl
    · exact toNat_lt_of_isNameRest h
    · decide
  have hc := hascii c.toNat hlt
  rw [Char.ofNat_toNat] at hc
  exact hc h

namespace Cursor

/-- Something has been read, and the given text is still to be read. -/
def Yields {α : Type} (r : Read α) (a : α) (rest : List Char) : Prop :=
  ∃ d, r = .ok (a, d) ∧ d.rest = rest

variable {c : Cursor} {s rest : List Char}

theorem rest_skip (h : c.rest = s ++ rest) : (c.skip s.length).rest = rest := by
  rw [skip, h, List.drop_left]

theorem takeWhile_eq {p : Char → Bool} (h : c.rest = s ++ rest) (hs : ∀ x ∈ s, p x = true)
    (hrest : StartsWith (p · = false) rest) :
    (c.takeWhile p).1 = s ∧ (c.takeWhile p).2.rest = rest := by
  have hstop : rest.takeWhile p = [] ∧ rest.dropWhile p = rest := by
    cases rest with
    | nil => exact ⟨rfl, rfl⟩
    | cons x r =>
      have hx := hrest x rfl
      rw [List.takeWhile_cons, List.dropWhile_cons, hx]
      exact ⟨rfl, rfl⟩
  simp only [takeWhile, h]
  rw [List.takeWhile_append_of_pos hs, List.dropWhile_append_of_pos hs, hstop.1, hstop.2]
  exact ⟨List.append_nil s, rfl⟩

theorem rest_skipBlanks (h : c.rest = s ++ rest) (hs : AreBlank s)
    (hrest : StartsWith (Text.isBlank · = false) rest) : c.skipBlanks.rest = rest :=
  (takeWhile_eq h hs hrest).2

theorem expect_eq {wanted : Char} (h : c.rest = wanted :: rest) :
    ∃ d, c.expect wanted = .ok d ∧ d.rest = rest := by
  refine ⟨c.skip 1, ?_, rest_skip (s := [wanted]) h⟩
  rw [expect, h]
  exact if_pos rfl

theorem readName_yields {name : String} (h : c.rest = name.toList ++ rest)
    (hname : isName name.toList = true) (hrest : StartsWith (endsName · = true) rest) :
    Yields c.readName name rest := by
  have hs : ∀ x ∈ name.toList, (!endsName x) = true := by
    intro x hx
    rw [endsName_eq_false (mem_of_isName hname x hx), Bool.not_false]
  have hstop : StartsWith (fun x => (!endsName x) = false) rest := by
    intro x hx
    rw [hrest x hx, Bool.not_true]
  obtain ⟨htaken, hleft⟩ := takeWhile_eq h hs hstop
  refine ⟨_, ?_, hleft⟩
  rw [readName]
  dsimp only
  rw [htaken, if_pos hname, String.ofList_toList]

theorem takeBefore?_eq {close : List Char} (hclose : Text.IsClosing close) (hs : ¬ close <:+: s)
    (h : c.rest = s ++ (close ++ rest)) : ∃ d, c.takeBefore? close = some (s, d) ∧
      d.rest = rest := by
  refine ⟨c.skip (s.length + close.length), ?_, ?_⟩
  · rw [takeBefore?, h, Text.before?_append hclose hs]
    rfl
  · rw [← List.length_append]
    exact rest_skip (h.trans (List.append_assoc _ _ _).symm)

theorem decodeAt_eq {close : Char} {value : List Char} (h : Spelled close value s) (line : Nat) :
    decodeAt line s = .ok (.ofList value) := by
  rw [decodeAt, Reference.decode_spelled h]

theorem readValue_yields {quote : Char} {value : String}
    (hquote : quote = '\x22' ∨ quote = '\x27') (hvalue : Spelled quote value.toList s)
    (h : c.rest = quote :: (s ++ quote :: rest)) : Yields c.readValue value rest := by
  have hskip : (c.skip 1).rest = s ++ ([quote] ++ rest) := rest_skip (s := [quote]) h
  have hclose : Text.IsClosing [quote] := ⟨[], quote, rfl, List.not_mem_nil⟩
  have hfree : quote ∉ s := by
    rcases hquote with rfl | rfl
    · exact hvalue.close_not_mem (by decide) (by decide)
    · exact hvalue.close_not_mem (by decide) (by decide)
  have hs : ¬ [quote] <:+: s := fun hin => hfree (hin.subset List.mem_cons_self)
  obtain ⟨d, hd, hrest⟩ := takeBefore?_eq hclose hs hskip
  refine ⟨d, ?_, hrest⟩
  rw [readValue, h]
  dsimp only
  rw [if_pos hquote, hd]
  dsimp only
  rw [decodeAt_eq hvalue, String.ofList_toList]

theorem startsWith_append {P : Char → Prop} (hs : AreBlank s)
    (hblank : ∀ x, Text.isBlank x = true → P x) (hrest : StartsWith P rest) :
    StartsWith P (s ++ rest) := by
  cases s with
  | nil => exact hrest
  | cons x s => exact startsWith_cons (hblank x (hs x List.mem_cons_self))

theorem endsName_of_isBlank {x : Char} (h : Text.isBlank x = true) : endsName x = true := by
  rw [endsName, h]
  rfl

theorem exists_of_attributeText {pair : String × String} (h : AttributeText pair s) :
    ∃ x r, s = x :: r ∧ isNameStart x = true := by
  cases h with
  | quoted hname =>
    obtain ⟨x, r, hkey, hx⟩ := exists_of_isName hname
    exact ⟨x, _, by rw [hkey, List.cons_append], hx⟩

theorem readAttribute_yields {pair : String × String} (hpair : AttributeText pair s)
    (h : c.rest = s ++ rest) : Yields c.readAttribute pair rest := by
  cases hpair with
  | @quoted key value left right text quote hname hleft hright hquote hvalue =>
    simp only [List.append_assoc, List.cons_append, List.nil_append] at h
    have hquoteBlank : Text.isBlank quote = false := by
      rcases hquote with rfl | rfl
      · rfl
      · rfl
    obtain ⟨afterKey, hkey, h⟩ := readName_yields h hname
      (startsWith_append hleft (fun _ => endsName_of_isBlank) (startsWith_cons rfl))
    have h := rest_skipBlanks h hleft (startsWith_cons rfl)
    obtain ⟨afterSign, hsign, h⟩ := expect_eq h
    have h := rest_skipBlanks h hright (startsWith_cons hquoteBlank)
    obtain ⟨d, hd, h⟩ := readValue_yields hquote hvalue h
    refine ⟨d, ?_, h⟩
    rw [readAttribute]
    refine Attempt.bind_eq_ok_iff.2 ⟨_, hkey, ?_⟩
    refine Attempt.bind_eq_ok_iff.2 ⟨_, hsign, ?_⟩
    exact Attempt.bind_eq_ok_iff.2 ⟨_, hd, rfl⟩

theorem readAttributes_end {tag : String} {read : List (String × String)} {selfClosing : Bool}
    (hs : AreBlank s) (h : c.rest = s ++ (tagEnd selfClosing ++ rest)) :
    Yields (readAttributes tag read c) (.startTag tag read selfClosing) rest := by
  rw [readAttributes]
  cases selfClosing with
  | true =>
    have hstart : c.skipBlanks.rest = ['/'] ++ '>' :: rest :=
      rest_skipBlanks h hs (startsWith_cons rfl)
    obtain ⟨d, hd, hrest⟩ := expect_eq (rest_skip hstart)
    refine ⟨d, ?_, hrest⟩
    split
    case h_1 hnil => cases hstart.symm.trans hnil
    case h_2 => rw [show c.skipBlanks.skip 1 = c.skipBlanks.skip ['/'].length from rfl, hd]
    case h_3 hcons => cases hstart.symm.trans hcons
    case h_4 hslash _ hcons => exact absurd (List.cons.inj (hstart.symm.trans hcons)).1.symm hslash
  | false =>
    have hstart : c.skipBlanks.rest = ['>'] ++ rest :=
      rest_skipBlanks h hs (startsWith_cons rfl)
    refine ⟨_, ?_, rest_skip hstart⟩
    split
    case h_1 hnil => cases hstart.symm.trans hnil
    case h_2 hcons => cases hstart.symm.trans hcons
    case h_3 => rfl
    case h_4 _ hgreater hcons =>
      exact absurd (List.cons.inj (hstart.symm.trans hcons)).1.symm hgreater

theorem readAttributes_step {tag : String} {read : List (String × String)} {x : Char}
    {pair : String × String} {d : Cursor} (h : c.skipBlanks.rest = x :: s)
    (hends : endsName x = false) (hpair : c.skipBlanks.readAttribute = .ok (pair, d))
    (hnew : pair.1 ∉ read.map Prod.fst) :
    readAttributes tag read c = readAttributes tag (read ++ [pair]) d := by
  rw [readAttributes]
  split
  case h_1 hnil => cases h.symm.trans hnil
  case h_2 hcons =>
    cases h.symm.trans hcons
    cases hends
  case h_3 hcons =>
    cases h.symm.trans hcons
    cases hends
  case h_4 =>
    split
    case h_1 herror => cases hpair.symm.trans herror
    case h_2 hok =>
      cases hpair.symm.trans hok
      apply if_neg
      rw [List.any_eq_true]
      rintro ⟨e, he, hkey⟩
      exact hnew (eq_of_beq hkey ▸ List.mem_map_of_mem he)

theorem readAttributes_yields {tag : String} {read attributes : List (String × String)}
    {text : List Char} {selfClosing : Bool}
    (htext : InSequence (Apart AttributeText) attributes text) (hs : AreBlank s)
    (hkeys : ((read ++ attributes).map Prod.fst).Nodup)
    (h : c.rest = text ++ (s ++ (tagEnd selfClosing ++ rest))) :
    Yields (readAttributes tag read c) (.startTag tag (read ++ attributes) selfClosing) rest := by
  induction htext generalizing c read with
  | nil =>
    rw [List.append_nil]
    exact readAttributes_end hs h
  | @cons pair pairs _ later ha _ ih =>
    cases ha with
    | @blanks before first _ hbefore hfirst =>
      obtain ⟨x, r, hx, hname⟩ := exists_of_attributeText hfirst
      have hends := endsName_eq_false (.inl (isNameRest_of_isNameStart hname))
      have hblank : Text.isBlank x = false := by
        rw [Bool.eq_false_iff]
        intro hblank
        rw [endsName_of_isBlank hblank] at hends
        cases hends
      have hnew : pair.1 ∉ read.map Prod.fst := by
        intro hmem
        rw [List.map_append, List.nodup_append] at hkeys
        exact hkeys.2.2 pair.1 hmem pair.1 List.mem_cons_self rfl
      rw [List.append_assoc, List.append_assoc] at h
      have hstart := rest_skipBlanks h hbefore (by
        rw [hx, List.cons_append]
        exact startsWith_cons hblank)
      obtain ⟨d, hd, hrest⟩ := readAttribute_yields hfirst hstart
      rw [hx, List.cons_append] at hstart
      rw [readAttributes_step hstart hends hd hnew, List.append_cons read pair pairs]
      apply ih _ hrest
      rwa [← List.append_cons]

theorem readEnclosed_yields {close construct : String} {make : String → Token}
    (hclose : Text.IsClosing close.toList) (hs : ¬ close.toList <:+: s)
    (h : c.rest = s ++ (close.toList ++ rest)) :
    Yields (c.readEnclosed close construct make) (make (.ofList s)) rest := by
  obtain ⟨d, hd, hrest⟩ := takeBefore?_eq hclose hs h
  refine ⟨d, ?_, hrest⟩
  rw [readEnclosed, readUntil, hd]

theorem readEndTag_yields {name : String} (hname : isName name.toList = true) (hs : AreBlank s)
    (h : c.rest = name.toList ++ (s ++ '>' :: rest)) :
    Yields c.readEndTag (.endTag name) rest := by
  obtain ⟨d, hd, h⟩ := readName_yields h hname
    (startsWith_append hs (fun _ => endsName_of_isBlank) (startsWith_cons rfl))
  obtain ⟨e, he, h⟩ := expect_eq (rest_skipBlanks h hs (startsWith_cons rfl))
  refine ⟨e, ?_, h⟩
  rw [readEndTag, hd]
  dsimp only
  rw [he]

theorem readStartTag_yields {name : String} {attributes : List (String × String)}
    {text : List Char} {selfClosing : Bool} (hname : isName name.toList = true)
    (hkeys : (attributes.map Prod.fst).Nodup)
    (htext : InSequence (Apart AttributeText) attributes text) (hs : AreBlank s)
    (h : c.rest = name.toList ++ (text ++ (s ++ (tagEnd selfClosing ++ rest)))) :
    Yields c.readStartTag (.startTag name attributes selfClosing) rest := by
  have hends : StartsWith (endsName · = true) (text ++ (s ++ (tagEnd selfClosing ++ rest))) := by
    cases htext with
    | nil =>
      apply startsWith_append hs fun _ => endsName_of_isBlank
      cases selfClosing with
      | true => exact startsWith_cons rfl
      | false => exact startsWith_cons rfl
    | cons ha _ =>
      cases ha with
      | @blanks before _ hne hbefore _ =>
        cases before with
        | nil => exact absurd rfl hne
        | cons x before =>
          exact startsWith_cons (endsName_of_isBlank (hbefore x List.mem_cons_self))
  obtain ⟨d, hd, h⟩ := readName_yields h hname hends
  obtain ⟨e, he, h⟩ : Yields (d.readAttributes name []) (.startTag name attributes selfClosing)
      rest := readAttributes_yields htext hs hkeys h
  refine ⟨e, ?_, h⟩
  rw [readStartTag, hd]
  exact he

theorem readMarkup_eq_readStartTag {x : Char} (h : c.rest = '<' :: x :: s)
    (hx : isNameStart x = true) : c.readMarkup = (c.skip 1).readStartTag := by
  have hother {y : Char} (hy : isNameStart y = false) (l : List Char) :
      ¬ ('<' :: y :: l).isPrefixOf c.rest = true := by
    have hne : (y == x) = false := by
      rw [beq_eq_false_iff_ne]
      rintro rfl
      cases hx.symm.trans hy
    rw [h, List.isPrefixOf_cons_cons, List.isPrefixOf_cons_cons, hne, Bool.false_and, Bool.and_false]
    exact Bool.false_ne_true
  rw [readMarkup]
  refine (if_neg (hother rfl ['-', '-'])).trans ?_
  refine (if_neg (hother rfl "[CDATA[".toList)).trans ?_
  refine (if_neg (hother rfl [])).trans ?_
  refine (if_neg (hother rfl [])).trans ?_
  exact if_neg (hother rfl [])

theorem readMarkup_yields {t : Token} (ht : Lexeme t s) (h : c.rest = s ++ rest) :
    Yields c.readMarkup t rest := by
  cases ht with
  | @startTag name attributes text blanks selfClosing hname hkeys htext hblanks =>
    simp only [List.append_assoc, List.cons_append] at h
    obtain ⟨x, r, hx, hstart⟩ := exists_of_isName hname
    have hc : c.rest = '<' :: x :: (r ++ (text ++ (blanks ++ (tagEnd selfClosing ++ rest)))) := by
      rw [h, hx, List.cons_append]
    rw [readMarkup_eq_readStartTag hc hstart]
    exact readStartTag_yields hname hkeys htext hblanks (rest_skip (s := ['<']) h)
  | endTag hname hblanks =>
    simp only [List.append_assoc, List.cons_append, List.nil_append] at h
    have hread : c.readMarkup = (c.skip 2).readEndTag := by
      rw [readMarkup, h]
      rfl
    rw [hread]
    exact readEndTag_yields hname hblanks (rest_skip (s := ['<', '/']) h)
  | cdata hcontent =>
    rw [List.append_assoc, List.append_assoc] at h
    have hread : c.readMarkup = (c.skip 9).readEnclosed "]]>" "CDATA section" .text := by
      rw [readMarkup, h]
      rfl
    rw [hread]
    exact readEnclosed_yields ⟨[']', ']'], '>', rfl, by decide⟩ hcontent
      (rest_skip (s := "<![CDATA[".toList) h)
  | comment hcontent =>
    rw [List.append_assoc, List.append_assoc] at h
    have hread : c.readMarkup = (c.skip 4).readEnclosed "-->" "comment" .comment := by
      rw [readMarkup, h]
      rfl
    rw [hread]
    exact readEnclosed_yields ⟨['-', '-'], '>', rfl, by decide⟩ hcontent
      (rest_skip (s := "<!--".toList) h)
  | instruction hcontent =>
    rw [List.append_assoc, List.append_assoc] at h
    have hread : c.readMarkup =
        (c.skip 2).readEnclosed "?>" "processing instruction" .declaration := by
      rw [readMarkup, h]
      rfl
    rw [hread]
    exact readEnclosed_yields ⟨['?'], '>', rfl, by decide⟩ hcontent
      (rest_skip (s := "<?".toList) h)
  | @doctype content hcontent =>
    have hread : c.readMarkup = (c.skip 2).readEnclosed ">" "declaration" .declaration := by
      rw [readMarkup, h]
      rfl
    have hfree : ¬ ">".toList <:+: "DOCTYPE".toList ++ content := by
      intro hin
      rcases List.mem_append.1 (hin.subset (List.mem_singleton.2 rfl)) with hmem | hmem
      · revert hmem
        decide
      · exact hcontent hmem
    rw [List.append_assoc] at h
    rw [hread]
    exact readEnclosed_yields ⟨[], '>', rfl, List.not_mem_nil⟩ hfree
      ((rest_skip (s := "<!".toList) h).trans (List.append_assoc _ _ _))

theorem exists_of_lexeme {t : Token} (h : Lexeme t s) : ∃ r, s = '<' :: r := by
  cases h with
  | startTag => exact ⟨_, rfl⟩
  | endTag => exact ⟨_, rfl⟩
  | cdata => exact ⟨_, rfl⟩
  | comment => exact ⟨_, rfl⟩
  | instruction => exact ⟨_, rfl⟩
  | doctype => exact ⟨_, rfl⟩

theorem readToken_markup {t : Token} (ht : Lexeme t s) (h : c.rest = s ++ rest) :
    Yields c.readToken t rest := by
  obtain ⟨r, hr⟩ := exists_of_lexeme ht
  have hread : c.readToken = c.readMarkup := by
    rw [readToken, h, hr]
    rfl
  rw [hread]
  exact readMarkup_yields ht h

/-- Character data goes on up to the next less-than sign, and is decoded on the line it starts on. -/
theorem readToken_characters (hne : s ≠ []) (hfree : '<' ∉ s)
    (hrest : StartsWith (· = '<') rest) (h : c.rest = s ++ rest) : ∃ d : Cursor, d.rest = rest ∧
      c.readToken = (decodeAt c.position.line s).map fun text => (.text text, d) := by
  have hs : ∀ x ∈ s, (x != '<') = true := by
    intro x hx
    rw [bne_iff_ne]
    rintro rfl
    exact hfree hx
  have hstop : StartsWith (fun x => (x != '<') = false) rest := by
    intro x hx
    rw [hrest x hx]
    rfl
  have hread : c.readToken = c.readText := by
    obtain ⟨x, r, rfl⟩ := List.exists_cons_of_ne_nil hne
    rw [readToken, h]
    split
    case h_1 hcons => exact absurd (hs _ List.mem_cons_self) (by rw [(List.cons.inj hcons).1]; decide)
    case h_2 => rfl
  obtain ⟨htaken, hleft⟩ := takeWhile_eq h hs hstop
  refine ⟨_, hleft, ?_⟩
  rw [hread, readText]
  dsimp only
  rw [htaken]
  cases decodeAt c.position.line s with
  | error e => rfl
  | ok text => rfl

theorem readToken_text {value : List Char} (hvalue : Spelled '<' value s) (hne : s ≠ [])
    (hrest : StartsWith (· = '<') rest) (h : c.rest = s ++ rest) :
    Yields c.readToken (.text (.ofList value)) rest := by
  have hfree : '<' ∉ s := hvalue.close_not_mem (by decide) (by decide)
  obtain ⟨d, hd, hread⟩ := readToken_characters hne hfree hrest h
  rw [decodeAt_eq hvalue] at hread
  exact ⟨d, hread, hd⟩

def Scans (c : Cursor) (ts : List Token) : Prop :=
  ∃ placed, c.readTokens = .ok placed ∧ placed.map PlacedToken.token = ts

theorem scans_cons {t : Token} {ts : List Token} (hc : c.rest ≠ [])
    (ht : Yields c.readToken t rest) (hts : ∀ d : Cursor, d.rest = rest → d.Scans ts) :
    c.Scans (t :: ts) := by
  obtain ⟨d, hd, hrest⟩ := ht
  obtain ⟨placed, hplaced, rfl⟩ := hts d hrest
  refine ⟨⟨t, c.position⟩ :: placed, ?_, rfl⟩
  rw [readTokens, dif_neg hc]
  split
  case h_1 herror => cases hd.symm.trans herror
  case h_2 hok =>
    cases hd.symm.trans hok
    rw [hplaced]

/-- Whatever way tokens are written, they are what is read. -/
theorem scans_of_lexes {ts : List Token} (hts : Lexes ts s) (h : c.rest = s) :
    c.Scans (ts ++ [.endOfInput]) := by
  induction hts generalizing c with
  | nil =>
    refine ⟨[⟨.endOfInput, c.position⟩], ?_, rfl⟩
    rw [readTokens, dif_pos h]
  | markup ht _ ih =>
    have hc : c.rest ≠ [] := by
      obtain ⟨r, hr⟩ := exists_of_lexeme ht
      rw [h, hr]
      exact List.cons_ne_nil _ _
    exact scans_cons hc (readToken_markup ht h) fun _ => ih
  | text hvalue hne hrest _ ih =>
    have hc : c.rest ≠ [] := by
      rw [h]
      exact List.append_ne_nil_of_left_ne_nil hne _
    exact scans_cons hc (readToken_text hvalue hne hrest h) fun _ => ih

end Cursor

theorem tokens_of_lexes {ts : List Token} {text : String} (h : Lexes ts text.toList) :
    ∃ placed, tokens text = .ok placed ∧
      placed.map PlacedToken.token = ts ++ [.endOfInput] :=
  Cursor.scans_of_lexes h rfl

end Markup
end GirBind
