import GirBind.Markup.Cursor
import GirBind.Markup.Reference
import GirBind.Markup.Token
import GirBind.Text.Blank

namespace GirBind.Markup

def isNameStart (c : Char) : Bool := c.isAlpha || c == '_'

def isNameRest (c : Char) : Bool := c.isAlphanum || c == '_' || c == '.' || c == '-'

/-- A name without a colon: an ASCII letter or underscore, then letters, digits, underscores,
periods and hyphens. -/
def isSimpleName : List Char → Bool
  | [] => false
  | c :: cs => isNameStart c && cs.all isNameRest

/-- An element or attribute name: one simple name, or two with a colon between them. -/
def isName (cs : List Char) : Bool :=
  match cs.dropWhile (· != ':') with
  | [] => isSimpleName cs
  | _ :: r => isSimpleName (cs.takeWhile (· != ':')) && isSimpleName r

abbrev Read (α : Type) : Type := Except (Located Fault) (α × Cursor)

namespace Cursor

def fail {α : Type} (c : Cursor) (fault : Fault) : Except (Located Fault) α :=
  .error ⟨c.position.line, fault⟩

def skipBlanks (c : Cursor) : Cursor := c.skipWhile Text.isBlank

def expect (wanted : Char) (c : Cursor) : Except (Located Fault) Cursor :=
  match c.rest with
  | [] => c.fail (.expected wanted none)
  | d :: _ => if d = wanted then .ok (c.skip 1) else c.fail (.expected wanted (some d))

def readUntil (close construct : String) (c : Cursor) : Read String :=
  match c.takeBefore? close.toList with
  | some (text, d) => .ok (.ofList text, d)
  | none => (c.skip c.rest.length).fail (.unterminated construct)

def endsName (c : Char) : Bool := Text.isBlank c || c == '/' || c == '>' || c == '='

def readName (c : Cursor) : Read String :=
  let (name, d) := c.takeWhile fun ch => !endsName ch
  if isName name then .ok (.ofList name, d) else d.fail (.invalidName (.ofList name))

/-- Decodes the references of a piece of text that starts on the given line. -/
def decodeAt (line : Nat) (raw : List Char) : Except (Located Fault) String :=
  match Reference.decode raw with
  | .ok text => .ok (.ofList text)
  | .error fault => .error ⟨line, fault⟩

def readValue (c : Cursor) : Read String :=
  match c.rest with
  | [] => c.fail .unquotedValue
  | quote :: _ =>
    if quote = '\x22' ∨ quote = '\x27' then
      match (c.skip 1).takeBefore? [quote] with
      | none => (c.skip c.rest.length).fail .unterminatedValue
      | some (raw, d) =>
        match decodeAt c.position.line raw with
        | .ok value => .ok (value, d)
        | .error e => .error e
    else
      c.fail .unquotedValue

def readAttribute (c : Cursor) : Except (Located Fault) ((String × String) × Cursor) := do
  let (key, afterKey) ← c.readName
  let afterSign ← afterKey.skipBlanks.expect '='
  let (value, d) ← afterSign.skipBlanks.readValue
  return ((key, value), d)

theorem reaches_expect {wanted : Char} {c d : Cursor} (h : c.expect wanted = .ok d) :
    c.Reaches d ∧ d.rest.length < c.rest.length := by
  unfold expect at h
  split at h
  · cases h
  · next ch r hr =>
    split at h
    · cases h
      refine ⟨c.reaches_skip 1, ?_⟩
      rw [length_skip, hr]
      exact Nat.lt_succ_self _
    · cases h

theorem reaches_readName {c d : Cursor} {name : String} (h : c.readName = .ok (name, d)) :
    c.Reaches d := by
  unfold readName at h
  split at h
  next cs e he =>
  have hr := c.reaches_takeWhile fun ch => !endsName ch
  rw [he] at hr
  split at h
  · cases h
    exact hr
  · cases h

theorem reaches_readValue {c d : Cursor} {value : String} (h : c.readValue = .ok (value, d)) :
    c.Reaches d := by
  unfold readValue at h
  split at h
  · cases h
  · split at h
    · split at h
      · cases h
      · next raw e he =>
        split at h
        · cases h
          exact (c.reaches_skip 1).trans (reaches_takeBefore he)
        · cases h
    · cases h

theorem reaches_readAttribute {c d : Cursor} {pair : String × String}
    (h : c.readAttribute = .ok (pair, d)) :
    c.Reaches d ∧ d.rest.length < c.rest.length := by
  unfold readAttribute at h
  cases hk : c.readName with
  | error e => rw [hk] at h; cases h
  | ok k =>
    obtain ⟨key, afterKey⟩ := k
    rw [hk] at h
    cases hs : afterKey.skipBlanks.expect '=' with
    | error e =>
      simp only [bind, Except.bind, hs] at h
      cases h
    | ok afterSign =>
      cases hv : afterSign.skipBlanks.readValue with
      | error e =>
        simp only [bind, Except.bind, hs, hv] at h
        cases h
      | ok v =>
        obtain ⟨value, e⟩ := v
        simp only [bind, Except.bind, hs, hv] at h
        cases h
        have h₁ := (reaches_readName hk).trans (afterKey.reaches_skipWhile Text.isBlank)
        have h₂ := reaches_expect hs
        have h₃ := (afterSign.reaches_skipWhile Text.isBlank).trans (reaches_readValue hv)
        exact ⟨h₁.trans (h₂.1.trans h₃), Nat.lt_of_le_of_lt h₃.length_le
          (Nat.lt_of_lt_of_le h₂.2 h₁.length_le)⟩

def readAttributes (tag : String) (read : List (String × String)) (c : Cursor) : Read Token :=
  let start := c.skipBlanks
  match start.rest with
  | [] => start.fail (.unterminatedStartTag tag)
  | '/' :: _ =>
    match (start.skip 1).expect '>' with
    | .ok d => .ok (.startTag tag read true, d)
    | .error e => .error e
  | '>' :: _ => .ok (.startTag tag read false, start.skip 1)
  | _ :: _ =>
    match _h : start.readAttribute with
    | .error e => .error e
    | .ok (pair, d) =>
      if read.any (·.1 == pair.1) then
        start.fail (.duplicateAttribute pair.1 tag)
      else
        readAttributes tag (read ++ [pair]) d
termination_by c.rest.length
decreasing_by
  exact Nat.lt_of_lt_of_le (reaches_readAttribute _h).2
    (c.reaches_skipWhile Text.isBlank).length_le

theorem reaches_readAttributes {tag : String} {read : List (String × String)} {c d : Cursor}
    {t : Token} (h : readAttributes tag read c = .ok (t, d)) : c.Reaches d := by
  fun_induction readAttributes tag read c with
  | case1 => cases h
  | case2 read c start r hr e he =>
    cases h
    exact (c.reaches_skipWhile _).trans ((start.reaches_skip 1).trans (reaches_expect he).1)
  | case3 => cases h
  | case4 read c start r hr =>
    cases h
    exact (c.reaches_skipWhile _).trans (start.reaches_skip 1)
  | case5 => cases h
  | case6 => cases h
  | case7 read c start _ _ _ _ _ pair e he _ ih =>
    exact (c.reaches_skipWhile _).trans ((reaches_readAttribute he).1.trans (ih h))

def readEnclosed (close construct : String) (make : String → Token) (c : Cursor) : Read Token :=
  match c.readUntil close construct with
  | .ok (content, d) => .ok (make content, d)
  | .error e => .error e

def readEndTag (c : Cursor) : Read Token :=
  match c.readName with
  | .error e => .error e
  | .ok (name, d) =>
    match d.skipBlanks.expect '>' with
    | .ok e => .ok (.endTag name, e)
    | .error e => .error e

def readStartTag (c : Cursor) : Read Token :=
  match c.readName with
  | .error e => .error e
  | .ok (name, d) => d.readAttributes name []

def readMarkup (c : Cursor) : Read Token :=
  if "<!--".toList.isPrefixOf c.rest then
    (c.skip 4).readEnclosed "-->" "comment" .comment
  else if "<![CDATA[".toList.isPrefixOf c.rest then
    (c.skip 9).readEnclosed "]]>" "CDATA section" .text
  else if "<?".toList.isPrefixOf c.rest then
    (c.skip 2).readEnclosed "?>" "processing instruction" .declaration
  else if "<!".toList.isPrefixOf c.rest then
    (c.skip 2).readEnclosed ">" "declaration" .declaration
  else if "</".toList.isPrefixOf c.rest then
    (c.skip 2).readEndTag
  else
    (c.skip 1).readStartTag

/-- Character data up to the next less-than sign. -/
def readText (c : Cursor) : Read Token :=
  let (raw, d) := c.takeWhile (· != '<')
  match decodeAt c.position.line raw with
  | .ok text => .ok (.text text, d)
  | .error e => .error e

def readToken (c : Cursor) : Read Token :=
  match c.rest with
  | '<' :: _ => c.readMarkup
  | _ => c.readText

theorem reaches_readEnclosed {close construct : String} {make : String → Token} {c d : Cursor}
    {t : Token} (h : c.readEnclosed close construct make = .ok (t, d)) : c.Reaches d := by
  unfold readEnclosed readUntil at h
  cases hb : c.takeBefore? close.toList with
  | none => rw [hb] at h; cases h
  | some p =>
    obtain ⟨text, e⟩ := p
    rw [hb] at h
    cases h
    exact reaches_takeBefore hb

theorem reaches_readEndTag {c d : Cursor} {t : Token} (h : c.readEndTag = .ok (t, d)) :
    c.Reaches d := by
  unfold readEndTag at h
  split at h
  · cases h
  · next name e he =>
    split at h
    · next f hf =>
      cases h
      exact (reaches_readName he).trans
        ((e.reaches_skipWhile _).trans (reaches_expect hf).1)
    · cases h

theorem reaches_readStartTag {c d : Cursor} {t : Token} (h : c.readStartTag = .ok (t, d)) :
    c.Reaches d := by
  unfold readStartTag at h
  split at h
  · cases h
  · next name e he => exact (reaches_readName he).trans (reaches_readAttributes h)

theorem reaches_readMarkup {c d : Cursor} {t : Token} (h : c.readMarkup = .ok (t, d)) :
    ∃ n, 0 < n ∧ (c.skip n).Reaches d := by
  unfold readMarkup at h
  split at h
  · exact ⟨4, by decide, reaches_readEnclosed h⟩
  split at h
  · exact ⟨9, by decide, reaches_readEnclosed h⟩
  split at h
  · exact ⟨2, by decide, reaches_readEnclosed h⟩
  split at h
  · exact ⟨2, by decide, reaches_readEnclosed h⟩
  split at h
  · exact ⟨2, by decide, reaches_readEndTag h⟩
  · exact ⟨1, by decide, reaches_readStartTag h⟩

theorem readText_cursor {c d : Cursor} {t : Token} (h : c.readText = .ok (t, d)) :
    d = (c.takeWhile (· != '<')).2 := by
  unfold readText at h
  split at h
  next raw e he =>
  split at h
  · cases h
    rw [he]
  · cases h

theorem reaches_readToken {c d : Cursor} {t : Token} (h : c.readToken = .ok (t, d)) :
    c.Reaches d := by
  unfold readToken at h
  split at h
  · obtain ⟨n, _, hn⟩ := reaches_readMarkup h
    exact (c.reaches_skip n).trans hn
  · rw [readText_cursor h]
    exact c.reaches_takeWhile _

theorem length_readToken {c d : Cursor} {t : Token} (hc : c.rest ≠ [])
    (h : c.readToken = .ok (t, d)) : d.rest.length < c.rest.length := by
  have hpos : 0 < c.rest.length := List.length_pos_iff.2 hc
  unfold readToken at h
  split at h
  · obtain ⟨n, hn, hr⟩ := reaches_readMarkup h
    have hle := hr.length_le
    rw [length_skip] at hle
    omega
  · next hlt =>
    rw [readText_cursor h]
    cases hr : c.rest with
    | nil => exact absurd hr hc
    | cons ch r =>
      have hne : (ch != '<') = true := by
        rw [bne_iff_ne]
        intro he
        exact hlt r (he ▸ hr)
      simp only [takeWhile, hr, List.dropWhile_cons, hne, if_true, List.length_cons]
      exact Nat.lt_succ_of_le (List.dropWhile_sublist _).length_le

/-- Every token from the cursor on. The last one marks the end of the input. -/
def readTokens (c : Cursor) : Except (Located Fault) (List PlacedToken) :=
  if _hc : c.rest = [] then
    .ok [⟨.endOfInput, c.position⟩]
  else
    match _h : c.readToken with
    | .error e => .error e
    | .ok (t, d) =>
      match readTokens d with
      | .ok ts => .ok (⟨t, c.position⟩ :: ts)
      | .error e => .error e
termination_by c.rest.length
decreasing_by exact length_readToken _hc _h

end Cursor

def tokens (text : String) : Except (Located Fault) (List PlacedToken) :=
  (Cursor.ofText text).readTokens

/-- The characters of a literal need not be decoded one by one. -/
theorem tokens_ofList (l : List Char) :
    tokens (.ofList l) = Cursor.readTokens ⟨l, .start⟩ := by
  rw [tokens, Cursor.ofText, String.toList_ofList]

end GirBind.Markup
