import GirBind.Proofs.Markup.Piece

namespace GirBind.Markup

namespace Cursor

def FaultAhead (c : Cursor) (e : Located Fault) : Prop :=
  ∃ d, c.Reaches d ∧ e.line = d.position.line

variable {c d : Cursor} {e : Located Fault} {t : Token}

theorem Reaches.faultAhead (h : c.Reaches d) (he : d.FaultAhead e) : c.FaultAhead e := by
  obtain ⟨f, hf, hline⟩ := he
  exact ⟨f, h.trans hf, hline⟩

theorem faultAhead_of_fail {α : Type} {fault : Fault} (h : c.fail fault = (.error e : Except _ α)) :
    c.FaultAhead e := by
  cases h
  exact ⟨c, .refl c, rfl⟩

theorem faultAhead_of_expect {wanted : Char} (h : c.expect wanted = .error e) :
    c.FaultAhead e := by
  rw [expect] at h
  split at h
  case h_1 => exact faultAhead_of_fail h
  case h_2 =>
    split at h
    case isTrue => cases h
    case isFalse => exact faultAhead_of_fail h

theorem faultAhead_of_readName (h : c.readName = .error e) : c.FaultAhead e := by
  rw [readName] at h
  dsimp only at h
  split at h
  case isTrue => cases h
  case isFalse => exact (c.reaches_takeWhile _).faultAhead (faultAhead_of_fail h)

theorem line_of_decodeAt {line : Nat} {raw : List Char} (h : decodeAt line raw = .error e) :
    e.line = line :=
  (decodeAt_eq_error_iff.1 h).1

theorem faultAhead_of_readValue (h : c.readValue = .error e) : c.FaultAhead e := by
  rw [readValue] at h
  split at h
  case h_1 => exact faultAhead_of_fail h
  case h_2 =>
    split at h
    case isTrue =>
      split at h
      case h_1 => exact (c.reaches_skip _).faultAhead (faultAhead_of_fail h)
      case h_2 =>
        split at h
        case h_1 => cases h
        case h_2 herror =>
          cases h
          exact ⟨c, .refl c, line_of_decodeAt herror⟩
    case isFalse => exact faultAhead_of_fail h

theorem faultAhead_of_readAttribute (h : c.readAttribute = .error e) : c.FaultAhead e := by
  rw [readAttribute] at h
  cases hkey : c.readName with
  | error f =>
    rw [hkey] at h
    cases h
    exact faultAhead_of_readName hkey
  | ok out =>
    obtain ⟨key, afterKey⟩ := out
    have hreach := (reaches_readName hkey).trans (afterKey.reaches_skipWhile Text.isBlank)
    rw [hkey] at h
    cases hsign : afterKey.skipBlanks.expect '=' with
    | error f =>
      simp only [bind, Except.bind, hsign] at h
      cases h
      exact hreach.faultAhead (faultAhead_of_expect hsign)
    | ok afterSign =>
      have hreach := (hreach.trans (reaches_expect hsign).1).trans
        (afterSign.reaches_skipWhile Text.isBlank)
      cases hvalue : afterSign.skipBlanks.readValue with
      | error f =>
        simp only [bind, Except.bind, hsign, hvalue] at h
        cases h
        exact hreach.faultAhead (faultAhead_of_readValue hvalue)
      | ok out =>
        simp only [bind, Except.bind, hsign, hvalue] at h
        cases h

theorem faultAhead_of_readAttributes {tag : String} {read : List (String × String)}
    (h : readAttributes tag read c = .error e) : c.FaultAhead e := by
  fun_induction readAttributes tag read c with
  | case1 read c start hstart =>
    exact (c.reaches_skipWhile _).faultAhead (faultAhead_of_fail h)
  | case2 => cases h
  | case3 read c start _ _ f hf =>
    cases h
    exact ((c.reaches_skipWhile _).trans (start.reaches_skip 1)).faultAhead
      (faultAhead_of_expect hf)
  | case4 => cases h
  | case5 read c start _ _ _ _ _ f hf =>
    cases h
    exact (c.reaches_skipWhile _).faultAhead (faultAhead_of_readAttribute hf)
  | case6 read c start =>
    exact (c.reaches_skipWhile Text.isBlank).faultAhead (faultAhead_of_fail (c := start) h)
  | case7 read c start _ _ _ _ _ pair d hd _ ih =>
    exact ((c.reaches_skipWhile _).trans (reaches_readAttribute hd).1).faultAhead (ih h)

theorem faultAhead_of_readEnclosed {close construct : String} {make : String → Token}
    (h : c.readEnclosed close construct make = .error e) : c.FaultAhead e := by
  rw [readEnclosed, readUntil] at h
  cases htake : c.takeBefore? close.toList with
  | none =>
    rw [htake] at h
    cases h
    exact ⟨_, c.reaches_skip _, rfl⟩
  | some out =>
    rw [htake] at h
    cases h

theorem faultAhead_of_readEndTag (h : c.readEndTag = .error e) : c.FaultAhead e := by
  rw [readEndTag] at h
  split at h
  case h_1 hname =>
    cases h
    exact faultAhead_of_readName hname
  case h_2 name d hname =>
    split at h
    case h_1 => cases h
    case h_2 hexpect =>
      cases h
      exact ((reaches_readName hname).trans (d.reaches_skipWhile _)).faultAhead
        (faultAhead_of_expect hexpect)

theorem faultAhead_of_readStartTag (h : c.readStartTag = .error e) : c.FaultAhead e := by
  rw [readStartTag] at h
  split at h
  case h_1 hname =>
    cases h
    exact faultAhead_of_readName hname
  case h_2 hname => exact (reaches_readName hname).faultAhead (faultAhead_of_readAttributes h)

theorem faultAhead_of_readMarkup (h : c.readMarkup = .error e) : c.FaultAhead e := by
  rw [readMarkup] at h
  split at h
  case isTrue => exact (c.reaches_skip 4).faultAhead (faultAhead_of_readEnclosed h)
  split at h
  case isTrue => exact (c.reaches_skip 9).faultAhead (faultAhead_of_readEnclosed h)
  split at h
  case isTrue => exact (c.reaches_skip 2).faultAhead (faultAhead_of_readEnclosed h)
  split at h
  case isTrue => exact (c.reaches_skip 2).faultAhead (faultAhead_of_readEnclosed h)
  split at h
  case isTrue => exact (c.reaches_skip 2).faultAhead (faultAhead_of_readEndTag h)
  case isFalse => exact (c.reaches_skip 1).faultAhead (faultAhead_of_readStartTag h)

theorem faultAhead_of_readToken (h : c.readToken = .error e) : c.FaultAhead e := by
  rw [readToken] at h
  split at h
  case h_1 => exact faultAhead_of_readMarkup h
  case h_2 =>
    rw [readText] at h
    dsimp only at h
    split at h
    case h_1 => cases h
    case h_2 herror =>
      cases h
      exact ⟨c, .refl c, line_of_decodeAt herror⟩

end Cursor

/-- Tokens that lie one behind the other in a text. Each one begins at its offset and ends at the
next, its place is that of its offset, and the piece between the two is its own. -/
structure Tiles (text : List Char) (ts : List PlacedToken) (offsets : List Nat) : Prop where
  count : offsets.length = ts.length + 1
  increasing : offsets.IsChain (· < ·)
  token : ∀ (k : Nat) (t : PlacedToken) (o o' : Nat), ts[k]? = some t → offsets[k]? = some o →
    offsets[k + 1]? = some o' → t.position = .behind (text.take o) ∧
      Piece (text.take o) t.token (text.extract o o') (text.drop o')

theorem Position.behind_append {c d : Cursor} {before piece : List Char}
    (hc : c.position = .behind before) (hreach : c.Reaches d) (hrest : c.rest = piece ++ d.rest) :
    d.position = .behind (before ++ piece) := by
  obtain ⟨read, hread, hd⟩ := hreach
  obtain rfl : read = piece := List.append_cancel_right (hread.symm.trans hrest)
  rw [hd, hc, ← after_start, ← after_start, after_append]

theorem Tiles.nil (text : List Char) (o : Nat) : Tiles text [] [o] where
  count := rfl
  increasing := .singleton o
  token k t o o' hk := by cases hk

theorem Tiles.cons {text : List Char} {t : PlacedToken} {ts : List PlacedToken} {o o' : Nat}
    {offsets : List Nat} (hts : Tiles text ts (o' :: offsets)) (hlt : o < o')
    (hposition : t.position = .behind (text.take o))
    (hpiece : Piece (text.take o) t.token (text.extract o o') (text.drop o')) :
    Tiles text (t :: ts) (o :: o' :: offsets) where
  count := by rw [List.length_cons, hts.count, List.length_cons]
  increasing := List.isChain_cons_cons.2 ⟨hlt, hts.increasing⟩
  token k u a b hu ha hb := by
    cases k with
    | zero =>
      cases hu
      cases ha
      cases hb
      exact ⟨hposition, hpiece⟩
    | succ k => exact hts.token k u a b hu ha hb

theorem exists_tiles {c d : Cursor} {ts : List PlacedToken} {before : List Char}
    (h : c.Reads ts d) (hc : c.position = .behind before)
    (hbefore : StartsWith (· = '<') c.rest ∨ ∀ x ∈ before.getLast?, x = '>') :
    ∃ offsets after, Tiles (before ++ c.rest) ts offsets ∧
      offsets.head? = some before.length ∧ offsets.getLast? = some after.length ∧
      before ++ c.rest = after ++ d.rest ∧ d.position = .behind after := by
  induction h generalizing before with
  | @nil c => exact ⟨[before.length], before, .nil _ _, rfl, rfl, rfl, hc⟩
  | @cons c d e t ts hne ht _ ih =>
    obtain ⟨piece, hpiece, hrest⟩ := Cursor.exists_piece hne hbefore ht
    have hd := Position.behind_append hc (Cursor.reaches_readToken ht) hrest
    obtain ⟨offsets, after, htiles, hhead, hlast, hsplit, he⟩ := ih hd hpiece.ends
    obtain ⟨later, rfl⟩ := List.head?_eq_some_iff.1 hhead
    have htext : before ++ c.rest = before ++ piece ++ d.rest := by
      rw [hrest, List.append_assoc]
    have htake : (before ++ piece ++ d.rest).take before.length = before := by
      rw [List.append_assoc, List.take_left]
    have hextract : (before ++ piece ++ d.rest).extract before.length (before ++ piece).length =
        piece := by
      rw [List.extract_eq_take_drop, List.append_assoc, List.drop_left, List.length_append,
        Nat.add_sub_cancel_left, List.take_left]
    have hdrop : (before ++ piece ++ d.rest).drop (before ++ piece).length = d.rest :=
      List.drop_left
    rw [htext]
    refine ⟨_, after, htiles.cons ?_ ?_ ?_, rfl, hlast, hsplit, he⟩
    · rw [List.length_append]
      exact Nat.lt_add_of_pos_right (List.length_pos_iff.2 hpiece.ne_nil)
    · rw [htake]
      exact hc
    · rwa [htake, hextract, hdrop]

/-- Every scan comes to an end. Either its tokens tile the whole text, and the mark of the end
stands behind all of it, or those before a fault tile a first part, and the fault is on a line of
the rest. -/
theorem tokens_tile (text : String) :
    (∃ ts offsets, tokens text = .ok (ts ++ [⟨.endOfInput, .behind text.toList⟩]) ∧
      Tiles text.toList ts offsets ∧ offsets.head? = some 0 ∧
      offsets.getLast? = some text.toList.length) ∨
    ∃ e ts offsets o o', tokens text = .error e ∧
      Tiles text.toList ts offsets ∧ offsets.head? = some 0 ∧ offsets.getLast? = some o ∧
      o ≤ o' ∧ o' ≤ text.toList.length ∧
      e.line = (Position.behind (text.toList.take o')).line := by
  obtain ⟨ts, d, hts, hend⟩ := Cursor.exists_reads (.ofText text)
  have hbefore : ∀ x ∈ ([] : List Char).getLast?, x = '>' := fun x hx => by cases hx
  obtain ⟨offsets, after, htiles, hhead, hlast, hsplit, hd⟩ :=
    exists_tiles hts rfl (.inr hbefore)
  change text.toList = after ++ d.rest at hsplit
  rw [tokens, hts.readTokens_eq]
  rcases hend with hend | ⟨hne, e, he⟩
  · rw [hend, List.append_nil] at hsplit
    rw [Cursor.readTokens, dif_pos hend, hd, ← hsplit]
    rw [← hsplit] at hlast
    exact .inl ⟨ts, offsets, rfl, htiles, hhead, hlast⟩
  · obtain ⟨f, ⟨read, hread, hf⟩, hline⟩ := Cursor.faultAhead_of_readToken he
    have hplace := Position.behind_append hd ⟨read, hread, hf⟩ hread
    have htext : text.toList = after ++ read ++ f.rest := by
      rw [hsplit, hread, List.append_assoc]
    rw [Cursor.readTokens_of_error hne he]
    refine .inr ⟨e, ts, offsets, after.length, (after ++ read).length, rfl, htiles, hhead, hlast,
      ?_, ?_, ?_⟩
    · rw [List.length_append]
      exact Nat.le_add_right _ _
    · rw [htext]
      exact (List.prefix_append _ _).length_le
    · rw [htext, List.take_left, hline, hplace]

end GirBind.Markup
