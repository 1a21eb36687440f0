import GirBind.Proofs.Markup.Scan
import GirBind.Proofs.Markup.Reading
import GirBind.Source

namespace GirBind

namespace Markup

namespace Reference

variable {signs : List (List Char)} {raw text entity : List Char} {c : Char}

/-- A text in which every ampersand begins a reference, and the same text with a character in the
place of each reference. -/
inductive Decodes (signs : List (List Char)) : List Char → List Char → Prop
  | nil : Decodes signs [] []
  | plain {c : Char} {raw text : List Char} (hc : c ≠ '&') (h : Decodes signs raw text) :
    Decodes signs (c :: raw) (c :: text)
  | reference {c : Char} {entity raw text : List Char} (hc : Denotes signs entity c)
    (h : Decodes signs raw text) : Decodes signs ('&' :: (entity ++ ';' :: raw)) (c :: text)

/-- What stands behind an ampersand that begins no reference. -/
inductive Misses (signs : List (List Char)) : List Char → Fault → Prop
  | unterminated {after : List Char} (h : ';' ∉ after) : Misses signs after .unterminatedReference
  | unknown {entity rest : List Char} (h : ';' ∉ entity) (hno : ∀ c, ¬ Denotes signs entity c) :
    Misses signs (entity ++ ';' :: rest) (.unknownReference (.ofList entity))

theorem Decodes.decode_append (h : Decodes Numeral.optionalPlus raw text) (rest : List Char) :
    decode (raw ++ rest) = (decode rest).map (text ++ ·) := by
  induction h with
  | nil => exact (Attempt.map_id _).symm
  | plain hc _ ih =>
    rw [List.cons_append, decode_other hc, ih, Attempt.map_map]
    rfl
  | reference hc _ ih =>
    rw [List.cons_append, List.append_assoc, List.cons_append, decode_reference hc, ih,
      Attempt.map_map]
    rfl

theorem Decodes.decode_eq (h : Decodes Numeral.optionalPlus raw text) : decode raw = .ok text := by
  have happend := h.decode_append []
  rw [List.append_nil, decode] at happend
  rw [happend, Except.map, List.append_nil]

theorem Misses.decode_eq {after : List Char} {fault : Fault}
    (h : Misses Numeral.optionalPlus after fault) : decode ('&' :: after) = .error fault := by
  cases h with
  | unterminated h => exact decode_unterminated h
  | unknown h hno =>
    rw [decode_terminated h]
    split
    case h_1 c hc => exact absurd (denotes_of_char? hc) (hno c)
    case h_2 => rfl

theorem exists_of_dropWhile {x : Char} {rest : List Char}
    (h : raw.dropWhile (· != ';') = x :: rest) :
    ';' ∉ raw.takeWhile (· != ';') ∧ raw = raw.takeWhile (· != ';') ++ ';' :: rest := by
  have hx : x = ';' := by
    have hhead := List.head?_dropWhile_not (· != ';') raw
    rw [h] at hhead
    simpa using hhead
  constructor
  · intro hmem
    exact absurd (List.mem_takeWhile_imp hmem) (by decide)
  · rw [hx] at h
    rw [← h, List.takeWhile_append_dropWhile]

/-- A text is decoded to its end, or up to the first ampersand that begins no reference. -/
theorem exists_decodes (raw : List Char) : (∃ text, Decodes Numeral.optionalPlus raw text) ∨
    ∃ before text after fault, Decodes Numeral.optionalPlus before text ∧
      raw = before ++ '&' :: after ∧ Misses Numeral.optionalPlus after fault := by
  fun_induction decode raw with
  | case1 => exact .inl ⟨[], .nil⟩
  | case2 cs hdrop =>
    have hmiss : ';' ∉ cs := by
      intro hmem
      exact absurd (List.dropWhile_eq_nil_iff.1 hdrop _ hmem) (by decide)
    exact .inr ⟨[], [], cs, _, .nil, rfl, .unterminated hmiss⟩
  | case3 cs x rest hdrop entity d hd ih =>
    obtain ⟨-, hcs⟩ := exists_of_dropWhile hdrop
    have hd : Denotes Numeral.optionalPlus entity d := denotes_of_char? hd
    rw [hcs]
    rcases ih with ⟨text, htext⟩ | ⟨before, text, after, fault, hbefore, rfl, hafter⟩
    · exact .inl ⟨d :: text, .reference hd htext⟩
    · refine .inr ⟨_, d :: text, after, fault, .reference hd hbefore, ?_, hafter⟩
      rw [List.cons_append, List.append_assoc, List.cons_append]
  | case4 cs x rest hdrop entity hd =>
    obtain ⟨hmem, hcs⟩ := exists_of_dropWhile hdrop
    rw [hcs]
    refine .inr ⟨[], [], _, _, .nil, rfl, .unknown hmem fun c hc => ?_⟩
    cases hd.symm.trans (char?_of_denotes hc)
  | case5 c cs hc ih =>
    rcases ih with ⟨text, htext⟩ | ⟨before, text, after, fault, hbefore, rfl, hafter⟩
    · exact .inl ⟨c :: text, .plain hc htext⟩
    · exact .inr ⟨c :: before, c :: text, after, fault, .plain hc hbefore, rfl, hafter⟩

theorem decode_eq_ok_iff : decode raw = .ok text ↔ Decodes Numeral.optionalPlus raw text := by
  constructor
  · intro h
    rcases exists_decodes raw with ⟨value, hvalue⟩ | ⟨before, value, after, fault, hbefore, rfl, hafter⟩
    · cases hvalue.decode_eq.symm.trans h
      exact hvalue
    · rw [hbefore.decode_append, hafter.decode_eq] at h
      cases h
  · exact Decodes.decode_eq

theorem decode_eq_error_iff {fault : Fault} : decode raw = .error fault ↔
    ∃ before text after, Decodes Numeral.optionalPlus before text ∧ raw = before ++ '&' :: after ∧
      Misses Numeral.optionalPlus after fault := by
  constructor
  · intro h
    rcases exists_decodes raw with ⟨value, hvalue⟩ | ⟨before, value, after, fault', hbefore, rfl, hafter⟩
    · cases hvalue.decode_eq.symm.trans h
    · rw [hbefore.decode_append, hafter.decode_eq] at h
      cases h
      exact ⟨before, value, after, hbefore, rfl, hafter⟩
  · rintro ⟨before, value, after, hbefore, rfl, hafter⟩
    rw [hbefore.decode_append, hafter.decode_eq]
    rfl

def noSign : List (List Char) := [[]]

theorem Denotes.withoutPlus (h : Denotes Numeral.optionalPlus entity c) (hplus : '+' ∉ entity) :
    Denotes noSign entity c := by
  have hsign {sign rest : List Char} (hmem : sign ∈ Numeral.optionalPlus)
      (hfree : '+' ∉ sign ++ rest) : sign ∈ noSign := by
    simp only [Numeral.optionalPlus, List.mem_cons, List.not_mem_nil, or_false] at hmem
    cases hmem with
    | inl h => exact List.mem_singleton.2 h
    | inr h => exact absurd (h ▸ List.mem_cons_self) hfree
  cases h with
  | named h => exact .named h
  | decimal hmem h => exact .decimal (hsign hmem fun hin => hplus (.tail _ hin)) h
  | hexadecimal hmark hmem h =>
    exact .hexadecimal hmark (hsign hmem fun hin => hplus (.tail _ (.tail _ hin))) h

theorem Denotes.plus_not_mem (h : Denotes noSign entity c) : '+' ∉ entity := by
  have hsign {sign digits : List Char} {base : Nat} (hmem : sign ∈ noSign) (hbase : base ≤ 16)
      (h : Numeral.IsWritten base c.toNat digits) : '+' ∉ sign ++ digits := by
    rw [List.mem_singleton.1 hmem]
    exact h.not_mem hbase rfl
  cases h with
  | named h =>
    have hnamed : ∀ e ∈ namedCharacters, '+' ∉ e.2 := by decide
    exact hnamed _ h
  | decimal hmem h =>
    intro hin
    cases hin with
    | tail _ hin => exact hsign hmem (by decide) h hin
  | hexadecimal hmark hmem h =>
    intro hin
    cases hin with
    | tail _ hin =>
      cases hin with
      | head =>
        revert hmark
        decide
      | tail _ hin => exact hsign hmem (by decide) h hin

theorem Decodes.mono {more : List (List Char)} (h : Decodes signs raw text)
    (hsigns : signs ⊆ more) : Decodes more raw text := by
  induction h with
  | nil => exact .nil
  | plain hc _ ih => exact .plain hc ih
  | reference hc _ ih => exact .reference (hc.mono hsigns) ih

theorem decodes_noSign_iff (hplus : '+' ∉ raw) :
    Decodes Numeral.optionalPlus raw text ↔ Decodes noSign raw text := by
  constructor
  · intro h
    induction h with
    | nil => exact .nil
    | plain hc _ ih => exact .plain hc (ih fun hin => hplus (.tail _ hin))
    | @reference c entity raw text hc _ ih =>
      have hentity : '+' ∉ entity := fun hin =>
        hplus (.tail _ (List.mem_append_left _ hin))
      have hraw : '+' ∉ raw := fun hin =>
        hplus (.tail _ (List.mem_append_right _ (.tail _ hin)))
      exact .reference (hc.withoutPlus hentity) (ih hraw)
  · intro h
    exact h.mono (by decide)

end Reference

namespace Cursor

open Reference

variable {line : Nat} {raw rest : List Char}

theorem decodeAt_eq_ok_iff {text : String} :
    decodeAt line raw = .ok text ↔ Decodes Numeral.optionalPlus raw text.toList := by
  rw [← decode_eq_ok_iff, decodeAt]
  cases hraw : decode raw with
  | error fault => simp only [reduceCtorEq]
  | ok value =>
    rw [Except.ok.injEq, Except.ok.injEq]
    constructor
    · rintro rfl
      rw [String.toList_ofList]
    · intro h
      rw [h, String.ofList_toList]

theorem decodeAt_eq_error_iff {e : Located Fault} : decodeAt line raw = .error e ↔
    e.line = line ∧ ∃ before text after, Decodes Numeral.optionalPlus before text ∧
      raw = before ++ '&' :: after ∧ Misses Numeral.optionalPlus after e.fault := by
  rw [← decode_eq_error_iff, decodeAt]
  cases hraw : decode raw with
  | error fault =>
    obtain ⟨l, f⟩ := e
    simp only [Except.error.injEq, Located.mk.injEq]
    exact and_congr_left fun _ => eq_comm
  | ok value => simp only [reduceCtorEq, and_false]

theorem readValue_characters {c : Cursor} {quote : Char} (hquote : quote = '\x22' ∨ quote = '\x27')
    (hfree : quote ∉ raw) (h : c.rest = quote :: (raw ++ quote :: rest)) :
    ∃ d : Cursor, d.rest = rest ∧
      c.readValue = (decodeAt c.position.line raw).map fun value => (value, d) := by
  have hskip : (c.skip 1).rest = raw ++ ([quote] ++ rest) := rest_skip (s := [quote]) h
  have hclose : Text.IsClosing [quote] := ⟨[], quote, rfl, List.not_mem_nil⟩
  have hraw : ¬ [quote] <:+: raw := fun hin => hfree (hin.subset List.mem_cons_self)
  obtain ⟨d, hd, hrest⟩ := takeBefore?_eq hclose hraw hskip
  refine ⟨d, hrest, ?_⟩
  rw [readValue, h]
  dsimp only
  rw [if_pos hquote, hd]
  dsimp only
  cases decodeAt c.position.line raw with
  | error e => rfl
  | ok value => rfl

end Cursor
end Markup

namespace Source

open Markup Reference

theorem root_of_reads {s : Source} {ts : List PlacedToken} {d : Cursor} {e : Located Fault}
    (hts : (Cursor.ofText s.content).Reads ts d) (hd : d.rest ≠ []) (he : d.readToken = .error e) :
    s.root = .error (.schema s.file (e.map .markup)) := by
  rw [root, tokens, hts.readTokens_eq, Cursor.readTokens_of_error hd he]
  rfl

/-- Decoding succeeds exactly where every ampersand begins a reference, and puts a character into
the place of each. Otherwise it reports the first ampersand that begins none, which is a schema
error of the document. A number may have a plus sign before its digits, and a text without plus
signs is decoded as if it might not. -/
theorem decodes_or_reports (line : Nat) (raw : List Char) :
    (∀ text, Cursor.decodeAt line raw = .ok text ↔
      Decodes Numeral.optionalPlus raw text.toList) ∧
    (∀ e, Cursor.decodeAt line raw = .error e ↔
      e.line = line ∧ ∃ before text after, Decodes Numeral.optionalPlus before text ∧
        raw = before ++ '&' :: after ∧ Misses Numeral.optionalPlus after e.fault) ∧
    ('+' ∉ raw → ∀ text, Cursor.decodeAt line raw = .ok text ↔ Decodes noSign raw text.toList) ∧
    (∀ (c : Cursor) (quote : Char) (rest : List Char), quote = '\x22' ∨ quote = '\x27' →
      quote ∉ raw → c.rest = quote :: (raw ++ quote :: rest) → c.position.line = line →
      ∃ d : Cursor, d.rest = rest ∧
        c.readValue = (Cursor.decodeAt line raw).map fun value => (value, d)) ∧
    ∀ (s : Source) (ts : List PlacedToken) (d : Cursor) (rest : List Char) (e : Located Fault),
      (Cursor.ofText s.content).Reads ts d → d.rest = raw ++ rest → raw ≠ [] → '<' ∉ raw →
      StartsWith (· = '<') rest → d.position.line = line → Cursor.decodeAt line raw = .error e →
      s.root = .error (.schema s.file (e.map .markup)) := by
  refine ⟨fun _ => Cursor.decodeAt_eq_ok_iff, fun _ => Cursor.decodeAt_eq_error_iff, ?_, ?_, ?_⟩
  · intro hplus text
    rw [Cursor.decodeAt_eq_ok_iff, decodes_noSign_iff hplus]
  · rintro c quote rest hquote hfree hc rfl
    exact Cursor.readValue_characters hquote hfree hc
  · rintro s ts d rest e hts hd hne hfree hrest rfl he
    obtain ⟨d', -, hread⟩ := Cursor.readToken_characters hne hfree hrest hd
    rw [he] at hread
    apply root_of_reads hts _ hread
    rw [hd]
    exact List.append_ne_nil_of_left_ne_nil hne rest

def bogusSource : Source := ⟨"X.gir", .all, "<doc>a &lt;&#x41;\n&bogus; b</doc>"⟩

def bogusText : List Char := "a &lt;&#x41;\n&bogus; b".toList

theorem decodes_or_reports_bogusSource : ∃ ts d rest,
    (Cursor.ofText bogusSource.content).Reads ts d ∧ d.rest = bogusText ++ rest ∧
    StartsWith (· = '<') rest ∧ '<' ∉ bogusText ∧ '+' ∉ bogusText ∧ '\x22' ∉ bogusText ∧
    bogusSource.root = .error (.schema "X.gir" ⟨1, .markup (.unknownReference "bogus")⟩) ∧
    (¬ ∃ text, Decodes noSign bogusText text) ∧
    Cursor.readValue ⟨'\x22' :: (bogusText ++ ['\x22']), .start⟩ =
      .error ⟨1, .unknownReference "bogus"⟩ := by
  have hread : (Cursor.ofText bogusSource.content).readToken =
      .ok (.startTag "doc" [] false, ⟨bogusText ++ "</doc>".toList, ⟨1, 6⟩⟩) :=
    Attempt.toOption_eq_some_iff.1 (by decide +kernel)
  have hreads := Cursor.Reads.cons (by decide) hread .nil
  have herror : Cursor.decodeAt 1 bogusText = .error ⟨1, .unknownReference "bogus"⟩ := by
    decide +kernel
  have hrest : StartsWith (· = '<') "</doc>".toList := startsWith_cons rfl
  obtain ⟨-, -, hstandard, hvalue, hroot⟩ := decodes_or_reports 1 bogusText
  refine ⟨_, _, _, hreads, rfl, hrest, by decide, by decide, by decide, ?_, ?_, ?_⟩
  · exact hroot _ _ _ _ _ hreads rfl (by decide) (by decide) hrest rfl herror
  · rintro ⟨text, htext⟩
    have hok := (hstandard (by decide) (.ofList text)).2 (by rwa [String.toList_ofList])
    cases herror.symm.trans hok
  · obtain ⟨d, -, hread⟩ := hvalue ⟨_, .start⟩ '\x22' [] (.inl rfl) (by decide) rfl rfl
    rw [hread, herror]
    rfl

/-- A plus sign before the digits is no fault. -/
theorem exists_signed_reference : ¬ ∀ (line : Nat) (raw : List Char),
    (∃ text, Cursor.decodeAt line raw = .ok text) ↔ ∃ text, Decodes noSign raw text := by
  intro hall
  have hok : Cursor.decodeAt 1 ['&', '#', '+', '6', '5', ';'] = .ok "A" := by decide +kernel
  obtain ⟨text, htext⟩ := (hall 1 _).1 ⟨"A", hok⟩
  generalize hraw : ['&', '#', '+', '6', '5', ';'] = raw at htext
  cases htext with
  | nil => cases hraw
  | plain hc _ => exact hc (List.cons.inj hraw).1.symm
  | @reference c entity raw text hc _ =>
    have hsemicolon : ∀ d ∈ entity, (d != ';') = true := by
      intro d hd
      rw [bne_iff_ne]
      rintro rfl
      exact (hc.mono (by decide)).not_mem (by decide) hd
    have hentity := congrArg (List.takeWhile (· != ';')) (List.cons.inj hraw).2
    rw [List.takeWhile_append_of_pos hsemicolon] at hentity
    have hentity : ['#', '+', '6', '5'] = entity := hentity.trans (List.append_nil entity)
    apply hc.plus_not_mem
    rw [← hentity]
    decide

end Source
end GirBind
