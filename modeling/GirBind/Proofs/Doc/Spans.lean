import GirBind.Proofs.Doc.Breaks

namespace GirBind.Doc

structure Span where
  start : Nat
  stop : Nat
  shown : Converted

/-- From a place on, spans are in order, apart from each other, not empty, and in the text. -/
def Fits (length : Nat) : Nat → List Span → Prop
  | place, [] => place ≤ length
  | place, x :: spans => place ≤ x.start ∧ x.start < x.stop ∧ Fits length x.stop spans

/-- The text from a place on with each span replaced. Every other character is copied. -/
def replaceSpans (text : List Char) : Nat → List Span → Converted
  | place, [] => .ofText (.ofList (text.drop place))
  | place, x :: spans => (Converted.ofText (.ofList (between text place x.start))).append <|
    x.shown.append (replaceSpans text x.stop spans)

def Move.span? (ctx : Context) (m : Move) : Option Span :=
  m.stop.map fun stop => ⟨m.token.start, stop, m.token.item.render ctx m.before.list⟩

variable {text : List Char} {ctx : Context}

theorem Runs.eq_replaceSpans {s : Cursor} {moves : List Move} {result : Converted}
    (h : Runs ctx text s moves result) (hs : s.IsWithin text) :
    Fits text.length s.copied (moves.filterMap (Move.span? ctx)) ∧
      result = s.output.append (replaceSpans text s.copied (moves.filterMap (Move.span? ctx))) := by
  induction h with
  | ended h => exact ⟨hs.copied_le.trans hs.searched_le, Cursor.eq_of_step_ended hs h⟩
  | @moved s m moves result h _ ih =>
    obtain ⟨rfl, hm⟩ := Cursor.isTurn_of_step hs h
    obtain ⟨hfits, hresult⟩ := ih hm.after_isWithin.1
    cases hstop : m.stop with
    | none =>
      have hspan : m.span? ctx = none := by rw [Move.span?, hstop, Option.map_none]
      rw [hm.after_eq_retry hstop] at hfits hresult
      rw [List.filterMap_cons_none hspan]
      exact ⟨hfits, hresult⟩
    | some stop =>
      have hspan : m.span? ctx =
          some ⟨m.token.start, stop, m.token.item.render ctx m.before.list⟩ := by
        rw [Move.span?, hstop, Option.map_some]
      rw [hm.after_eq_replace hstop] at hfits hresult
      rw [List.filterMap_cons_some hspan]
      refine ⟨⟨hm.isWithin.copied_le.trans hm.searched_le, (hm.bounds hstop).1, hfits⟩, ?_⟩
      rw [hresult, Cursor.replace, Converted.append_assoc, Converted.append_assoc]
      rfl

/-- The one scan of a text replaces parts of it and copies the rest. -/
theorem spans_of_convert (ctx : Context) (text : String) :
    ∃ moves : List Move, (∀ moves' result, Runs ctx text.toList .initial moves' result ↔
        moves' = moves ∧ result = convert ctx text) ∧
      Fits text.toList.length 0 (moves.filterMap (Move.span? ctx)) ∧
      convert ctx text = replaceSpans text.toList 0 (moves.filterMap (Move.span? ctx)) ∧
      ∀ m ∈ moves, m.token.stop ≤ text.toList.length ∧
        m.token.item.HasSource (between text.toList m.token.start m.token.stop) ∧
        (m.token.item ≠ .paragraph → m.stop = some m.token.stop) ∧
        (m.token.item = .paragraph → m.IsBreak text.toList) := by
  obtain ⟨moves, hmoves⟩ := exists_runs_convert ctx text
  have hrun := (hmoves moves _).2 ⟨rfl, rfl⟩
  have hinitial := Cursor.isWithin_initial text.toList
  obtain ⟨hfits, hresult⟩ := hrun.eq_replaceSpans hinitial
  refine ⟨moves, hmoves, hfits, hresult.trans (Converted.empty_append _), fun m hm => ?_⟩
  have hturn := hrun.isTurn hinitial m hm
  refine ⟨hturn.isAt.stop_le, hturn.isAt.source, fun hother => ?_, hturn.isBreak⟩
  rw [hturn.stop_eq, Token.stop?, if_neg fun hstarts => hother hstarts.1]

/-- A block of code between brackets is not announced, so a break in front of it is replaced with
all its line breaks. -/
theorem exists_replaced_break : ¬ ∀ (ctx : Context) (text : String) (moves : List Move),
    Runs ctx text.toList .initial moves (convert ctx text) → ∀ m ∈ moves,
      m.token.item = .paragraph → ∀ content n,
        token? true (text.toList.drop m.token.stop) = some (.codeBlock content, n) →
          m.stop = none ∨ m.stop = some (m.token.stop - 1) := by
  intro hall
  let ctx : Context := ⟨.empty ⟨"org.gnome", ∅⟩, "X"⟩
  let text := "One.\n\n|[x]|"
  have hinitial := Cursor.isWithin_initial text.toList
  have hsearch : search text.toList 0 = some ⟨.paragraph, 4, 6⟩ := by decide +kernel
  obtain ⟨m, hstep, hbefore, hm⟩ := Cursor.step_of_search_eq_some ctx hinitial hsearch
  obtain ⟨moves, hrun⟩ := Cursor.exists_runs ctx hm.after_isWithin.1
  have htoken : m.token = ⟨.paragraph, 4, 6⟩ := by
    have hfound := hm.search_eq
    rw [hbefore] at hfound
    exact Option.some.inj (hfound.symm.trans hsearch)
  have hresult : m.after.target ctx text.toList = convert ctx text := by
    rw [hm.after_target, hbefore, Cursor.target_initial]
  have hblock : token? true (text.toList.drop m.token.stop) = some (.codeBlock "x", 5) := by
    rw [htoken]
    decide +kernel
  have hstop : m.stop = some 6 := by
    rw [hm.stop_eq, htoken]
    decide +kernel
  have hall := hall ctx text (m :: moves) (hresult ▸ .moved hstep hrun) m List.mem_cons_self
    (by rw [htoken]) "x" 5 hblock
  rw [hstop, htoken] at hall
  exact absurd hall (by decide)

end GirBind.Doc
