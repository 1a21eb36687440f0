import GirBind.Proofs.Doc.InlineLine
import GirBind.Proofs.Doc.Token

namespace GirBind.Doc

/-- How far a scan has come. -/
structure Cursor where
  /-- Everything in front is in the output. -/
  copied : Nat
  /-- The next token is looked for from here on. -/
  searched : Nat
  list : ListState
  output : Converted

def Cursor.initial : Cursor := ⟨0, 0, .outside, .ofText ""⟩

structure Move where
  before : Cursor
  token : Token
  /-- Where the replaced part ends, if the token is taken. -/
  stop : Option Nat
  after : Cursor

inductive Turn
  | ended (result : Converted)
  | moved (m : Move)

def Cursor.replace (ctx : Context) (s : Cursor) (copy : List Char) (t : Token) (stop : Nat) :
    Cursor where
  copied := stop
  searched := stop
  list := s.list.next t.item
  output := (s.output.append (.ofText (.ofList copy))).append (t.item.render ctx s.list)

/-- One turn of the scan. It fails if a slice is out of range. -/
def Cursor.step (ctx : Context) (text : List Char) (s : Cursor) : Option Turn :=
  match search text s.searched with
  | none => (slice? text s.copied text.length).map fun rest =>
      .ended (s.output.append (.ofText (.ofList rest)))
  | some t => (slice? text t.stop text.length).bind fun rest =>
      match t.stop? rest with
      -- the search goes on at the second of the two line breaks
      | none => some (.moved ⟨s, t, none, { s with searched := t.start + 1 }⟩)
      | some stop => (slice? text s.copied t.start).map fun copy =>
          .moved ⟨s, t, some stop, s.replace ctx copy t stop⟩

inductive Runs (ctx : Context) (text : List Char) : Cursor → List Move → Converted → Prop
  | ended {s : Cursor} {result : Converted} (h : s.step ctx text = some (.ended result)) :
    Runs ctx text s [] result
  | moved {s : Cursor} {m : Move} {moves : List Move} {result : Converted}
    (h : s.step ctx text = some (.moved m)) (hrun : Runs ctx text m.after moves result) :
    Runs ctx text s (m :: moves) result

variable {text : List Char}

structure Cursor.IsWithin (text : List Char) (s : Cursor) : Prop where
  copied_le : s.copied ≤ s.searched
  searched_le : s.searched ≤ text.length

namespace Cursor

variable {ctx : Context} {s : Cursor}

/-- The result that a scan is heading for: the output so far, the text that is left to copy up to
the place of the search, and the conversion of the text from there on. -/
def target (ctx : Context) (text : List Char) (s : Cursor) : Converted :=
  s.output.append <| (Converted.ofText (.ofList (between text s.copied s.searched))).append <|
    .concat (renderSegments ctx s.list (segmentsFrom text s.searched))

theorem target_initial (ctx : Context) (text : String) :
    initial.target ctx text.toList = convert ctx text := by
  have hnone : between text.toList 0 0 = [] := rfl
  have hfirst : segmentsFrom text.toList 0 = Segment.ofText true text.toList := rfl
  rw [target, initial, convert, ← Converted.concat_eq, Converted.empty_append, hnone, hfirst]
  exact Converted.empty_append _

theorem target_of_plain {place : Nat} (hs : s.IsWithin text) (hplace : s.searched ≤ place)
    (h : segmentsFrom text s.searched =
      (between text s.searched place).map .plain ++ segmentsFrom text place) :
    s.target ctx text = { s with searched := place }.target ctx text := by
  rw [target, target, h, concat_renderSegments_plain, ← Converted.append_assoc (.ofText _),
    Converted.ofText_append, ← String.ofList_append, between_append hs.copied_le hplace]

end Cursor

/-- What a turn of the scan does about the next token. -/
structure Move.IsTurn (ctx : Context) (text : List Char) (m : Move) : Prop where
  isWithin : m.before.IsWithin text
  search_eq : search text m.before.searched = some m.token
  stop_eq : m.stop = m.token.stop? (text.drop m.token.stop)
  after_eq : m.after =
    match m.stop with
    | none => { m.before with searched := m.token.start + 1 }
    | some stop => m.before.replace ctx (between text m.before.copied m.token.start) m.token stop

namespace Move.IsTurn

variable {ctx : Context} {m : Move} (h : m.IsTurn ctx text)
include h

theorem searched_le : m.before.searched ≤ m.token.start := (of_search_eq_some h.search_eq).1

theorem isAt : m.token.IsAt text := (of_search_eq_some h.search_eq).2.1

theorem bounds {stop : Nat} (hstop : m.stop = some stop) :
    m.token.start < stop ∧ stop ≤ m.token.stop :=
  h.isAt.stop?_bounds (h.stop_eq.symm.trans hstop)

theorem after_eq_replace {stop : Nat} (hstop : m.stop = some stop) :
    m.after = m.before.replace ctx (between text m.before.copied m.token.start) m.token stop := by
  rw [h.after_eq, hstop]

theorem after_eq_retry (hstop : m.stop = none) :
    m.after = { m.before with searched := m.token.start + 1 } := by
  rw [h.after_eq, hstop]

theorem after_isWithin : m.after.IsWithin text ∧ m.before.searched < m.after.searched := by
  have hcopied := h.isWithin.copied_le
  have hsearched := h.searched_le
  have hstart := h.isAt.start_lt
  have hlength := h.isAt.stop_le
  cases hstop : m.stop with
  | none =>
    rw [h.after_eq_retry hstop]
    exact ⟨⟨by dsimp only; omega, by dsimp only; omega⟩, by dsimp only; omega⟩
  | some stop =>
    obtain ⟨hlt, hle⟩ := h.bounds hstop
    rw [h.after_eq_replace hstop]
    exact ⟨⟨Nat.le_refl _, hle.trans hlength⟩, Nat.lt_of_le_of_lt hsearched hlt⟩

/-- Where a scan is heading does not change on the way. -/
theorem after_target : m.after.target ctx text = m.before.target ctx text := by
  obtain ⟨hplace, ht, hsegments⟩ := of_search_eq_some h.search_eq
  have hstart := ht.start_lt
  have hlength := ht.stop_le
  have hs : ({ m.before with searched := m.token.start } : Cursor).IsWithin text :=
    ⟨h.isWithin.copied_le.trans hplace, by dsimp only; omega⟩
  rw [Cursor.target_of_plain h.isWithin hplace hsegments]
  cases hstop : m.stop with
  | none =>
    rw [h.after_eq_retry hstop]
    exact (Cursor.target_of_plain hs (Nat.le_succ _)
      (ht.segmentsFrom_untaken (h.stop_eq.symm.trans hstop))).symm
  | some stop =>
    rw [h.after_eq_replace hstop, Cursor.target, Cursor.target,
      ht.segmentsFrom_taken (h.stop_eq.symm.trans hstop), Cursor.replace, between_self]
    dsimp only
    rw [renderSegments, Converted.concat, Converted.append_assoc, Converted.append_assoc]
    exact congrArg _ (congrArg _ (congrArg _ (Converted.empty_append _)))

end Move.IsTurn

namespace Cursor

variable {ctx : Context} {s : Cursor}

theorem target_of_search_eq_none (hs : s.IsWithin text) (h : search text s.searched = none) :
    s.target ctx text = s.output.append (.ofText (.ofList (text.drop s.copied))) := by
  have hplain : segmentsFrom text s.searched =
      (between text s.searched text.length).map .plain ++ segmentsFrom text text.length := by
    rw [segmentsFrom_of_search_eq_none h, between_length, segmentsFrom_length, List.append_nil]
  rw [target_of_plain hs hs.searched_le hplain, target, segmentsFrom_length]
  dsimp only
  rw [between_length, renderSegments, Converted.concat, Converted.append_empty]

theorem step_of_search_eq_none (hs : s.IsWithin text) (h : search text s.searched = none) :
    s.step ctx text = some (.ended (s.target ctx text)) := by
  rw [step, h, target_of_search_eq_none hs h]
  dsimp only
  rw [slice?_eq (hs.copied_le.trans hs.searched_le) (Nat.le_refl _), between_length,
    Option.map_some]

/-- Where a token is left, no slice is out of range. -/
theorem step_of_search_eq_some (ctx : Context) {t : Token} (hs : s.IsWithin text)
    (h : search text s.searched = some t) :
    ∃ m, s.step ctx text = some (.moved m) ∧ m.before = s ∧ m.IsTurn ctx text := by
  obtain ⟨hplace, ht, -⟩ := of_search_eq_some h
  have hstart := ht.start_lt
  have hlength := ht.stop_le
  rw [step, h]
  dsimp only
  rw [slice?_eq hlength (Nat.le_refl _), between_length, Option.bind_some]
  split
  case h_1 hstop => exact ⟨_, rfl, rfl, hs, h, hstop.symm, rfl⟩
  case h_2 stop hstop =>
    rw [slice?_eq (hs.copied_le.trans hplace) (by omega), Option.map_some]
    exact ⟨_, rfl, rfl, hs, h, hstop.symm, rfl⟩

theorem step_cases (ctx : Context) (hs : s.IsWithin text) :
    s.step ctx text = some (.ended (s.target ctx text)) ∨
      ∃ m, s.step ctx text = some (.moved m) ∧ m.before = s ∧ m.IsTurn ctx text := by
  cases h : search text s.searched with
  | none => exact .inl (step_of_search_eq_none hs h)
  | some t => exact .inr (step_of_search_eq_some ctx hs h)

theorem isTurn_of_step {m : Move} (hs : s.IsWithin text) (h : s.step ctx text = some (.moved m)) :
    m.before = s ∧ m.IsTurn ctx text := by
  rcases step_cases ctx hs with hended | ⟨m', hmoved, hm'⟩
  · rw [hended] at h
    cases h
  · rw [hmoved] at h
    cases h
    exact hm'

theorem eq_of_step_ended {result : Converted} (hs : s.IsWithin text)
    (h : s.step ctx text = some (.ended result)) :
    result = s.output.append (.ofText (.ofList (text.drop s.copied))) := by
  cases hsearch : search text s.searched with
  | none =>
    rw [step_of_search_eq_none hs hsearch] at h
    cases h
    exact target_of_search_eq_none hs hsearch
  | some t =>
    obtain ⟨m, hmoved, -⟩ := step_of_search_eq_some ctx hs hsearch
    rw [hmoved] at h
    cases h

theorem exists_runs (ctx : Context) {s : Cursor} (hs : s.IsWithin text) :
    ∃ moves, Runs ctx text s moves (s.target ctx text) := by
  rcases step_cases ctx hs with hended | ⟨m, hmoved, hbefore, hm⟩
  · exact ⟨[], .ended hended⟩
  · obtain ⟨hafter, hsearched⟩ := hm.after_isWithin
    obtain ⟨moves, hrun⟩ := exists_runs ctx hafter
    rw [hm.after_target, hbefore] at hrun
    exact ⟨m :: moves, .moved hmoved hrun⟩
termination_by text.length - s.searched
decreasing_by
  have := hafter.searched_le
  rw [hbefore] at hsearched
  omega

end Cursor

namespace Runs

variable {ctx : Context} {s : Cursor} {moves moves' : List Move} {result result' : Converted}

theorem unique (h : Runs ctx text s moves result) (h' : Runs ctx text s moves' result') :
    moves' = moves ∧ result' = result := by
  induction h generalizing moves' with
  | ended h =>
    cases h' with
    | ended h' =>
      rw [h] at h'
      cases h'
      exact ⟨rfl, rfl⟩
    | moved h' =>
      rw [h] at h'
      cases h'
  | moved h _ ih =>
    cases h' with
    | ended h' =>
      rw [h] at h'
      cases h'
    | moved h' hrun' =>
      rw [h] at h'
      cases h'
      obtain ⟨rfl, rfl⟩ := ih hrun'
      exact ⟨rfl, rfl⟩

theorem isTurn (h : Runs ctx text s moves result) (hs : s.IsWithin text) :
    ∀ m ∈ moves, m.IsTurn ctx text := by
  induction h with
  | ended => exact fun _ hm => absurd hm List.not_mem_nil
  | moved h _ ih =>
    obtain ⟨-, hm⟩ := Cursor.isTurn_of_step hs h
    exact List.forall_mem_cons.2 ⟨hm, ih hm.after_isWithin.1⟩

end Runs

theorem Cursor.isWithin_initial (text : List Char) : initial.IsWithin text :=
  ⟨Nat.le_refl _, Nat.zero_le _⟩

/-- The conversion of a text is what its one scan comes to. -/
theorem exists_runs_convert (ctx : Context) (text : String) : ∃ moves, ∀ moves' result,
    Runs ctx text.toList .initial moves' result ↔ moves' = moves ∧ result = convert ctx text := by
  obtain ⟨moves, hrun⟩ := Cursor.exists_runs ctx (Cursor.isWithin_initial text.toList)
  rw [Cursor.target_initial] at hrun
  refine ⟨moves, fun moves' result => ⟨hrun.unique, ?_⟩⟩
  rintro ⟨rfl, rfl⟩
  exact hrun

end GirBind.Doc
