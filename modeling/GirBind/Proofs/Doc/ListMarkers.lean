import GirBind.Proofs.Doc.Spans

namespace GirBind.Doc

inductive Marker
  | opening
  | item
  | closing
deriving DecidableEq

namespace Marker

def tag : Marker → String
  | opening => "<ul>"
  | item => "<li>"
  | closing => "</ul>"

def ofText : List Char → List Marker
  | [] => []
  | c :: cs =>
    [opening, item, closing].filter (fun k => k.tag.toList.isPrefixOf (c :: cs)) ++ ofText cs

def ofBullet : ListState → List Marker
  | .outside => [opening, item]
  | .inside => [item]

def ofBreak : ListState → List Marker
  | .outside => []
  | .inside => [closing]

theorem ofText_bullet (state : ListState) : ofText state.bullet.toList = ofBullet state := by
  cases state with
  | outside => decide +kernel
  | inside => decide +kernel

theorem ofText_paragraph (state : ListState) : ofText state.paragraph.toList = ofBreak state := by
  cases state with
  | outside => decide +kernel
  | inside => decide +kernel

/-- Lists one behind the other, each with an item and a closing marker. The last one can be left
open. -/
inductive IsNested : List Marker → Prop
  | none : IsNested []
  | unclosed (n : Nat) : IsNested (opening :: .replicate (n + 1) item)
  | closed (n : Nat) {rest : List Marker} (h : IsNested rest) :
    IsNested (opening :: (.replicate (n + 1) item ++ closing :: rest))

theorem IsNested.more {rest : List Marker} (h : IsNested (opening :: item :: rest)) :
    IsNested (opening :: item :: item :: rest) := by
  cases h with
  | unclosed n => exact .unclosed (n + 1)
  | closed n h => exact .closed (n + 1) h

/-- What is behind an open list closes it or leaves it open. -/
def IsNestedFrom : ListState → List Marker → Prop
  | .outside, markers => IsNested markers
  | .inside, markers => IsNested (opening :: item :: markers)

end Marker

namespace Move

/-- The markers that a bullet or a break between paragraphs puts into the output. Tags in copied
text or in other items do not count. -/
def markers (ctx : Context) (m : Move) : List Marker :=
  if m.token.item = .bullet ∨ m.token.item = .paragraph then
    match m.span? ctx with
    | some x => Marker.ofText x.shown.text.toList
    | none => []
  else
    []

def IsBullet (m : Move) : Prop := m.token.item = .bullet

def Breaks (m : Move) : Prop := m.token.item = .paragraph ∧ m.stop ≠ none

/-- Among the moves is one of the first kind, and none of the second kind behind it. -/
def Since (p q : Move → Prop) (moves : List Move) : Prop :=
  ∃ front m back, moves = front ++ m :: back ∧ p m ∧ ∀ x ∈ back, ¬ q x

theorem since_cons {p q : Move → Prop} {m : Move} {moves : List Move} :
    Since p q (m :: moves) ↔ (p m ∧ ∀ x ∈ moves, ¬ q x) ∨ Since p q moves := by
  constructor
  · rintro ⟨front, m', back, hmoves, hp, hq⟩
    cases front with
    | nil =>
      cases hmoves
      exact .inl ⟨hp, hq⟩
    | cons x front =>
      cases hmoves
      exact .inr ⟨front, m', back, rfl, hp, hq⟩
  · rintro (⟨hp, hq⟩ | ⟨front, m', back, rfl, hp, hq⟩)
    · exact ⟨[], m, moves, rfl, hp, hq⟩
    · exact ⟨m :: front, m', back, rfl, hp, hq⟩

namespace IsTurn

variable {text : List Char} {ctx : Context} {m : Move} (h : m.IsTurn ctx text)
include h

theorem stop_eq_of_isBullet (hbullet : m.IsBullet) : m.stop = some m.token.stop := by
  rw [h.stop_eq, Token.stop?, if_neg]
  rintro ⟨hbreak, -⟩
  rw [hbullet] at hbreak
  cases hbreak

theorem of_isBullet (hbullet : m.IsBullet) :
    m.after.list = .inside ∧ m.markers ctx = Marker.ofBullet m.before.list := by
  have hstop := h.stop_eq_of_isBullet hbullet
  rw [IsBullet] at hbullet
  rw [h.after_eq_replace hstop, Cursor.replace, markers, if_pos (.inl hbullet), span?, hstop,
    hbullet]
  exact ⟨rfl, Marker.ofText_bullet _⟩

theorem of_breaks (hbreaks : m.Breaks) :
    m.after.list = .outside ∧ m.markers ctx = Marker.ofBreak m.before.list := by
  obtain ⟨hbreak, hstop⟩ := hbreaks
  obtain ⟨stop, hstop⟩ := Option.ne_none_iff_exists'.1 hstop
  rw [h.after_eq_replace hstop, Cursor.replace, markers, if_pos (.inr hbreak), span?, hstop, hbreak]
  exact ⟨rfl, Marker.ofText_paragraph _⟩

theorem of_other (hbullet : ¬ m.IsBullet) (hbreaks : ¬ m.Breaks) :
    m.after.list = m.before.list ∧ m.markers ctx = [] := by
  cases hstop : m.stop with
  | none =>
    rw [h.after_eq_retry hstop, markers, span?, hstop]
    exact ⟨rfl, ite_self _⟩
  | some stop =>
    have hbreak : m.token.item ≠ .paragraph := fun hbreak => hbreaks ⟨hbreak, by simp [hstop]⟩
    rw [IsBullet] at hbullet
    rw [h.after_eq_replace hstop, markers, if_neg (not_or.2 ⟨hbullet, hbreak⟩), Cursor.replace]
    refine ⟨?_, rfl⟩
    dsimp only
    rw [ListState.next]
    · exact hbullet
    · exact hbreak

theorem list_cases :
    (m.IsBullet ∧ ¬ m.Breaks ∧ m.after.list = .inside ∧
      m.markers ctx = Marker.ofBullet m.before.list) ∨
    (¬ m.IsBullet ∧ m.Breaks ∧ m.after.list = .outside ∧
      m.markers ctx = Marker.ofBreak m.before.list) ∨
    (¬ m.IsBullet ∧ ¬ m.Breaks ∧ m.after.list = m.before.list ∧ m.markers ctx = []) := by
  by_cases hbullet : m.IsBullet
  · refine .inl ⟨hbullet, fun hbreaks => ?_, h.of_isBullet hbullet⟩
    cases hbullet.symm.trans hbreaks.1
  · by_cases hbreaks : m.Breaks
    · exact .inr (.inl ⟨hbullet, hbreaks, h.of_breaks hbreaks⟩)
    · exact .inr (.inr ⟨hbullet, hbreaks, h.of_other hbullet hbreaks⟩)

theorem closing_mem_iff : .closing ∈ m.markers ctx ↔ m.Breaks ∧ m.before.list = .inside := by
  rcases h.list_cases with ⟨-, hbreaks, -, hm⟩ | ⟨-, hbreaks, -, hm⟩ | ⟨-, hbreaks, -, hm⟩
  · cases hlist : m.before.list <;> simp [hm, hbreaks, hlist, Marker.ofBullet]
  · cases hlist : m.before.list <;> simp [hm, hbreaks, hlist, Marker.ofBreak]
  · simp [hm, hbreaks]

theorem opening_mem_iff : .opening ∈ m.markers ctx ↔ m.IsBullet ∧ m.before.list = .outside := by
  rcases h.list_cases with ⟨hbullet, -, -, hm⟩ | ⟨hbullet, -, -, hm⟩ | ⟨hbullet, -, -, hm⟩
  · cases hlist : m.before.list <;> simp [hm, hbullet, hlist, Marker.ofBullet]
  · cases hlist : m.before.list <;> simp [hm, hbullet, hlist, Marker.ofBreak]
  · simp [hm, hbullet]

theorem item_mem_iff : .item ∈ m.markers ctx ↔ m.IsBullet := by
  rcases h.list_cases with ⟨hbullet, -, -, hm⟩ | ⟨hbullet, -, -, hm⟩ | ⟨hbullet, -, -, hm⟩
  · cases hlist : m.before.list <;> simp [hm, hbullet, hlist, Marker.ofBullet]
  · cases hlist : m.before.list <;> simp [hm, hbullet, hlist, Marker.ofBreak]
  · simp [hm, hbullet]

/-- A list is open behind a bullet, and stays open up to a break. -/
theorem after_eq_inside_iff :
    m.after.list = .inside ↔ m.IsBullet ∨ (m.before.list = .inside ∧ ¬ m.Breaks) := by
  rcases h.list_cases with ⟨hbullet, hbreaks, hlist, -⟩ | ⟨hbullet, hbreaks, hlist, -⟩ |
    ⟨hbullet, hbreaks, hlist, -⟩
  · simp [hlist, hbullet]
  · simp [hlist, hbullet, hbreaks]
  · simp [hlist, hbullet, hbreaks]

theorem after_eq_outside_iff : m.after.list = .outside ↔
    .closing ∈ m.markers ctx ∨ (m.before.list = .outside ∧ ¬ m.IsBullet) := by
  rw [h.closing_mem_iff]
  rcases h.list_cases with ⟨hbullet, hbreaks, hlist, -⟩ | ⟨hbullet, hbreaks, hlist, -⟩ |
    ⟨hbullet, hbreaks, hlist, -⟩
  · simp [hlist, hbullet, hbreaks]
  · cases hbefore : m.before.list <;> simp [hlist, hbullet, hbreaks]
  · simp [hlist, hbullet, hbreaks]

theorem isNestedFrom_append {markers : List Marker}
    (hmarkers : Marker.IsNestedFrom m.after.list markers) :
    Marker.IsNestedFrom m.before.list (m.markers ctx ++ markers) := by
  rcases h.list_cases with ⟨-, -, hlist, hm⟩ | ⟨-, -, hlist, hm⟩ | ⟨-, -, hlist, hm⟩
  · rw [hlist] at hmarkers
    rw [hm]
    cases m.before.list with
    | outside => exact hmarkers
    | inside => exact Marker.IsNested.more hmarkers
  · rw [hlist] at hmarkers
    rw [hm]
    cases m.before.list with
    | outside => exact hmarkers
    | inside => exact .closed 0 hmarkers
  · rw [hlist] at hmarkers
    rw [hm]
    exact hmarkers

end IsTurn

end Move

namespace Runs

open Move (Since)

variable {text : List Char} {ctx : Context} {s : Cursor} {m : Move}
  {moves front back : List Move} {result : Converted}

theorem isNestedFrom (h : Runs ctx text s moves result) (hs : s.IsWithin text) :
    Marker.IsNestedFrom s.list (moves.flatMap (Move.markers ctx)) := by
  induction h with
  | @ended s =>
    cases s.list with
    | outside => exact .none
    | inside => exact .unclosed 0
  | moved h _ ih =>
    obtain ⟨rfl, hm⟩ := Cursor.isTurn_of_step hs h
    exact hm.isNestedFrom_append (ih hm.after_isWithin.1)

/-- What a list is in front of a move depends on the moves in front: on one that brings it about, or
where the scan began, and that none behind it ends it. -/
theorem list_eq_iff {state : ListState} {p q : Move → Prop}
    (hstep : ∀ x, x.IsTurn ctx text →
      (x.after.list = state ↔ p x ∨ (x.before.list = state ∧ ¬ q x)))
    (h : Runs ctx text s (front ++ m :: back) result) (hs : s.IsWithin text) :
    m.before.list = state ↔ (s.list = state ∧ ∀ x ∈ front, ¬ q x) ∨ Since p q front := by
  induction front generalizing s with
  | nil =>
    cases h with
    | moved h =>
      obtain ⟨rfl, -⟩ := Cursor.isTurn_of_step hs h
      refine ⟨fun hlist => .inl ⟨hlist, fun _ hx => absurd hx List.not_mem_nil⟩, ?_⟩
      rintro (⟨hlist, -⟩ | ⟨front, x, back, hmoves, -⟩)
      · exact hlist
      · exact absurd hmoves.symm (by simp)
  | cons x front ih =>
    cases h with
    | moved h hrun =>
      obtain ⟨rfl, hx⟩ := Cursor.isTurn_of_step hs h
      rw [ih hrun hx.after_isWithin.1, hstep x hx, Move.since_cons, List.forall_mem_cons,
        or_and_right, and_assoc, or_comm (a := p x ∧ _), or_assoc]

theorem behind (h : Runs ctx text s (front ++ m :: back) result) :
    Runs ctx text m.after back result := by
  induction front generalizing s with
  | nil =>
    cases h with
    | moved _ hrun => exact hrun
  | cons x front ih =>
    cases h with
    | moved _ hrun => exact ih hrun

theorem before_eq_of_mem_head? (h : Runs ctx text s moves result) (hs : s.IsWithin text) :
    ∀ x ∈ moves.head?, x.before = s := by
  cases h with
  | ended => exact fun x hx => absurd hx (by simp)
  | moved h =>
    rintro _ ⟨⟩
    exact (Cursor.isTurn_of_step hs h).1

end Runs

/-- The lists in the output are nested, and the moves of the scan say where they open and close. -/
theorem listMarkers_of_convert (ctx : Context) (text : String) :
    ∃ moves : List Move, (∀ moves' result, Runs ctx text.toList .initial moves' result ↔
        moves' = moves ∧ result = convert ctx text) ∧
      Marker.IsNested (moves.flatMap (Move.markers ctx)) ∧
      (∀ m ∈ moves.head?, m.before.list = .outside) ∧
      ∀ (front back : List Move) (m : Move), moves = front ++ m :: back →
        (.closing ∈ m.markers ctx ↔ m.Breaks ∧ Move.Since Move.IsBullet Move.Breaks front) ∧
        (.opening ∈ m.markers ctx ↔ m.IsBullet ∧ ((∀ x ∈ front, ¬ x.IsBullet) ∨
          Move.Since (fun x => .closing ∈ x.markers ctx) Move.IsBullet front)) ∧
        (.item ∈ m.markers ctx ↔ m.IsBullet) ∧
        (¬ m.IsBullet → ¬ m.Breaks → m.after.list = m.before.list ∧ m.markers ctx = []) ∧
        ∀ x ∈ back.head?, x.before = m.after := by
  obtain ⟨moves, hmoves⟩ := exists_runs_convert ctx text
  have hrun := (hmoves moves _).2 ⟨rfl, rfl⟩
  have hinitial := Cursor.isWithin_initial text.toList
  refine ⟨moves, hmoves, hrun.isNestedFrom hinitial, fun m hm => ?_,
    fun front back m hsplit => ?_⟩
  · rw [hrun.before_eq_of_mem_head? hinitial m hm]
    rfl
  · subst hsplit
    have hm := hrun.isTurn hinitial m (List.mem_append_right _ List.mem_cons_self)
    have hinside := hrun.list_eq_iff (fun _ hx => hx.after_eq_inside_iff) hinitial
    have houtside := hrun.list_eq_iff (fun _ hx => hx.after_eq_outside_iff) hinitial
    refine ⟨?_, ?_, hm.item_mem_iff, hm.of_other, ?_⟩
    · rw [hm.closing_mem_iff, hinside]
      simp [Cursor.initial]
    · rw [hm.opening_mem_iff, houtside]
      simp [Cursor.initial]
    · exact hrun.behind.before_eq_of_mem_head? hm.after_isWithin.1

end GirBind.Doc
