import GirBind.Proofs.Doc.Scan

namespace GirBind.Doc

open Text (isBlank)

variable {text cs : List Char} {ctx : Context}

/-- A fence, a bullet, or the number signs of a header. -/
def AnnouncesBlock (cs : List Char) : Prop :=
  ['\x60', '\x60', '\x60'] <+: cs ∨
  (∃ blank, isBlank blank = true ∧ ['-', blank] <+: cs) ∨
  ∃ level blank, 1 ≤ level ∧ level ≤ 6 ∧ isBlank blank = true ∧
    .replicate level '#' ++ [blank] <+: cs

theorem startsBlock_header (level : Nat) {blank : Char} (hblank : isBlank blank = true)
    (rest : List Char) : startsBlock (.replicate (level + 1) '#' ++ blank :: rest) =
      decide (level < 6) := by
  have hsign : (blank == '#') = false := by
    apply beq_false_of_ne
    rintro rfl
    exact absurd hblank (by decide +kernel)
  have hlevel : (List.replicate level '#' ++ blank :: rest).takeWhile (· == '#') =
      .replicate level '#' :=
    Text.takeWhile_stop (fun c hc => beq_iff_eq.2 (List.eq_of_mem_replicate hc)) hsign rest
  rw [List.replicate_succ, List.cons_append, startsBlock, hlevel, List.length_replicate,
    List.drop_left' List.length_replicate, List.head?_cons, Option.map_some, Option.getD_some,
    hblank, Bool.and_true]

theorem startsBlock_iff : startsBlock cs = true ↔ AnnouncesBlock cs := by
  constructor
  · intro h
    unfold startsBlock at h
    split at h
    case h_1 c rest => exact .inr (.inl ⟨c, h, rest, rfl⟩)
    case h_2 rest =>
      rw [Bool.and_eq_true, decide_eq_true_iff] at h
      obtain ⟨hlevel, hblank⟩ := h
      rw [Text.drop_length_takeWhile] at hblank
      have hrest := List.takeWhile_append_dropWhile (p := (· == '#')) (l := rest)
      cases hdrop : rest.dropWhile (· == '#') with
      | nil =>
        rw [hdrop] at hblank
        cases hblank
      | cons blank more =>
        rw [hdrop] at hblank hrest
        refine .inr (.inr ⟨(rest.takeWhile (· == '#')).length + 1, blank, Nat.succ_pos _, hlevel,
          hblank, more, ?_⟩)
        rw [List.replicate_succ, ← takeWhile_eq_replicate, List.append_assoc, List.cons_append,
          List.singleton_append, hrest]
    case h_3 => exact .inl (List.isPrefixOf_iff_prefix.1 h)
  · rintro (⟨rest, rfl⟩ | ⟨blank, hblank, rest, rfl⟩ |
      ⟨level, blank, hpos, hsix, hblank, rest, rfl⟩)
    · rfl
    · exact hblank
    · obtain ⟨level, rfl⟩ := Nat.exists_eq_add_of_le' hpos
      rw [List.append_assoc, List.singleton_append, startsBlock_header level hblank,
        decide_eq_true_iff]
      exact hsix

section

variable {t : Token} (ht : t.IsAt text) (hbreak : t.item = .paragraph)
include ht hbreak

theorem Token.IsAt.head?_ne_break : (text.drop t.stop).head? ≠ some '\n' := by
  have hstop : t.start + (t.stop - t.start) = t.stop :=
    Nat.add_sub_cancel' (Nat.le_of_lt ht.start_lt)
  rcases Option.or_eq_some_iff.1 ht.found with hmarked | ⟨-, hbreaks⟩
  · exact absurd hbreak (ne_paragraph_of_marked? hmarked)
  · rw [breaks?] at hbreaks
    split at hbreaks
    case isTrue => cases hbreaks
    case isFalse =>
      have hlength := (Prod.mk.inj (Option.some.inj hbreaks)).2
      have hrest : text.drop t.stop = (text.drop t.start).dropWhile (· == '\n') := by
        rw [← hstop, ← List.drop_drop, ← hlength, Text.drop_length_takeWhile]
      intro hhead
      have hnot := List.head?_dropWhile_not (· == '\n') (text.drop t.start)
      rw [← hrest, hhead] at hnot
      cases hnot

theorem Token.IsAt.drop_break : ∃ place, t.stop = place + 2 ∧ t.start ≤ place ∧
    text.drop place = '\n' :: '\n' :: text.drop t.stop := by
  have hsource := ht.source
  have hlt := ht.start_lt
  rw [hbreak] at hsource
  obtain ⟨breaks, htwo, hbetween⟩ := hsource
  obtain ⟨breaks, rfl⟩ := Nat.exists_eq_add_of_le' htwo
  have hlength := congrArg List.length hbetween
  rw [between, List.length_take, List.length_drop, List.length_replicate] at hlength
  have hle := ht.stop_le
  refine ⟨t.start + breaks, by omega, Nat.le_add_right _ _, ?_⟩
  rw [← List.drop_drop, drop_eq_between_append (Nat.le_of_lt hlt), hbetween,
    ← List.replicate_append_replicate, List.append_assoc,
    List.drop_left' List.length_replicate]
  rfl

end

theorem token?_break {c : Char} (lineStart : Bool) (hblank : isBlank c = false) (h : c ≠ '-')
    (cs : List Char) : token? lineStart ('\n' :: c :: cs) = none := by
  have hbullet : bullet? ('\n' :: c :: cs) = none := by
    rw [bullet?_blank (by decide +kernel), bullet?_of_ne hblank h, Option.map_none]
  have hc : c ≠ '\n' := by
    rintro rfl
    exact absurd hblank (by decide +kernel)
  have hbreaks : ('\n' :: c :: cs).takeWhile (· == '\n') = ['\n'] := by
    rw [List.takeWhile_cons_of_pos rfl, List.takeWhile_cons, beq_false_of_ne hc,
      if_neg Bool.false_ne_true]
  rw [token?, marked?_break, hbullet, ite_self, breaks?, hbreaks]
  rfl

theorem token?_bullet {blank : Char} (hblank : isBlank blank = true) (rest : List Char) :
    token? true ('-' :: blank :: rest) = some (.bullet, 2) := by
  rw [token?, marked?_eq_lineItem? fun hmem => absurd hmem (by decide), lineItem?, if_pos rfl,
    header?_of_ne (by decide), Option.none_or, bullet?_dash hblank, Option.some_or]

theorem token?_break_bullet {blank : Char} (hblank : isBlank blank = true) (rest : List Char) :
    token? true ('\n' :: '-' :: blank :: rest) = some (.bullet, 3) := by
  rw [token?, marked?_break, if_pos rfl, bullet?_blank (by decide +kernel), bullet?_dash hblank,
    Option.map_some, Option.some_or]

theorem searchFrom_break {i : Item} {n : Nat} (place : Nat) (h : AnnouncesBlock cs)
    (hitem : token? true cs = some (i, n)) :
    ∃ start, place ≤ start ∧ start ≤ place + 1 ∧
      searchFrom true place ('\n' :: cs) = some ⟨i, start, place + 1 + n⟩ := by
  have hopening (c : Char) (hc : c ∈ ['\x60', '#']) (rest : List Char) (hcs : cs = c :: rest) :
      searchFrom true place ('\n' :: cs) = some ⟨i, place + 1, place + 1 + n⟩ := by
    obtain ⟨hblank, hne⟩ : isBlank c = false ∧ c ≠ '-' := by
      simp only [List.mem_cons, List.not_mem_nil, or_false] at hc
      rcases hc with rfl | rfl
      · decide +kernel
      · decide +kernel
    subst hcs
    rw [searchFrom, token?_break true hblank hne]
    dsimp only
    rw [searchFrom, beq_self_eq_true, hitem]
  rcases h with ⟨rest, rfl⟩ | ⟨blank, hblank, rest, rfl⟩ | ⟨level, blank, hpos, -, -, rest, rfl⟩
  · exact ⟨place + 1, Nat.le_succ _, Nat.le_refl _, hopening _ (by decide) _ rfl⟩
  · rw [List.cons_append, List.singleton_append] at hitem ⊢
    rw [token?_bullet hblank] at hitem
    cases hitem
    refine ⟨place, Nat.le_refl _, Nat.le_succ _, ?_⟩
    rw [searchFrom, token?_break_bullet hblank]
  · obtain ⟨level, rfl⟩ := Nat.exists_eq_add_of_le' hpos
    exact ⟨place + 1, Nat.le_succ _, Nat.le_refl _, hopening '#' (by decide) _ rfl⟩

/-- What becomes of a break between paragraphs. -/
structure Move.IsBreak (text : List Char) (m : Move) : Prop where
  /-- It takes all line breaks. -/
  ends : (text.drop m.token.stop).head? ≠ some '\n'
  plain : ¬ AnnouncesBlock (text.drop m.token.stop) → m.stop = some m.token.stop
  /-- In front of a block, it is not taken if it is two line breaks. -/
  two : AnnouncesBlock (text.drop m.token.stop) → m.token.stop = m.token.start + 2 → m.stop = none
  /-- In front of a block, the last of more line breaks is not replaced. -/
  more : AnnouncesBlock (text.drop m.token.stop) → m.token.start + 3 ≤ m.token.stop →
    m.stop = some (m.token.stop - 1)
  /-- The search for the block goes on at the last line break, which is not in the output yet. -/
  resumes : AnnouncesBlock (text.drop m.token.stop) →
    m.after.copied ≤ m.after.searched ∧ m.after.searched + 1 = m.token.stop ∧
      text[m.after.searched]? = some '\n'
  /-- If the block is an item at the start of a line, it is the next token. -/
  next : AnnouncesBlock (text.drop m.token.stop) →
    ∀ i n, token? true (text.drop m.token.stop) = some (i, n) →
      ∃ start, m.after.searched ≤ start ∧ start ≤ m.token.stop ∧
        search text m.after.searched = some ⟨i, start, m.token.stop + n⟩

namespace Move.IsTurn

variable {m : Move} (h : m.IsTurn ctx text) (hbreak : m.token.item = .paragraph)
include h hbreak

section

variable (hblock : AnnouncesBlock (text.drop m.token.stop))
include hblock

theorem stop_eq_of_block :
    m.stop = if m.token.stop - m.token.start < 3 then none else some (m.token.stop - 1) := by
  rw [h.stop_eq, Token.stop?, if_pos ⟨hbreak, startsBlock_iff.2 hblock⟩]

/-- Taken or not, a break leaves the last line break to the block. -/
theorem after_searched_of_block : m.after.searched + 1 = m.token.stop := by
  have hstop := h.stop_eq_of_block hbreak hblock
  obtain ⟨place, htwo, hstart, -⟩ := h.isAt.drop_break hbreak
  split at hstop
  case isTrue =>
    rw [h.after_eq_retry hstop]
    dsimp only
    omega
  case isFalse =>
    rw [h.after_eq_replace hstop]
    dsimp only [Cursor.replace]
    omega

end

theorem isBreak : m.IsBreak text := by
  obtain ⟨place, hstop, -, hdrop⟩ := h.isAt.drop_break hbreak
  have hlast : text.drop (place + 1) = '\n' :: text.drop m.token.stop := drop_succ_of_drop hdrop
  have hline : startsLine text (place + 1) = true := startsLine_succ hdrop
  have hget : text[place + 1]? = some '\n' := by
    rw [← Nat.add_zero (place + 1), ← List.getElem?_drop, hlast]
    rfl
  have hresumes (hblock : AnnouncesBlock (text.drop m.token.stop)) :
      m.after.searched = place + 1 := by
    have := h.after_searched_of_block hbreak hblock
    omega
  refine ⟨h.isAt.head?_ne_break hbreak, ?_, ?_, ?_, ?_, ?_⟩
  · intro hblock
    rw [h.stop_eq, Token.stop?, if_neg fun hstarts => hblock (startsBlock_iff.1 hstarts.2)]
  · intro hblock htwo
    rw [h.stop_eq_of_block hbreak hblock, if_pos (by omega)]
  · intro hblock hthree
    rw [h.stop_eq_of_block hbreak hblock, if_neg (by omega)]
  · intro hblock
    have hcopied := h.after_isWithin.1.copied_le
    rw [hresumes hblock] at hcopied ⊢
    exact ⟨hcopied, hstop.symm, hget⟩
  · intro hblock i n hitem
    obtain ⟨start, hle, hge, hsearch⟩ := searchFrom_break (place + 1) hblock hitem
    rw [hresumes hblock, search, hlast, hline, hsearch, hstop]
    exact ⟨start, hle, hge, rfl⟩

end Move.IsTurn

end GirBind.Doc
