import GirBind.Doc.Recognize
import GirBind.Proofs.Doc.ItemSource

namespace GirBind.Doc

open Text (isWord isBlank)

variable {c : Char} {cs t rest : List Char} {lineStart : Bool}

def isPlain (c : Char) : Bool := isWord c || [' ', ',', '.'].contains c

theorem starts_bullet? {i : Item} {n : Nat} (h : bullet? cs = some (i, n)) :
    Starts cs .bullet n := by
  have hstarts := isFaithful_bullet? cs i n h
  rw [bullet?] at h
  split at h
  case h_1 =>
    split at h
    case isTrue =>
      cases h
      exact hstarts
    case isFalse => cases h
  case h_2 => cases h

theorem paragraph?_of_head? (h : cs.head? ≠ some '\n') : paragraph? (c :: cs) = none := by
  have htake : cs.takeWhile (· == '\n') = [] := by
    cases cs with
    | nil => rfl
    | cons d cs =>
      have hd : (d == '\n') = false := beq_false_of_ne fun hd => h (congrArg some hd)
      rw [List.takeWhile_cons, hd, if_neg Bool.false_ne_true]
  by_cases hc : c = '\n'
  · have hbreaks : (c :: cs).takeWhile (· == '\n') = [c] := by
      rw [hc, List.takeWhile_cons_of_pos rfl, htake]
    rw [paragraph?, hbreaks]
    rfl
  · exact paragraph?_of_ne hc cs

/-- The characters that markup inside a line starts with. A bar or an exclamation mark starts none
without the bracket behind it. -/
def markup : List Char := ['\x60', '[', '%', '#', '@', '*', '<']

/-- Text without markup. A bullet is markup at the start of a line only. -/
structure IsPlainText (lineStart : Bool) (t : List Char) : Prop where
  signs : ∀ c ∈ t, c ∉ markup
  breaks : ¬ ['\n', '\n'] <:+: t
  bullets : ∀ front line, t = front ++ line →
    front.getLast? = some '\n' ∨ (front = [] ∧ lineStart = true) →
      ∀ n, ¬ Starts line .bullet n

namespace IsPlainText

theorem tail (h : IsPlainText lineStart (c :: t)) : IsPlainText (c == '\n') t := by
  refine ⟨fun d hd => h.signs d (List.mem_cons_of_mem c hd), fun hbreaks => ?_, ?_⟩
  · exact h.breaks (List.infix_cons hbreaks)
  · intro front line ht hline
    refine h.bullets (c :: front) line (congrArg (c :: ·) ht) (.inl ?_)
    rcases hline with hlast | ⟨rfl, hbreak⟩
    · rw [List.getLast?_cons, hlast]
      rfl
    · rw [beq_iff_eq.1 hbreak]
      rfl

theorem of_isPlain (h : ∀ c ∈ t, isPlain c = true) : IsPlainText lineStart t := by
  have hother (d : Char) (hd : isPlain d = false) : d ∉ t := fun hmem =>
    Bool.false_ne_true (hd.symm.trans (h d hmem))
  refine ⟨fun c hc hsign => ?_, fun hbreaks => ?_, ?_⟩
  · have hmarkup : markup.all (!isPlain ·) = true := by decide +kernel
    have hplain := List.all_eq_true.1 hmarkup c hsign
    rw [h c hc] at hplain
    cases hplain
  · exact hother '\n' (by decide +kernel) (hbreaks.subset List.mem_cons_self)
  · rintro front line rfl - n ⟨source, more, rfl, -, blanks, blank, -, -, rfl⟩
    exact hother '-' (by decide +kernel) (by simp)

theorem bullet?_append (h : IsPlainText true t)
    (hrest : ∀ c ∈ rest.head?, isBlank c = false ∧ c ≠ '-') : bullet? (t ++ rest) = none := by
  rw [Option.eq_none_iff_forall_ne_some]
  rintro ⟨i, n⟩ hfound
  have hplain := h.bullets [] t rfl (.inr ⟨rfl, rfl⟩)
  obtain ⟨source, more, happend, -, hsource⟩ := starts_bullet? hfound
  rcases List.append_eq_append_iff.1 happend with ⟨beyond, rfl, rfl⟩ | ⟨behind, rfl, -⟩
  · cases beyond with
    | nil => exact hplain _ ⟨t, [], (List.append_nil t).symm, rfl, (List.append_nil t) ▸ hsource⟩
    | cons d beyond =>
      obtain ⟨blanks, blank, hblanks, hblank, hwritten⟩ := hsource
      obtain ⟨hd, hdash⟩ := hrest d rfl
      have hmem : d ∈ blanks ++ ['-', blank] :=
        hwritten ▸ List.mem_append_right _ List.mem_cons_self
      simp only [List.mem_append, List.mem_cons, List.not_mem_nil, or_false] at hmem
      rcases hmem with hmem | rfl | rfl
      · exact Bool.false_ne_true (hd.symm.trans (hblanks d hmem))
      · exact hdash rfl
      · exact Bool.false_ne_true (hd.symm.trans hblank)
  · exact hplain _ ⟨source, behind, rfl, rfl, hsource⟩

theorem item?_append (h : IsPlainText lineStart (c :: t))
    (hrest : ∀ c ∈ rest.head?, isBlank c = false ∧ c ≠ '-')
    (hbracket : rest.head? = some '[' → ∀ d ∈ (c :: t).getLast?, d ∉ ['|', '!']) :
    item? lineStart (c :: (t ++ rest)) = none := by
  have hc := h.signs c List.mem_cons_self
  have hhead (hmem : c ∈ ['|', '!']) : (t ++ rest).head? ≠ some '[' := by
    cases t with
    | nil => exact fun hhead => hbracket hhead c rfl hmem
    | cons d t =>
      intro hhead
      obtain rfl : d = '[' := Option.some.inj hhead
      exact h.signs '[' (List.mem_cons_of_mem _ List.mem_cons_self) (by decide)
  have hsigns : Doc.signs ⊆ markup ++ ['\n', '|', '!'] := by decide
  have hsign (hmem : c ∈ Doc.signs) : c = '\n' ∨ c ∈ ['|', '!'] ∧ (t ++ rest).head? ≠ some '[' := by
    rcases List.mem_append.1 (hsigns hmem) with hmarkup | hother
    · exact absurd hmarkup hc
    · exact (List.mem_cons.1 hother).imp_right fun hmem => ⟨hmem, hhead hmem⟩
  have hline : lineItem? lineStart (c :: (t ++ rest)) = none := by
    cases lineStart with
    | false => rfl
    | true =>
      have hheader : c ≠ '#' := by
        rintro rfl
        exact hc (by decide)
      rw [lineItem?, if_pos rfl, header?_of_ne hheader, Option.none_or, ← List.cons_append]
      exact h.bullet?_append hrest
  rw [item?_eq_or, marked?_eq_lineItem? hsign, hline, Option.none_or]
  by_cases hbreak : c = '\n'
  · refine paragraph?_of_head? fun hhead => ?_
    cases t with
    | nil => exact absurd (hrest _ hhead).1 (by decide +kernel)
    | cons d t =>
      obtain rfl : d = '\n' := Option.some.inj hhead
      exact h.breaks ⟨[], t, by rw [hbreak]; rfl⟩
  · exact paragraph?_of_ne hbreak _

/-- Plain text stands for itself, if nothing that begins in it goes on in the text behind. -/
theorem ofText_append (h : IsPlainText lineStart t) (rest : List Char)
    (hrest : ∀ c ∈ rest.head?, isBlank c = false ∧ c ≠ '-')
    (hbracket : rest.head? = some '[' → ∀ d ∈ t.getLast?, d ∉ ['|', '!']) :
    ∃ restStart, Segment.ofText lineStart (t ++ rest) =
      t.map .plain ++ Segment.ofText restStart rest := by
  induction t generalizing lineStart with
  | nil => exact ⟨lineStart, rfl⟩
  | cons c t ih =>
    obtain ⟨restStart, hsegments⟩ := ih h.tail fun hhead d hd =>
      hbracket hhead d (by rw [List.getLast?_cons, hd]; rfl)
    refine ⟨restStart, ?_⟩
    rw [List.cons_append, Segment.ofText, h.item?_append hrest hbracket, hsegments]
    rfl

theorem ofText (h : IsPlainText lineStart t) : Segment.ofText lineStart t = t.map .plain := by
  obtain ⟨restStart, hsegments⟩ := h.ofText_append [] (fun _ hc => absurd hc (by simp))
    fun hhead => absurd hhead (by simp)
  rw [List.append_nil, Segment.ofText, List.append_nil] at hsegments
  exact hsegments

end IsPlainText

end GirBind.Doc
