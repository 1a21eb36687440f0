import GirBind.Doc.Javadoc
import GirBind.Proofs.Doc.Terminator

namespace GirBind.Doc

variable {c : Char} {cs a b : List Char}

/-- The text is one block comment with a margin of asterisks. -/
structure IsBlockComment (text : List Char) : Prop where
  opens : ['/', '*', '*'] <+: text
  closes : ['*', '/'] <:+ text
  /-- the terminator stands at the end only -/
  terminator : ∀ before behind, text = before ++ '*' :: '/' :: behind → behind = []
  /-- every line between the first and the last -/
  margin : ∀ line ∈ ((text.splitOn '\n').drop 1).dropLast, line = [] ∨ [' ', '*'] <+: line

theorem prefix_trimEndChars (hc : Text.isBlank c = false) (a b : List Char) :
    a ++ [c] <+: Text.trimEndChars (a ++ c :: b) := by
  rw [Text.trimEndChars, List.reverse_append, List.reverse_cons, List.append_assoc,
    List.dropWhile_append]
  split
  case isTrue =>
    refine ⟨[], ?_⟩
    rw [List.append_nil, List.singleton_append, List.dropWhile_cons, hc,
      if_neg Bool.false_ne_true, List.reverse_cons, List.reverse_reverse]
  case isFalse =>
    rw [List.reverse_append, List.singleton_append, List.reverse_cons, List.reverse_reverse]
    exact List.prefix_append _ _

namespace Entry

def tagChars : Option String → List Char
  | none => []
  | some tag => tag.toList ++ [' ']

theorem toList_commentLine (tag : Option String) (line : List Char) :
    (commentLine tag line).toList = Text.trimEndChars
      ([' ', '*'] ++ ' ' :: (tagChars tag ++ escapeBackslashes line)) := by
  cases tag with
  | none => exact String.toList_ofList
  | some tag =>
    have hstart : (s!" * {tag} ").toList = [' ', '*', ' '] ++ tag.toList ++ [' '] := by
      rw [String.toList_append, String.toList_append]
      rfl
    rw [show commentLine (some tag) line = .ofList (Text.trimEndChars
      ((s!" * {tag} ").toList ++ escapeBackslashes line)) from rfl, String.toList_ofList, hstart,
      tagChars, List.append_assoc, List.append_assoc, List.append_assoc]
    rfl

theorem prefix_commentLine (tag : Option String) (line : List Char) :
    [' ', '*'] <+: (commentLine tag line).toList := by
  rw [toList_commentLine]
  exact prefix_trimEndChars (by decide) [' '] _

theorem noTerminator_escapeBackslashes :
    NoTerminator (escapeBackslashes cs) ↔ NoTerminator cs := by
  refine NoTerminator.flatMap_iff fun c => ?_
  split
  case isTrue h =>
    subst h
    decide
  case isFalse => exact .singleton c

theorem noTerminator_commentLine {tag : Option String} (htag : ∀ t ∈ tag, NoTerminator t.toList)
    {line : List Char} : NoTerminator (commentLine tag line).toList ↔ NoTerminator line := by
  have hstart : NoTerminator [' ', '*'] := by decide
  rw [toList_commentLine, NoTerminator.trimEndChars_iff,
    NoTerminator.around_iff (by decide) (by decide), and_iff_right hstart]
  cases tag with
  | none => exact noTerminator_escapeBackslashes
  | some tag =>
    rw [tagChars, List.append_assoc, List.singleton_append,
      NoTerminator.around_iff (by decide) (by decide), and_iff_right (htag tag rfl),
      noTerminator_escapeBackslashes]

theorem not_mem_commentLine {tag : Option String} (htag : ∀ t ∈ tag, '\n' ∉ t.toList)
    {line : List Char} (hline : '\n' ∉ line) : '\n' ∉ (commentLine tag line).toList := by
  have hescape : '\n' ∉ escapeBackslashes line := by
    intro hmem
    obtain ⟨c, hc, hmem⟩ := List.mem_flatMap.1 hmem
    split at hmem
    case isTrue => exact absurd hmem (by decide)
    case isFalse => exact hline (List.mem_singleton.1 hmem ▸ hc)
  have htagChars : '\n' ∉ tagChars tag := by
    cases tag with
    | none => exact List.not_mem_nil
    | some tag =>
      rw [tagChars, List.mem_append, not_or]
      exact ⟨htag tag rfl, by decide⟩
  rw [toList_commentLine]
  intro hmem
  rw [Text.trimEndChars, List.mem_reverse] at hmem
  have hmem := List.mem_reverse.1 ((List.dropWhile_sublist _).subset hmem)
  simp only [List.mem_append, List.mem_cons, List.not_mem_nil, or_false] at hmem
  rcases hmem with (h | h) | h | h | h
  · exact absurd h (by decide)
  · exact absurd h (by decide)
  · exact absurd h (by decide)
  · exact htagChars h
  · exact hescape h

def TagFits (e : Entry) : Prop := ∀ tag ∈ e.tag, '\n' ∉ tag.toList ∧ NoTerminator tag.toList

theorem lines_cases (e : Entry) :
    e.lines = [] ∧ Text.lines (Text.trimChars e.body.text.toList) = [] ∨
    ∃ first rest, Text.lines (Text.trimChars e.body.text.toList) = first :: rest ∧
      e.lines = commentLine e.tag first :: rest.map (commentLine none) := by
  rw [lines]
  split
  case h_1 h => exact .inl ⟨rfl, h⟩
  case h_2 first rest h => exact .inr ⟨first, rest, h, rfl⟩

theorem mem_lines {e : Entry} {line : String} (h : line ∈ e.lines) :
    ∃ tag, (∀ t ∈ tag, t ∈ e.tag) ∧
      ∃ text ∈ Text.lines (Text.trimChars e.body.text.toList), line = commentLine tag text := by
  rcases e.lines_cases with ⟨hnil, -⟩ | ⟨first, rest, htext, hlines⟩
  · rw [hnil] at h
    exact absurd h List.not_mem_nil
  · rw [hlines, List.mem_cons, List.mem_map] at h
    rw [htext]
    rcases h with rfl | ⟨text, hmem, rfl⟩
    · exact ⟨e.tag, fun _ ht => ht, first, List.mem_cons_self, rfl⟩
    · exact ⟨none, fun _ ht => absurd ht (by simp), text, List.mem_cons_of_mem _ hmem, rfl⟩

theorem noTerminator_lines {e : Entry} (he : e.TagFits) :
    (∀ line ∈ e.lines, NoTerminator line.toList) ↔ NoTerminator e.body.text.toList := by
  have htrim : NoTerminator (Text.trimChars e.body.text.toList) ↔
      NoTerminator e.body.text.toList := NoTerminator.trimChars_iff
  rw [← htrim, ← NoTerminator.lines_iff]
  rcases e.lines_cases with ⟨hnil, htext⟩ | ⟨first, rest, htext, hlines⟩
  · rw [hnil, htext]
    exact iff_of_true (fun _ h => absurd h List.not_mem_nil) (fun _ h => absurd h List.not_mem_nil)
  · rw [hlines, htext, List.forall_mem_cons, List.forall_mem_cons, List.forall_mem_map,
      noTerminator_commentLine fun tag htag => (he tag htag).2]
    refine and_congr_right fun _ => forall₂_congr fun line _ => ?_
    exact noTerminator_commentLine fun _ h => absurd h (by simp)

end Entry

theorem noTerminator_intercalate {ls : List (List Char)} :
    NoTerminator (['\n'].intercalate ls) ↔ ∀ l ∈ ls, NoTerminator l := by
  induction ls with
  | nil => exact iff_of_true .nil fun _ h => absurd h List.not_mem_nil
  | cons l ls ih =>
    cases ls with
    | nil =>
      rw [List.forall_mem_singleton, List.intercalate_singleton]
    | cons l' ls =>
      rw [List.intercalate_cons_cons, List.append_assoc, List.singleton_append,
        NoTerminator.around_iff (by decide) (by decide), ih, List.forall_mem_cons (a := l)]

theorem intercalate_concat {ls : List (List Char)} (hne : ls ≠ []) (l : List Char) :
    ['\n'].intercalate (ls ++ [l]) = ['\n'].intercalate ls ++ '\n' :: l := by
  induction ls with
  | nil => exact absurd rfl hne
  | cons k ls ih =>
    cases ls with
    | nil => rw [List.singleton_append, List.intercalate_cons_cons, List.intercalate_singleton,
        List.intercalate_singleton, List.append_assoc, List.singleton_append]
    | cons k' ls =>
      rw [List.cons_append, List.cons_append, List.intercalate_cons_cons, ← List.cons_append,
        ih (List.cons_ne_nil _ _), List.intercalate_cons_cons]
      simp only [List.append_assoc]

def framed (body : List (List Char)) : List Char :=
  ['\n'].intercalate (['/', '*', '*'] :: (body ++ [[' ', '*', '/']]))

theorem framed_eq (body : List (List Char)) : framed body =
    ['\n'].intercalate (['/', '*', '*'] :: body) ++ ['\n', ' ', '*', '/'] := by
  rw [framed, ← List.cons_append, intercalate_concat (List.cons_ne_nil _ _)]

theorem opens_framed (body : List (List Char)) : ['/', '*', '*'] <+: framed body := by
  rw [framed, List.intercalate_cons_of_ne_nil (List.append_ne_nil_of_right_ne_nil _ (by decide)),
    List.append_assoc]
  exact List.prefix_append _ _

theorem closes_framed (body : List (List Char)) : ['*', '/'] <:+ framed body := by
  rw [framed_eq]
  exact ⟨['\n'].intercalate (['/', '*', '*'] :: body) ++ ['\n', ' '], by
    rw [List.append_assoc]
    rfl⟩

theorem lines_framed {body : List (List Char)} (hbody : ∀ l ∈ body, '\n' ∉ l) :
    (((framed body).splitOn '\n').drop 1).dropLast = body := by
  rw [framed, List.splitOn_intercalate '\n' _ (List.cons_ne_nil _ _), List.drop_one,
    List.tail_cons, List.dropLast_concat]
  intro l hl
  rw [List.mem_cons, List.mem_append, List.mem_singleton] at hl
  rcases hl with rfl | hl | rfl
  · decide
  · exact hbody l hl
  · decide

theorem isBlockComment_framed {body : List (List Char)} (hbreak : ∀ l ∈ body, '\n' ∉ l)
    (hmargin : ∀ l ∈ body, l = [] ∨ [' ', '*'] <+: l) :
    IsBlockComment (framed body) ↔ ∀ l ∈ body, NoTerminator l := by
  have hopen : NoTerminator (['\n'].intercalate (['/', '*', '*'] :: body)) ↔
      ∀ l ∈ body, NoTerminator l := by
    rw [noTerminator_intercalate, List.forall_mem_cons, and_iff_right (by decide)]
  rw [← hopen]
  constructor
  · intro h
    rw [NoTerminator.iff_forall]
    intro before behind hsplit
    have hend := h.terminator before (behind ++ ['\n', ' ', '*', '/']) (by
      rw [framed_eq, hsplit, List.append_assoc]
      rfl)
    exact absurd hend (List.append_ne_nil_of_right_ne_nil _ (by decide))
  · intro h
    refine ⟨opens_framed body, closes_framed body, ?_, ?_⟩
    · intro before behind hsplit
      rcases List.eq_nil_or_concat behind with rfl | ⟨init, last, rfl⟩
      · rfl
      · -- without its last character the comment has no terminator at all
        have hlong : NoTerminator
            (['\n'].intercalate (['/', '*', '*'] :: body) ++ '\n' :: [' ', '*']) :=
          (NoTerminator.around_iff (by decide) (by decide)).2 ⟨h, by decide⟩
        have hshort : ['\n'].intercalate (['/', '*', '*'] :: body) ++ '\n' :: [' ', '*'] ++ ['/'] =
            (before ++ '*' :: '/' :: init) ++ [last] := by
          rw [framed_eq] at hsplit
          simpa only [List.concat_eq_append, List.append_assoc, List.cons_append, List.nil_append]
            using hsplit
        exact absurd (List.append_inj_left' hshort rfl) (NoTerminator.iff_forall.1 hlong _ _)
    · rw [lines_framed hbreak]
      exact hmargin

def bodyLines (entries : List Entry) : List (List Char) :=
  match entries.flatMap Entry.lines with
  | [] => [[]]
  | line :: lines => (line :: lines).map String.toList

theorem toList_comment (entries : List Entry) :
    (comment entries).text.toList = framed (bodyLines entries) := by
  have hbody : bodyLines entries ≠ [] := by
    rw [bodyLines]
    split
    case h_1 => exact List.cons_ne_nil _ _
    case h_2 => exact List.cons_ne_nil _ _
  have hlines : ("\n".intercalate (entries.flatMap Entry.lines)).toList =
      ['\n'].intercalate (bodyLines entries) := by
    rw [String.toList_intercalate, bodyLines]
    split
    case h_1 h => rw [h]; rfl
    case h_2 h => rw [h]; rfl
  rw [framed_eq, List.intercalate_cons_of_ne_nil hbody, ← hlines, comment, String.toList_append,
    String.toList_append]
  rfl

theorem forall_mem_bodyLines {entries : List Entry} {P : List Char → Prop} (hnil : P []) :
    (∀ l ∈ bodyLines entries, P l) ↔ ∀ e ∈ entries, ∀ line ∈ e.lines, P line.toList := by
  have hflat : (∀ l ∈ bodyLines entries, P l) ↔
      ∀ line ∈ entries.flatMap Entry.lines, P line.toList := by
    rw [bodyLines]
    split
    case h_1 h =>
      rw [h, List.forall_mem_singleton]
      exact iff_of_true hnil fun _ h => absurd h List.not_mem_nil
    case h_2 h => rw [h, List.forall_mem_map]
  rw [hflat, List.forall_mem_flatMap]

/-- A comment is well-formed exactly if no piece has a terminator, whatever else is in it. -/
theorem isBlockComment_iff {entries : List Entry} (h : ∀ e ∈ entries, e.TagFits) :
    IsBlockComment (comment entries).text.toList ↔
      ∀ e ∈ entries, NoTerminator e.body.text.toList := by
  have hbreak : ∀ l ∈ bodyLines entries, '\n' ∉ l := by
    rw [forall_mem_bodyLines List.not_mem_nil]
    intro e he line hline
    obtain ⟨tag, htag, text, htext, rfl⟩ := Entry.mem_lines hline
    exact Entry.not_mem_commentLine (fun t ht => (h e he t (htag t ht)).1)
      (Text.not_mem_lines text htext)
  have hmargin : ∀ l ∈ bodyLines entries, l = [] ∨ [' ', '*'] <+: l := by
    rw [forall_mem_bodyLines (.inl rfl)]
    intro e _ line hline
    obtain ⟨tag, -, text, -, rfl⟩ := Entry.mem_lines hline
    exact .inr (Entry.prefix_commentLine tag text)
  rw [toList_comment, isBlockComment_framed hbreak hmargin, forall_mem_bodyLines .nil]
  exact forall₂_congr fun e he => Entry.noTerminator_lines (h e he)

end GirBind.Doc
