import GirBind.Proofs.Doc.ItemSource

namespace GirBind

theorem Text.trimChars_infix (cs : List Char) : trimChars cs <:+: cs := by
  have hprefix : trimChars cs <+: cs.dropWhile isBlank := by
    rw [trimChars, ← List.reverse_suffix, List.reverse_reverse]
    exact List.dropWhile_suffix _
  exact hprefix.isInfix.trans (List.dropWhile_suffix _).isInfix

namespace Doc

variable {cs : List Char} {i : Item} {n : Nat}

/-- The parts of an item that its Javadoc form can show. -/
def Item.texts : Item → List (List Char)
  | codeBlock text | code text | identifier text | nativeType text | parameter text | strong text
  | tag text | header _ text => [text.toList]
  | link _ path =>
    path.text.toList :: (path.part2.toList ++ path.part3.toList).map String.toList
  | hyperlink description url | image description url => [description.toList, url.toList]
  | bullet | paragraph => []

theorem infix_frame (a text b : List Char) : text <:+: a ++ (text ++ b) :=
  ⟨a, b, List.append_assoc a text b⟩

theorem Item.HasSource.texts_infix (h : i.HasSource cs) : ∀ text ∈ i.texts, text <:+: cs := by
  cases i with
  | codeBlock text =>
    rw [texts, List.forall_mem_singleton]
    rcases h.2 with rfl | rfl
    · exact infix_frame _ _ _
    · exact infix_frame _ _ _
  | code text =>
    obtain ⟨-, rfl⟩ := h
    exact List.forall_mem_singleton.2 (infix_frame ['\x60'] _ _)
  | strong text =>
    obtain ⟨-, rfl⟩ := h
    exact List.forall_mem_singleton.2 (infix_frame ['*'] _ _)
  | tag text =>
    obtain ⟨-, rfl⟩ := h
    exact List.forall_mem_singleton.2 (infix_frame ['<'] _ _)
  | identifier name | nativeType name | parameter name =>
    obtain ⟨-, rfl⟩ := h
    exact List.forall_mem_singleton.2 (List.suffix_cons _ _).isInfix
  | link kind path =>
    obtain ⟨-, rfl, hparts⟩ := h
    have hpath : path.text.toList <:+: '[' :: (kind.toList ++ '@' :: (path.text.toList ++ [']'])) :=
      (infix_frame (kind.toList ++ ['@']) path.text.toList [']']).trans
        ⟨['['], [], by simp only [List.append_nil, List.append_assoc, List.singleton_append]⟩
    rw [texts, List.forall_mem_cons, List.forall_mem_map]
    exact ⟨hpath, fun part hpart => (hparts part hpart).trans hpath⟩
  | hyperlink description url =>
    obtain ⟨-, -, rfl⟩ := h
    rw [texts, List.forall_mem_cons, List.forall_mem_singleton]
    refine ⟨infix_frame ['['] _ _, ?_⟩
    exact ⟨'[' :: (description.toList ++ [']', '(']), [')'], by
      simp only [List.append_assoc, List.cons_append, List.nil_append]⟩
  | image description url =>
    obtain ⟨-, -, rfl⟩ := h
    rw [texts, List.forall_mem_cons, List.forall_mem_singleton]
    refine ⟨infix_frame ['!', '['] _ _, ?_⟩
    exact ⟨'!' :: '[' :: (description.toList ++ [']', '(']), [')'], by
      simp only [List.append_assoc, List.cons_append, List.nil_append]⟩
  | header level title =>
    obtain ⟨-, -, blank, line, breaks, -, -, htitle, rfl⟩ := h
    rw [texts, List.forall_mem_singleton, htitle]
    exact (Text.trimChars_infix _).trans (infix_frame _ (blank :: line) _)
  | bullet | paragraph => exact fun text htext => absurd htext List.not_mem_nil

/-- Nothing that an item shows was not in the text. -/
theorem texts_infix_of_item? {lineStart : Bool} (h : item? lineStart cs = some (i, n)) :
    ∀ text ∈ i.texts, text <:+: cs := by
  rw [item?_eq_or] at h
  obtain ⟨source, rest, rfl, -, hsource⟩ :=
    (isFaithful_marked? lineStart).or isFaithful_paragraph? _ _ _ h
  exact fun text htext => (hsource.texts_infix text htext).trans (List.prefix_append _ _).isInfix

end Doc
end GirBind
