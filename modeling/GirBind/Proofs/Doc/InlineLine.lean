import GirBind.Doc.Render
import GirBind.Proofs.Doc.PlainText

namespace GirBind.Doc

open Text (isWord isBlank EndsWord)

variable {c : Char} {cs t rest : List Char}

inductive Inline
  | code (content : List Char)
  | link (kind path : List Char)
  | identifier (name : List Char)
  | nativeType (name : List Char)
  | parameter (name : List Char)
  | hyperlink (description url : List Char)
  | strong (content : List Char)

namespace Inline

def source : Inline → List Char
  | code content => '\x60' :: (content ++ ['\x60'])
  | link kind path => '[' :: (kind ++ '@' :: (path ++ [']']))
  | identifier name => '%' :: name
  | nativeType name => '#' :: name
  | parameter name => '@' :: name
  | hyperlink description url => '[' :: (description ++ ']' :: '(' :: (url ++ [')']))
  | strong content => '*' :: (content ++ ['*'])

def item : Inline → Item
  | code content => .code (.ofList content)
  | link kind path => .link (.ofList kind) (.ofChars path)
  | identifier name => .identifier (.ofList name)
  | nativeType name => .nativeType (.ofList name)
  | parameter name => .parameter (.ofList name)
  | hyperlink description url => .hyperlink (.ofList description) (.ofList url)
  | strong content => .strong (.ofList content)

def IsWellFormed : Inline → Prop
  | code content => content ≠ [] ∧ ∀ c ∈ content, c ≠ '\x60' ∧ c ≠ '\n'
  | link kind path => kind ≠ [] ∧ (∀ c ∈ kind, c ≠ '@' ∧ c ≠ ']' ∧ c ≠ '\n') ∧
      ∀ c ∈ path, c ≠ '@' ∧ c ≠ ']' ∧ c ≠ '\n'
  | identifier name => name ≠ [] ∧ ∀ c ∈ name, isWord c = true
  | nativeType name => 2 ≤ name.length ∧ ∀ c ∈ name, isWord c = true
  | parameter name => 2 ≤ name.length ∧ ∀ c ∈ name, isWord c = true
  | hyperlink description url => description ≠ [] ∧
      (∀ c ∈ description, c ≠ '@' ∧ c ≠ ']' ∧ c ≠ '\n') ∧ url ≠ [] ∧
      ∀ c ∈ url, c ≠ '@' ∧ c ≠ ']' ∧ c ≠ ')' ∧ c ≠ '\n'
  | strong content => content ≠ [] ∧ ∀ c ∈ content, c ≠ '*' ∧ c ≠ '\n'

instance : (i : Inline) → Decidable i.IsWellFormed
  | code _ | link _ _ | identifier _ | nativeType _ | parameter _ | hyperlink _ _ | strong _ => by
    have (p : Char → Prop) [DecidablePred p] (cs : List Char) := cs.decidableBAll p
    dsimp only [IsWellFormed]
    infer_instance

/-- Nothing in the rest of the line can be taken for the end of the markup. Links, hyperlinks and
strong text go up to the last character that can close them. -/
def EndsBefore (rest : List Char) : Inline → Prop
  | link _ _ => ']' ∉ rest
  | hyperlink _ _ => ')' ∉ rest ∧ rest.Pairwise fun a b => a = '@' → b ≠ ']'
  | strong _ => '*' ∉ rest
  | _ => True

instance (rest : List Char) : (i : Inline) → Decidable (i.EndsBefore rest)
  | code _ | link _ _ | identifier _ | nativeType _ | parameter _ | hyperlink _ _ | strong _ => by
    dsimp only [EndsBefore]
    infer_instance

end Inline

namespace Inline

theorem fenced?_code {content : List Char} (h : (Inline.code content).IsWellFormed) :
    fenced? ['\x60', '\x60', '\x60'] ['\x60', '\x60', '\x60']
      ('\x60' :: (content ++ '\x60' :: rest)) = none := by
  obtain ⟨first, more, rfl⟩ := List.exists_cons_of_ne_nil h.1
  have hfirst : ('\x60' == first) = false :=
    beq_false_of_ne (h.2 first List.mem_cons_self).1.symm
  have hprefix : ['\x60', '\x60', '\x60'].isPrefixOf
      ('\x60' :: (first :: more ++ '\x60' :: rest)) = false := by
    rw [List.isPrefixOf, List.cons_append, List.isPrefixOf, hfirst, Bool.false_and, Bool.and_false]
  rw [fenced?, hprefix, if_neg Bool.false_ne_true]

theorem link?_hyperlink {description url : List Char}
    (h : (Inline.hyperlink description url).IsWellFormed)
    (hrest : rest.Pairwise fun a b => a = '@' → b ≠ ']') :
    link? ('[' :: (description ++ ']' :: '(' :: (url ++ ')' :: rest))) = none := by
  have hfront : '@' ∉ description ++ ']' :: '(' :: (url ++ [')']) := by
    simp only [List.mem_append, List.mem_cons, List.not_mem_nil, or_false, not_or]
    exact ⟨fun hmem => (h.2.1 _ hmem).1 rfl, by decide, by decide,
      fun hmem => (h.2.2.2 _ hmem).1 rfl, by decide⟩
  have hall : (description ++ ']' :: '(' :: (url ++ ')' :: rest)).Pairwise
      fun a b => a = '@' → b ≠ ']' := by
    have happend : description ++ ']' :: '(' :: (url ++ ')' :: rest) =
        (description ++ ']' :: '(' :: (url ++ [')'])) ++ rest := by
      simp only [List.append_assoc, List.cons_append, List.nil_append]
    rw [happend, List.pairwise_append]
    exact ⟨List.pairwise_of_forall_mem_list fun a ha _ _ hat => absurd (hat ▸ ha) hfront, hrest,
      fun a ha _ _ hat => absurd (hat ▸ ha) hfront⟩
  exact linkAfter?_eq_none hall []

theorem item?_append (i : Inline) (hi : i.IsWellFormed) (hword : EndsWord rest)
    (hends : i.EndsBefore rest) (lineStart : Bool) :
    item? lineStart (i.source ++ rest) = some (i.item, i.source.length) := by
  rw [item?_eq]
  cases i with
  | code content =>
    simp only [source, List.cons_append, List.append_assoc, List.nil_append]
    rw [fenced?_code hi, fenced?_of_ne (by decide), code?_append hi.1 fun c hc => (hi.2 c hc).1]
    simp only [Option.none_or, Option.some_or, item, List.length_cons, List.length_append]
    rfl
  | link kind path =>
    obtain ⟨hne, hkind, hpath⟩ := hi
    have hlink : link? ('[' :: (kind ++ '@' :: (path ++ ']' :: rest))) =
        some (.link (.ofList kind) (.ofChars path), 0 + kind.length + path.length + 3) :=
      linkAfter?_append [] (fun hmem => (hkind _ hmem).2.2 rfl) (.inr hne) hpath hends
    simp only [source, List.cons_append, List.append_assoc, List.nil_append]
    rw [fenced?_of_ne (by decide), fenced?_of_ne (by decide), code?_of_ne (by decide), hlink]
    simp only [Option.none_or, Option.some_or, item, List.length_cons, List.length_append,
      List.length_nil, Nat.zero_add]
    rfl
  | identifier name =>
    simp only [source, List.cons_append]
    rw [fenced?_of_ne (by decide), fenced?_of_ne (by decide), code?_of_ne (by decide),
      link?_of_ne (by decide), identifier?_append hi.1 hi.2 hword]
    rfl
  | nativeType name =>
    simp only [source, List.cons_append]
    rw [fenced?_of_ne (by decide), fenced?_of_ne (by decide), code?_of_ne (by decide),
      link?_of_ne (by decide), identifier?_of_ne (by decide),
      sigil?_append _ (by decide +kernel) hi.1 hi.2 hword]
    rfl
  | parameter name =>
    simp only [source, List.cons_append]
    rw [fenced?_of_ne (by decide), fenced?_of_ne (by decide), code?_of_ne (by decide),
      link?_of_ne (by decide), identifier?_of_ne (by decide), sigil?_of_ne (by decide),
      sigil?_append _ (by decide +kernel) hi.1 hi.2 hword]
    rfl
  | hyperlink description url =>
    have hlink := link?_hyperlink hi hends.2
    obtain ⟨hne, hdescription, hurlne, hurl⟩ := hi
    have hhyperlink : hyperlink? ('[' :: (description ++ ']' :: '(' :: (url ++ ')' :: rest))) =
        some (.hyperlink (.ofList description) (.ofList url),
          0 + description.length + url.length + 4) :=
      targetAfter?_append .hyperlink [] (fun hmem => (hdescription _ hmem).2.2 rfl) (.inr hne)
        (fun c hc => ⟨(hurl c hc).2.1, (hurl c hc).2.2.2⟩) hurlne hends.1
    simp only [source, List.cons_append, List.append_assoc, List.nil_append]
    rw [fenced?_of_ne (by decide), fenced?_of_ne (by decide), code?_of_ne (by decide), hlink,
      identifier?_of_ne (by decide), sigil?_of_ne (by decide), sigil?_of_ne (by decide),
      hhyperlink]
    simp only [Option.none_or, Option.some_or, item, List.length_cons, List.length_append,
      List.length_nil, Nat.zero_add]
    rfl
  | strong content =>
    obtain ⟨hne, hcontent⟩ := hi
    have hline : lineItem? lineStart ('*' :: (content ++ '*' :: rest)) = none := by
      rw [lineItem?, header?_of_ne (by decide), bullet?_of_ne rfl (by decide), Option.or_none,
        ite_self]
    simp only [source, List.cons_append, List.append_assoc, List.nil_append]
    rw [fenced?_of_ne (by decide), fenced?_of_ne (by decide), code?_of_ne (by decide),
      link?_of_ne (by decide), identifier?_of_ne (by decide), sigil?_of_ne (by decide),
      sigil?_of_ne (by decide), hyperlink?_of_ne (by decide), image?_of_ne (by decide), hline,
      strong?_append hne (fun hmem => (hcontent _ hmem).2 rfl) hends]
    simp only [Option.none_or, Option.some_or, item, List.length_cons, List.length_append]
    rfl

theorem exists_source (i : Inline) :
    ∃ sign more, i.source = sign :: more ∧ isBlank sign = false ∧ sign ≠ '-' := by
  cases i <;> exact ⟨_, _, rfl, rfl, by decide⟩

theorem not_mem_source (i : Inline) (hi : i.IsWellFormed) : '\n' ∉ i.source := by
  have hword {name : List Char} (h : ∀ c ∈ name, isWord c = true) : '\n' ∉ name :=
    fun hmem => absurd (h _ hmem) (by decide +kernel)
  cases i with
  | code content =>
    simp only [source, List.mem_cons, List.mem_append, List.not_mem_nil, or_false, not_or]
    exact ⟨by decide, fun hmem => (hi.2 _ hmem).2 rfl, by decide⟩
  | link kind path =>
    simp only [source, List.mem_cons, List.mem_append, List.not_mem_nil, or_false, not_or]
    exact ⟨by decide, fun hmem => (hi.2.1 _ hmem).2.2 rfl, by decide,
      fun hmem => (hi.2.2 _ hmem).2.2 rfl, by decide⟩
  | identifier name | nativeType name | parameter name =>
    rw [source, List.mem_cons, not_or]
    exact ⟨by decide, hword hi.2⟩
  | hyperlink description url =>
    simp only [source, List.mem_cons, List.mem_append, List.not_mem_nil, or_false, not_or]
    exact ⟨by decide, fun hmem => (hi.2.1 _ hmem).2.2 rfl, by decide, by decide,
      fun hmem => (hi.2.2.2 _ hmem).2.2.2 rfl, by decide⟩
  | strong content =>
    simp only [source, List.mem_cons, List.mem_append, List.not_mem_nil, or_false, not_or]
    exact ⟨by decide, fun hmem => (hi.2 _ hmem).2 rfl, by decide⟩

theorem endsBefore_nil (i : Inline) : i.EndsBefore [] := by
  cases i with
  | link kind path => exact List.not_mem_nil
  | hyperlink description url => exact ⟨List.not_mem_nil, .nil⟩
  | strong content => exact List.not_mem_nil
  | _ => trivial

theorem ofText_append (i : Inline) (hi : i.IsWellFormed) (hword : EndsWord rest)
    (hends : i.EndsBefore rest) (lineStart : Bool) : Segment.ofText lineStart (i.source ++ rest) =
      .item i.item i.source :: Segment.ofText false rest := by
  have hitem := item?_append i hi hword hends lineStart
  have hbreak := not_mem_source i hi
  obtain ⟨sign, more, hsource, -⟩ := exists_source i
  rw [hsource] at hitem hbreak ⊢
  have hlast : ((sign :: more).getLast? == some '\n') = false :=
    beq_false_of_ne fun hlast => hbreak (List.mem_of_getLast? hlast)
  rw [List.cons_append] at hitem ⊢
  rw [Segment.ofText, hitem]
  simp only [List.length_cons, Nat.add_sub_cancel, List.take_left, List.drop_left, hlast]

/-- No item but a bullet or a paragraph depends on the list around it, or changes it. -/
theorem renderSegments_item (ctx : Context) (state : ListState) (i : Inline) (source : List Char)
    (rest : List Segment) : renderSegments ctx state (.item i.item source :: rest) =
      i.item.render ctx .outside :: renderSegments ctx state rest := by
  cases i <;> rfl

end Inline

namespace Converted

def append (a b : Converted) : Converted := ⟨a.text ++ b.text, a.misses + b.misses⟩

def concat : List Converted → Converted
  | [] => .ofText ""
  | a :: rest => a.append (concat rest)

theorem append_assoc (a b d : Converted) : (a.append b).append d = a.append (b.append d) := by
  rw [append, append, append, append, String.append_assoc, Nat.add_assoc]

theorem ofText_append (a b : String) :
    (Converted.ofText a).append (.ofText b) = .ofText (a ++ b) := rfl

theorem empty_append (a : Converted) : (Converted.ofText "").append a = a := by
  rw [append, ofText, String.empty_append, Nat.zero_add]

theorem append_empty (a : Converted) : a.append (.ofText "") = a := by
  rw [append, ofText, String.append_empty, Nat.add_zero]

theorem concat_eq (parts : List Converted) :
    concat parts = ⟨.join (parts.map text), parts.foldl (fun n part => n + part.misses) 0⟩ := by
  rw [← List.foldl_map (f := misses) (g := (· + ·)), ← List.sum_eq_foldl]
  induction parts with
  | nil => rfl
  | cons a parts ih =>
    rw [concat, ih, append, List.map_cons, List.map_cons, String.join_cons]
    rfl

end Converted

theorem concat_renderSegments_plain (ctx : Context) (state : ListState) (t : List Char)
    (rest : List Segment) : Converted.concat (renderSegments ctx state (t.map .plain ++ rest)) =
      (Converted.ofText (.ofList t)).append (.concat (renderSegments ctx state rest)) := by
  induction t with
  | nil => exact (Converted.empty_append _).symm
  | cons c t ih =>
    rw [List.map_cons, List.cons_append, renderSegments, Converted.concat, ih,
      ← Converted.append_assoc, Converted.ofText_append, String.ofList_cons]

/-- The text between two items: it starts with a space and has no markup. -/
structure IsGap (t : List Char) : Prop where
  space : t.head? = some ' '
  plain : ∀ c ∈ t, isPlain c = true

instance (t : List Char) : Decidable (IsGap t) :=
  have := t.decidableBAll (isPlain · = true)
  decidable_of_iff (t.head? = some ' ' ∧ ∀ c ∈ t, isPlain c = true)
    ⟨fun h => ⟨h.1, h.2⟩, fun h => ⟨h.space, h.plain⟩⟩

theorem IsGap.endsWord (ht : IsGap t) (rest : List Char) : EndsWord (t ++ rest) := by
  intro c hc
  rw [List.head?_append, ht.space] at hc
  obtain rfl : ' ' = c := Option.some.inj hc
  decide +kernel

theorem IsGap.ofText (ht : IsGap t) (hrest : ∀ c ∈ rest.head?, isBlank c = false ∧ c ≠ '-')
    (lineStart : Bool) : ∃ restStart, Segment.ofText lineStart (t ++ rest) =
      t.map .plain ++ Segment.ofText restStart rest := by
  refine (IsPlainText.of_isPlain ht.plain).ofText_append rest hrest fun _ d hd => ?_
  have hplain := ht.plain d (List.mem_of_getLast? hd)
  have hother : ['|', '!'].all (!isPlain ·) = true := by decide +kernel
  intro hmem
  have hsign := List.all_eq_true.1 hother d hmem
  rw [hplain] at hsign
  cases hsign

structure Line where
  gap : List Char
  parts : List (Inline × List Char)

namespace Line

def written (parts : List (Inline × List Char)) : List Char :=
  parts.flatMap fun p => p.1.source ++ p.2

def text (l : Line) : String := .ofList (l.gap ++ written l.parts)

structure IsWellFormed (l : Line) : Prop where
  gap : IsGap l.gap
  items : ∀ p ∈ l.parts, p.1.IsWellFormed
  gaps : ∀ p ∈ l.parts, IsGap p.2

instance (l : Line) : Decidable l.IsWellFormed :=
  decidable_of_iff
    (IsGap l.gap ∧ (∀ p ∈ l.parts, p.1.IsWellFormed) ∧ ∀ p ∈ l.parts, IsGap p.2)
    ⟨fun h => ⟨h.1, h.2.1, h.2.2⟩, fun h => ⟨h.gap, h.items, h.gaps⟩⟩

/-- The items end before what stands behind them on the line. -/
def EndsInPlace : List (Inline × List Char) → Prop
  | [] => True
  | p :: parts => p.1.EndsBefore (p.2 ++ written parts) ∧ EndsInPlace parts

instance : (parts : List (Inline × List Char)) → Decidable (EndsInPlace parts)
  | [] => .isTrue trivial
  | _ :: parts =>
    have := instDecidableEndsInPlace parts
    inferInstanceAs (Decidable (_ ∧ _))

/-- The conversions of the items, each converted alone, with the text between them as it is. -/
def converted (ctx : Context) (l : Line) : Converted :=
  (Converted.ofText (.ofList l.gap)).append <| .concat <| l.parts.map fun p =>
    (convert ctx (.ofList p.1.source)).append (.ofText (.ofList p.2))

theorem convert_source (ctx : Context) {i : Inline} (hi : i.IsWellFormed) :
    convert ctx (.ofList i.source) = i.item.render ctx .outside := by
  have hsegments := i.ofText_append hi (fun c hc => absurd hc (by simp)) i.endsBefore_nil true
  rw [List.append_nil, Segment.ofText] at hsegments
  rw [convert, ← Converted.concat_eq, String.toList_ofList, hsegments, i.renderSegments_item]
  exact Converted.append_empty _

theorem head_written (parts : List (Inline × List Char)) :
    ∀ c ∈ (written parts).head?, isBlank c = false ∧ c ≠ '-' := by
  cases parts with
  | nil => exact fun c hc => absurd hc (by simp [written])
  | cons p parts =>
    obtain ⟨sign, more, hsource, hsign⟩ := p.1.exists_source
    rw [written, List.flatMap_cons, hsource]
    rintro _ ⟨⟩
    exact hsign

theorem concat_renderSegments (ctx : Context) (state : ListState)
    {parts : List (Inline × List Char)} (hitems : ∀ p ∈ parts, p.1.IsWellFormed)
    (hgaps : ∀ p ∈ parts, IsGap p.2) (hends : EndsInPlace parts) (lineStart : Bool) :
    Converted.concat (renderSegments ctx state (Segment.ofText lineStart (written parts))) =
      .concat (parts.map fun p =>
        (convert ctx (.ofList p.1.source)).append (.ofText (.ofList p.2))) := by
  induction parts generalizing lineStart with
  | nil =>
    rw [written, List.flatMap_nil, Segment.ofText]
    rfl
  | cons p parts ih =>
    obtain ⟨hitem, hitems⟩ := List.forall_mem_cons.1 hitems
    obtain ⟨hgap, hgaps⟩ := List.forall_mem_cons.1 hgaps
    have hwritten : written (p :: parts) = p.1.source ++ (p.2 ++ written parts) := by
      rw [written, List.flatMap_cons, List.append_assoc]
      rfl
    obtain ⟨restStart, hsegments⟩ := hgap.ofText (head_written parts) false
    rw [hwritten, p.1.ofText_append hitem (hgap.endsWord _) hends.1, p.1.renderSegments_item,
      hsegments, Converted.concat, concat_renderSegments_plain, ih hitems hgaps hends.2,
      List.map_cons, Converted.concat, convert_source ctx hitem, Converted.append_assoc]

/-- A line converts item by item if nothing behind a link, hyperlink or strong text can be taken for
its end. -/
theorem convert_text (ctx : Context) {l : Line} (h : l.IsWellFormed)
    (hends : EndsInPlace l.parts) : convert ctx l.text = l.converted ctx := by
  obtain ⟨restStart, hsegments⟩ := h.gap.ofText (head_written l.parts) true
  rw [convert, ← Converted.concat_eq, text, String.toList_ofList, hsegments,
    concat_renderSegments_plain, concat_renderSegments ctx .outside h.items h.gaps hends]
  rfl

end Line

def mixedLine : Line where
  gap := " Call ".toList
  parts := [(.code "f()".toList, " with ".toList), (.parameter "size".toList, " not ".toList),
    (.identifier "NULL".toList, " of a ".toList), (.nativeType "XA".toList, " or ".toList),
    (.strong "always".toList, " as in ".toList), (.link "class".toList "X.A".toList, " ".toList)]

theorem convert_mixedLine : let ctx : Context := ⟨.empty ⟨"org.gnome", ∅⟩, "X"⟩
    mixedLine.IsWellFormed ∧ Line.EndsInPlace mixedLine.parts ∧
      convert ctx mixedLine.text = mixedLine.converted ctx ∧
      mixedLine.converted ctx = ⟨" Call \x7b@code f()\x7d with \x7b@code size\x7d not " ++
        "\x7b@code null\x7d of a \x7b@code XA\x7d or <strong>always</strong> as in " ++
        "\x7b@code X.A\x7d ", 2⟩ := by
  have h : mixedLine.IsWellFormed := by decide +kernel
  have hends : Line.EndsInPlace mixedLine.parts := by decide +kernel
  exact ⟨h, hends, Line.convert_text _ h hends, by decide +kernel⟩

def twoLinks : Line where
  gap := [' ']
  parts := [(.link "class".toList "X.A".toList, " and ".toList),
    (.link "class".toList "X.B".toList, [' '])]

/-- A link can take the text behind it, with the links in there. -/
theorem exists_swallowed_link : ¬ ∀ (ctx : Context) (l : Line), l.IsWellFormed →
    convert ctx l.text = l.converted ctx := by
  intro hall
  let ctx : Context := ⟨.empty ⟨"org.gnome", ∅⟩, "X"⟩
  have htogether : convert ctx twoLinks.text = ⟨" \x7b@code X.B\x7d ", 0⟩ := by decide +kernel
  have hapart : twoLinks.converted ctx = ⟨" \x7b@code X.A\x7d and \x7b@code X.B\x7d ", 2⟩ := by
    decide +kernel
  have hline := hall ctx twoLinks (by decide +kernel)
  rw [htogether, hapart] at hline
  exact absurd hline (by decide)

end GirBind.Doc
