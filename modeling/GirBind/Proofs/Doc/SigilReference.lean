import GirBind.Proofs.Doc.InlineLine

namespace GirBind.Doc

open Text (isWord isBlank EndsWord)

variable {c : Char} {rest : List Char}

theorem concat_plain (ctx : Context) (state : ListState) (t : List Char) :
    Converted.concat (renderSegments ctx state (t.map .plain)) = .ofText (.ofList t) := by
  have hplain := concat_renderSegments_plain ctx state t []
  rw [List.append_nil, renderSegments, Converted.concat, Converted.append_empty] at hplain
  exact hplain

inductive Sigil
  | identifier
  | nativeType
  | parameter

namespace Sigil

def sign : Sigil → Char
  | identifier => '%'
  | nativeType => '#'
  | parameter => '@'

/-- The length of the shortest word that is read behind the sign. -/
def shortest : Sigil → Nat
  | identifier => 1
  | nativeType | parameter => 2

def reading (ctx : Context) (word : String) : Sigil → Converted
  | identifier =>
    if word = "NULL" then ⟨inlineCode "null", 0⟩
    else if word = "TRUE" then ⟨inlineCode "true", 0⟩
    else if word = "FALSE" then ⟨inlineCode "false", 0⟩
    else match ctx.table.symbol? word with
      | some y => ⟨inlineLink (ctx.symbolLink y true), 0⟩
      | none => ⟨inlineCode word, 1⟩
  | nativeType =>
    match ctx.table.nativeType? word with
    | some e => ⟨inlineLink (ctx.qualifier e.library ++ Java.simpleType e.type.name), 0⟩
    | none => ⟨inlineCode word, 1⟩
  | parameter => ⟨inlineCode word, 0⟩

def inline (word : List Char) : Sigil → Inline
  | identifier => .identifier word
  | nativeType => .nativeType word
  | parameter => .parameter word

variable {ctx : Context} {g : Sigil} {word : List Char}

theorem source_inline (g : Sigil) (word : List Char) : (g.inline word).source = g.sign :: word := by
  cases g with
  | identifier | nativeType | parameter => rfl

theorem inline_isWellFormed (hlength : g.shortest ≤ word.length)
    (hword : ∀ c ∈ word, isWord c = true) : (g.inline word).IsWellFormed := by
  cases g with
  | identifier => exact ⟨List.ne_nil_of_length_pos hlength, hword⟩
  | nativeType | parameter => exact ⟨hlength, hword⟩

theorem render_inline (ctx : Context) (state : ListState) (g : Sigil) (word : List Char) :
    (g.inline word).item.render ctx state = g.reading ctx (.ofList word) := by
  cases g with
  | identifier =>
    change ctx.identifier (.ofList word) = _
    rw [reading]
    split_ifs with hnull htrue hfalse
    · rw [hnull]
      rfl
    · rw [htrue]
      rfl
    · rw [hfalse]
      rfl
    · rw [Context.identifier]
      · cases ctx.table.symbol? (.ofList word) with
        | some y => rfl
        | none => rfl
      · exact hnull
      · exact htrue
      · exact hfalse
  | nativeType =>
    change ctx.nativeType (.ofList word) = _
    rw [reading, Context.nativeType]
    cases ctx.table.nativeType? (.ofList word) with
    | some e => rfl
    | none => rfl
  | parameter => rfl

theorem sign_separates (g : Sigil) :
    isBlank g.sign = false ∧ g.sign ≠ '-' ∧ g.sign ≠ '[' ∧ g.sign ≠ '\n' := by
  cases g with
  | identifier | nativeType | parameter => decide +kernel

theorem sigil?_short {sign d : Char} (make : String → Item) (hrest : EndsWord rest) :
    sigil? sign make (d :: c :: rest) = none := by
  have hword : rest.takeWhile isWord = [] :=
    Text.takeWhile_isWord (fun _ h => absurd h List.not_mem_nil) hrest
  rw [sigil?, hword]
  exact if_neg fun h => h.2.2.2 rfl

theorem header?_short (hblank : isBlank c = false) (hc : c ≠ '#') (rest : List Char) :
    header? ('#' :: c :: rest) = none := by
  have hlevel : ('#' :: c :: rest).takeWhile (· == '#') = ['#'] := by
    rw [List.takeWhile_cons_of_pos rfl, List.takeWhile_cons, beq_false_of_ne hc,
      if_neg Bool.false_ne_true]
  have hdrop : ('#' :: c :: rest).drop ['#'].length = c :: rest := rfl
  rw [header?, hlevel, hdrop]
  dsimp only
  rw [hblank, if_pos (by decide), if_neg fun h => Bool.false_ne_true h.1]

theorem item?_short (hg : 1 < g.shortest) (hc : isWord c = true) (hrest : EndsWord rest)
    (lineStart : Bool) : item? lineStart (g.sign :: c :: rest) = none := by
  have hsign : g.sign ∉ ['\x60', '|', '[', '%', '!', '*', '<', '\n', '-'] := by
    cases g with
    | identifier => exact absurd hg (by decide)
    | nativeType | parameter => decide
  have hne (d : Char) (hd : d ∈ ['\x60', '|', '[', '%', '!', '*', '<', '\n', '-']) : g.sign ≠ d :=
    fun h => hsign (h ▸ hd)
  have hheader : header? (g.sign :: c :: rest) = none := by
    by_cases hnumber : g.sign = '#'
    · rw [hnumber]
      exact header?_short (Text.isBlank_of_isWord hc)
        (Text.ne_of_isWord hc (by decide +kernel)) rest
    · exact header?_of_ne hnumber _
  have hline : lineItem? lineStart (g.sign :: c :: rest) = none := by
    rw [lineItem?, hheader, bullet?_of_ne g.sign_separates.1 (hne _ (by decide)), Option.or_none,
      ite_self]
  rw [item?_eq, fenced?_of_ne (hne _ (by decide)), fenced?_of_ne (hne _ (by decide)),
    code?_of_ne (hne _ (by decide)), link?_of_ne (hne _ (by decide)),
    identifier?_of_ne (hne _ (by decide)), sigil?_short _ hrest, sigil?_short _ hrest,
    hyperlink?_of_ne (hne _ (by decide)), image?_of_ne (hne _ (by decide)), hline,
    strong?_of_ne (hne _ (by decide)), tag?_of_ne (hne _ (by decide)),
    paragraph?_of_ne (hne _ (by decide))]
  rfl

theorem ofText_short (hg : 1 < g.shortest) (hc : isWord c = true) (hrest : EndsWord rest)
    (hplain : IsPlainText false rest) (lineStart : Bool) :
    Segment.ofText lineStart (g.sign :: c :: rest) = (g.sign :: c :: rest).map .plain := by
  have hbreak : (g.sign == '\n') = false := beq_false_of_ne g.sign_separates.2.2.2
  have hword : (c == '\n') = false := beq_false_of_ne (Text.ne_of_isWord hc (by decide +kernel))
  have hsign : c ∉ signs := by
    intro hmem
    have hsigns : signs.all (!isWord ·) = true := by decide +kernel
    have hother := List.all_eq_true.1 hsigns c hmem
    rw [hc] at hother
    cases hother
  rw [Segment.ofText, item?_short hg hc hrest, hbreak]
  dsimp only
  rw [Segment.ofText, item?_of_not_mem hsign rfl, hword]
  dsimp only
  rw [hplain.ofText]
  rfl

theorem concat_of_shortest_le (hlength : g.shortest ≤ word.length)
    (hword : ∀ c ∈ word, isWord c = true) (hrest : EndsWord rest) (hplain : IsPlainText false rest)
    (ctx : Context) (state : ListState) (lineStart : Bool) :
    Converted.concat (renderSegments ctx state
        (Segment.ofText lineStart (g.sign :: (word ++ rest)))) =
      (g.reading ctx (.ofList word)).append (.ofText (.ofList rest)) := by
  have hends : (g.inline word).EndsBefore rest := by cases g <;> trivial
  have hitem := (g.inline word).ofText_append (g.inline_isWellFormed hlength hword) hrest hends
    lineStart
  rw [g.source_inline, List.cons_append] at hitem
  rw [hitem, (g.inline word).renderSegments_item, Converted.concat, g.render_inline, hplain.ofText,
    concat_plain]

theorem concat_of_lt_shortest (hne : word ≠ []) (hlength : word.length < g.shortest)
    (hword : ∀ c ∈ word, isWord c = true) (hrest : EndsWord rest) (hplain : IsPlainText false rest)
    (ctx : Context) (state : ListState) (lineStart : Bool) :
    Converted.concat (renderSegments ctx state
        (Segment.ofText lineStart (g.sign :: (word ++ rest)))) =
      .ofText (.ofList (g.sign :: (word ++ rest))) := by
  have hmost : g.shortest ≤ 2 := by cases g <;> decide
  obtain ⟨c, more, rfl⟩ := List.exists_cons_of_ne_nil hne
  rw [List.length_cons] at hlength
  obtain rfl : more = [] := List.length_eq_zero_iff.1 (by omega)
  have hc : isWord c = true := hword c List.mem_cons_self
  rw [List.singleton_append, ofText_short (by omega) hc hrest hplain, concat_plain]

end Sigil

/-- A word behind a sign is a reference if it is long enough. If it is not, the text stays as it
is. -/
theorem sigil_of_convert (ctx : Context) (g : Sigil) {p w q : String} (hne : w ≠ "")
    (hword : ∀ c ∈ w.toList, isWord c = true) (hp : IsPlainText true p.toList)
    (hq : IsPlainText false q.toList) (hend : EndsWord q.toList) :
    convert ctx (p ++ .singleton g.sign ++ w ++ q) =
      if g.shortest ≤ w.length then ⟨p ++ (g.reading ctx w).text ++ q, (g.reading ctx w).misses⟩
      else ⟨p ++ .singleton g.sign ++ w ++ q, 0⟩ := by
  have htext : (p ++ .singleton g.sign ++ w ++ q).toList =
      p.toList ++ g.sign :: (w.toList ++ q.toList) := by
    simp only [String.toList_append, String.toList_singleton, List.append_assoc,
      List.cons_append, List.nil_append]
  obtain ⟨hblank, hdash, hbracket, -⟩ := g.sign_separates
  have hseparates : ∀ c ∈ (g.sign :: (w.toList ++ q.toList)).head?,
      isBlank c = false ∧ c ≠ '-' := by
    rintro _ ⟨⟩
    exact ⟨hblank, hdash⟩
  obtain ⟨lineStart, hsegments⟩ := hp.ofText_append _ hseparates fun hhead =>
    absurd (Option.some.inj hhead) hbracket
  rw [convert, ← Converted.concat_eq, htext, hsegments, concat_renderSegments_plain,
    ← String.length_toList]
  split
  case isTrue hlength =>
    rw [Sigil.concat_of_shortest_le hlength hword hend hq, String.ofList_toList,
      String.ofList_toList, String.ofList_toList, Converted.append, Converted.append,
      String.append_assoc]
    exact congrArg _ ((Nat.zero_add _).trans (Nat.add_zero _))
  case isFalse hlength =>
    have hw : w.toList ≠ [] := mt String.toList_eq_nil_iff.1 hne
    have hall := congrArg String.ofList htext
    rw [String.ofList_toList, String.ofList_append] at hall
    rw [Sigil.concat_of_lt_shortest hw (Nat.lt_of_not_le hlength) hword hend hq,
      Converted.ofText_append, ← hall]
    rfl

theorem sigil_of_convert_size : let ctx : Context := ⟨.empty ⟨"org.gnome", ∅⟩, "X"⟩
    "size" ≠ "" ∧ (∀ c ∈ "size".toList, isWord c = true) ∧ IsPlainText true "Set ".toList ∧
      IsPlainText false ", or 0.".toList ∧ EndsWord ", or 0.".toList ∧
      convert ctx ("Set " ++ .singleton Sigil.parameter.sign ++ "size" ++ ", or 0.") =
        ⟨"Set \x7b@code size\x7d, or 0.", 0⟩ := by
  have hp : IsPlainText true "Set ".toList := .of_isPlain (List.all_eq_true.1 (by decide +kernel))
  have hq : IsPlainText false ", or 0.".toList :=
    .of_isPlain (List.all_eq_true.1 (by decide +kernel))
  have hword : ∀ c ∈ "size".toList, isWord c = true := List.all_eq_true.1 (by decide +kernel)
  have hend : EndsWord ", or 0.".toList := by
    rintro _ ⟨⟩
    decide +kernel
  refine ⟨by decide, hword, hp, hq, hend, ?_⟩
  rw [sigil_of_convert _ .parameter (by decide) hword hp hq hend]
  decide +kernel

/-- The name of a parameter that is a single character is not read. -/
theorem exists_unread_parameter : ¬ ∀ (ctx : Context) (p w q : String), w ≠ "" →
    (∀ c ∈ w.toList, isWord c = true) → IsPlainText true p.toList →
      IsPlainText false q.toList → EndsWord q.toList →
        convert ctx (p ++ "@" ++ w ++ q) = ⟨p ++ inlineCode w ++ q, 0⟩ := by
  intro hall
  have hplain {lineStart : Bool} : IsPlainText lineStart "".toList :=
    .of_isPlain fun _ hc => absurd hc (by simp)
  have hword : ∀ c ∈ "x".toList, isWord c = true := List.all_eq_true.1 (by decide +kernel)
  have hread := hall ⟨.empty ⟨"org.gnome", ∅⟩, "X"⟩ "" "x" "" (by decide) hword hplain hplain
    fun _ hc => absurd hc (by simp)
  exact absurd hread (by decide +kernel)

end GirBind.Doc
