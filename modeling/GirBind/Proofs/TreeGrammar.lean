import GirBind.Node.OfTokens
import GirBind.Proofs.Attempt

namespace GirBind.Node

open Markup (Token PlacedToken Position)

def IsAside (t : PlacedToken) : Prop :=
  match t.token with
  | .comment _ | .declaration _ => True
  | _ => False

def IsFiller (t : PlacedToken) : Prop :=
  match t.token with
  | .text content => Text.allBlank content = true
  | _ => IsAside t

mutual

/-- The ways to write an element on some platforms: one tag that closes itself, or two tags of one
name with the content between them. -/
inductive Element (p : PlatformSet) : List PlacedToken → Node → Prop
  | selfClosing {tag : String} {kind : NodeKind} (htag : NodeKind.ofTag? tag = some kind)
    (attributes : List (String × String)) (start : Position) :
    Element p [⟨.startTag tag attributes true, start⟩]
      ⟨kind, .ofList attributes, [], "", p, start.line⟩
  | enclosing {tag : String} {kind : NodeKind} (htag : NodeKind.ofTag? tag = some kind)
    (attributes : List (String × String)) (start finish : Position)
    {inner : List PlacedToken} {ns : List Node} {data : String}
    (hinner : Inside p kind.holdsText inner ns data) :
    Element p (⟨.startTag tag attributes false, start⟩ :: (inner ++ [⟨.endTag tag, finish⟩]))
      ⟨kind, .ofList attributes, ns, data, p, start.line⟩

/-- The content of an element that does or does not hold text: its elements, and its text piece by
piece. Without text there are only blanks between the elements. -/
inductive Inside (p : PlatformSet) : Bool → List PlacedToken → List Node → String → Prop
  | nil (holdsText : Bool) : Inside p holdsText [] [] ""
  | aside {holdsText : Bool} {t : PlacedToken} {ts : List PlacedToken} {ns : List Node}
    {data : String} (ht : IsAside t) (h : Inside p holdsText ts ns data) :
    Inside p holdsText (t :: ts) ns data
  | blank {content : String} {ts : List PlacedToken} {ns : List Node} {data : String}
    (hblank : Text.allBlank content = true) (place : Position) (h : Inside p false ts ns data) :
    Inside p false (⟨.text content, place⟩ :: ts) ns data
  | text {ts : List PlacedToken} {ns : List Node} {data : String} (content : String)
    (place : Position) (h : Inside p true ts ns data) :
    Inside p true (⟨.text content, place⟩ :: ts) ns (content ++ data)
  | element {holdsText : Bool} {us ts : List PlacedToken} {n : Node} {ns : List Node}
    {data : String} (hn : Element p us n) (h : Inside p holdsText ts ns data) :
    Inside p holdsText (us ++ ts) (n :: ns) data

end

def Document (p : PlatformSet) (ts : List PlacedToken) (n : Node) : Prop :=
  ∃ before us after, ts = before ++ (us ++ after) ∧ (∀ t ∈ before, IsFiller t) ∧
    Element p us n ∧ ∀ t ∈ after, IsFiller t

def beforeEnd (ts : List PlacedToken) : List PlacedToken :=
  ts.takeWhile fun t => t.token != .endOfInput

theorem beforeEnd_cons {t : PlacedToken} (h : t.token ≠ .endOfInput) (ts : List PlacedToken) :
    beforeEnd (t :: ts) = t :: beforeEnd ts := by
  have ht : (t.token != .endOfInput) = true := bne_iff_ne.2 h
  rw [beforeEnd, List.takeWhile_cons, if_pos ht]
  rfl

theorem beforeEnd_append {ts : List PlacedToken} (h : ∀ t ∈ ts, t.token ≠ .endOfInput)
    (place : Position) : beforeEnd (ts ++ [⟨.endOfInput, place⟩]) = ts := by
  induction ts with
  | nil => rfl
  | cons t ts ih =>
    obtain ⟨ht, hts⟩ := List.forall_mem_cons.1 h
    rw [List.cons_append, beforeEnd_cons ht, ih hts]

def Open.extend (o : Open) (ns : List Node) (data : String) : Open :=
  { o with children := ns.reverse ++ o.children, text := o.text ++ data }

theorem Open.extend_nil (o : Open) : o.extend [] "" = o := by
  rw [Open.extend, String.append_empty]
  rfl

namespace Builder

variable {p : PlatformSet} {b : Builder} {ts rest : List PlacedToken} {n : Node}

/-- The tokens lead from a state of the builder to a root element, with every open element closed
by an end tag of its own. -/
inductive Completes (p : PlatformSet) : Builder → List PlacedToken → Node → Prop
  | behind {ts : List PlacedToken} {n : Node} (hts : ∀ t ∈ ts, IsFiller t) :
    Completes p ⟨[], some n⟩ ts n
  | before {ts : List PlacedToken} {n : Node} (h : Document p ts n) : Completes p ⟨[], none⟩ ts n
  | inside {o : Open} {os : List Open} {root : Option Node} {inner ts : List PlacedToken}
    {ns : List Node} {data : String} {n : Node}
    (hinner : Inside p o.kind.holdsText inner ns data) (place : Position)
    (h : Completes p (add ⟨os, root⟩ ((o.extend ns data).close p)) ts n) :
    Completes p ⟨o :: os, root⟩ (inner ++ ⟨.endTag o.tag, place⟩ :: ts) n

def AcceptsElement (b : Builder) : Prop := ¬ (b.path.isEmpty && b.root.isSome) = true

theorem acceptsElement_inside (o : Open) (os : List Open) (root : Option Node) :
    AcceptsElement ⟨o :: os, root⟩ := Bool.false_ne_true

theorem acceptsElement_start : AcceptsElement ⟨[], none⟩ := Bool.false_ne_true

theorem run_aside {t : PlacedToken} (ht : IsAside t) (b : Builder) (rest : List PlacedToken) :
    b.run p (t :: rest) = b.run p rest := by
  obtain ⟨token, place⟩ := t
  cases token with
  | comment content => rfl
  | declaration content => rfl
  | startTag _ _ _ => exact ht.elim
  | endTag _ => exact ht.elim
  | text _ => exact ht.elim
  | endOfInput => exact ht.elim

theorem run_fillers (hts : ∀ t ∈ ts, IsFiller t) (root : Option Node) (rest : List PlacedToken) :
    run p ⟨[], root⟩ (ts ++ rest) = run p ⟨[], root⟩ rest := by
  induction ts with
  | nil => rfl
  | cons t ts ih =>
    obtain ⟨ht, hts⟩ := List.forall_mem_cons.1 hts
    rw [← ih hts]
    obtain ⟨token, place⟩ := t
    cases token with
    | text content =>
      have hblank : Text.allBlank content = true := ht
      rw [List.cons_append, run, text, if_pos hblank]
      rfl
    | comment content => rfl
    | declaration content => rfl
    | startTag _ _ _ => exact ht.elim
    | endTag _ => exact ht.elim
    | endOfInput => exact ht.elim

theorem run_text {b' : Builder} {content : String} {place : Position}
    (h : b.text place.line content = .ok b') (rest : List PlacedToken) :
    b.run p (⟨.text content, place⟩ :: rest) = b'.run p rest := by
  rw [run, h]
  rfl

theorem run_endTag (o : Open) (os : List Open) (root : Option Node) (place : Position)
    (rest : List PlacedToken) :
    run p ⟨o :: os, root⟩ (⟨.endTag o.tag, place⟩ :: rest) =
      (add ⟨os, root⟩ (o.close p)).run p rest := by
  have hend : endTag ⟨o :: os, root⟩ p place.line o.tag = .ok (add ⟨os, root⟩ (o.close p)) :=
    if_pos rfl
  rw [run, hend]
  rfl

theorem run_startTag {tag : String} {kind : NodeKind} (htag : NodeKind.ofTag? tag = some kind)
    (hb : b.AcceptsElement) (attributes : List (String × String)) (selfClosing : Bool)
    (start : Position) (rest : List PlacedToken) :
    b.run p (⟨.startTag tag attributes selfClosing, start⟩ :: rest) =
      (if selfClosing then b.add ⟨kind, .ofList attributes, [], "", p, start.line⟩
        else { b with path := ⟨tag, kind, .ofList attributes, [], "", start.line⟩ :: b.path }).run
          p rest := by
  rw [run, startTag, if_neg hb, htag]
  rfl

mutual

theorem run_element {us : List PlacedToken} {m : Node} (h : Element p us m) {b : Builder}
    (hb : b.AcceptsElement) (rest : List PlacedToken) :
    b.run p (us ++ rest) = (b.add m).run p rest := by
  match h with
  | .selfClosing htag attributes start => exact run_startTag htag hb attributes true start rest
  | @Element.enclosing _ tag kind htag attributes start finish _ _ _ hinner =>
    let o : Open := ⟨tag, kind, .ofList attributes, [], "", start.line⟩
    rw [List.cons_append, run_startTag htag hb, List.append_assoc]
    refine (run_inside hinner (o := o) rfl b.path b.root _).trans ?_
    refine (run_endTag (o.extend _ _) b.path b.root finish rest).trans ?_
    rw [Open.close, Open.extend, List.append_nil, List.reverse_reverse, String.empty_append]

theorem run_inside {holdsText : Bool} {us : List PlacedToken} {ns : List Node} {data : String}
    (h : Inside p holdsText us ns data) {o : Open} (ho : o.kind.holdsText = holdsText)
    (os : List Open) (root : Option Node) (rest : List PlacedToken) :
    run p ⟨o :: os, root⟩ (us ++ rest) = run p ⟨o.extend ns data :: os, root⟩ rest := by
  match h with
  | .nil _ => rw [Open.extend_nil, List.nil_append]
  | .aside ht h =>
    rw [List.cons_append, run_aside ht]
    exact run_inside h ho os root rest
  | @Inside.blank _ content _ _ _ hblank place h =>
    have htext : text ⟨o :: os, root⟩ place.line content = .ok ⟨o :: os, root⟩ := by
      rw [text]
      dsimp only
      rw [ho, if_neg Bool.false_ne_true, if_pos hblank]
    rw [List.cons_append, run_text htext]
    exact run_inside h ho os root rest
  | .text content place h =>
    have htext : text ⟨o :: os, root⟩ place.line content =
        .ok ⟨{ o with text := o.text ++ content } :: os, root⟩ := if_pos ho
    rw [List.cons_append, run_text htext]
    refine (run_inside h (o := { o with text := o.text ++ content }) ho os root rest).trans ?_
    rw [Open.extend, Open.extend, String.append_assoc]
  | .element (n := m) hn h =>
    rw [List.append_assoc, run_element hn (acceptsElement_inside o os root)]
    refine (run_inside h (o := { o with children := m :: o.children }) ho os root rest).trans ?_
    rw [Open.extend, Open.extend, List.reverse_cons, List.append_assoc]
    rfl

end

theorem run_of_completes (h : Completes p b ts n) {line : Nat}
    (hrest : ∀ b : Builder, b.run p rest = b.finish line) : b.run p (ts ++ rest) = .ok n := by
  induction h with
  | behind hts => rw [run_fillers hts, hrest, finish]
  | before h =>
    obtain ⟨before, us, after, rfl, hbefore, helement, hafter⟩ := h
    rw [List.append_assoc, run_fillers hbefore, List.append_assoc,
      run_element helement acceptsElement_start, add, run_fillers hafter, hrest, finish]
  | @inside o os root inner ts ns data n hinner place h ih =>
    rw [List.append_assoc, run_inside hinner rfl, List.cons_append]
    exact (run_endTag (o.extend ns data) os root place _).trans ih

theorem completes_aside {t : PlacedToken} (ht : IsAside t) (h : Completes p b ts n) :
    Completes p b (t :: ts) n := by
  have hfiller : IsFiller t := by
    obtain ⟨token, place⟩ := t
    cases token with
    | text content => exact ht.elim
    | _ => exact ht
  cases h with
  | behind hts => exact .behind (List.forall_mem_cons.2 ⟨hfiller, hts⟩)
  | before h =>
    obtain ⟨before, us, after, rfl, hbefore, h⟩ := h
    exact .before ⟨t :: before, us, after, rfl, List.forall_mem_cons.2 ⟨hfiller, hbefore⟩, h⟩
  | inside hinner place h => exact .inside (.aside ht hinner) place h

theorem completes_text {b' : Builder} {content : String} {place : Position}
    (h : b.text place.line content = .ok b') (hts : Completes p b' ts n) :
    Completes p b (⟨.text content, place⟩ :: ts) n := by
  obtain ⟨path, root⟩ := b
  cases path with
  | nil =>
    dsimp only [text] at h
    split at h
    case isFalse => cases h
    case isTrue hblank =>
      cases h
      cases hts with
      | behind hts => exact .behind (List.forall_mem_cons.2 ⟨hblank, hts⟩)
      | before h =>
        obtain ⟨before, us, after, rfl, hbefore, h⟩ := h
        exact .before ⟨_ :: before, us, after, rfl, List.forall_mem_cons.2 ⟨hblank, hbefore⟩, h⟩
  | cons o os =>
    dsimp only [text] at h
    split at h
    case isTrue ho =>
      cases h
      cases hts with
      | inside hinner finish h =>
        have hinner : Inside p o.kind.holdsText _ _ _ := hinner
        rw [ho] at hinner
        have htext := hinner.text content place
        rw [← ho] at htext
        refine .inside htext finish ?_
        rw [Open.extend, ← String.append_assoc]
        exact h
    case isFalse ho =>
      split at h
      case isFalse => cases h
      case isTrue hblank =>
        cases h
        cases hts with
        | inside hinner finish h =>
          rw [Bool.not_eq_true] at ho
          rw [ho] at hinner
          have hblank := hinner.blank hblank place
          rw [← ho] at hblank
          exact .inside hblank finish h

theorem completes_element {us : List PlacedToken} {m : Node} (hm : Element p us m)
    (hb : b.AcceptsElement) (h : Completes p (b.add m) ts n) : Completes p b (us ++ ts) n := by
  obtain ⟨path, root⟩ := b
  cases path with
  | nil =>
    cases root with
    | some r => exact absurd rfl hb
    | none =>
      cases h with
      | behind hts =>
        exact .before ⟨[], us, ts, rfl, fun t ht => absurd ht List.not_mem_nil, hm, hts⟩
  | cons o os =>
    cases h with
    | inside hinner place h =>
      rw [← List.append_assoc]
      refine .inside (o := o) (.element hm hinner) place ?_
      rw [Open.extend, List.reverse_cons, List.append_assoc]
      exact h

theorem completes_startTag {b' : Builder} {tag : String} {attributes : List (String × String)}
    {selfClosing : Bool} {start : Position}
    (h : b.startTag p start.line tag attributes selfClosing = .ok b')
    (hts : Completes p b' ts n) :
    Completes p b (⟨.startTag tag attributes selfClosing, start⟩ :: ts) n := by
  rw [startTag] at h
  split at h
  case isTrue => cases h
  case isFalse hb =>
    split at h
    case h_1 => cases h
    case h_2 kind htag =>
      cases h
      cases selfClosing with
      | true => exact completes_element (.selfClosing htag attributes start) hb hts
      | false =>
        cases hts with
        | @inside o os root inner ts ns data n hinner place h =>
          have helement := Element.enclosing htag attributes start place hinner
          rw [Open.extend, Open.close, List.append_nil, List.reverse_reverse,
            String.empty_append] at h
          have hall := completes_element helement hb h
          rw [List.cons_append, List.append_assoc] at hall
          exact hall

theorem completes_endTag {b' : Builder} {tag : String} {place : Position}
    (h : b.endTag p place.line tag = .ok b') (hts : Completes p b' ts n) :
    Completes p b (⟨.endTag tag, place⟩ :: ts) n := by
  obtain ⟨path, root⟩ := b
  rw [endTag] at h
  split at h
  case h_1 => cases h
  case h_2 o os hpath =>
    split at h
    case isFalse => cases h
    case isTrue htag =>
      cases h
      cases hpath
      subst htag
      refine .inside (.nil _) place ?_
      rw [Open.extend_nil]
      exact hts

theorem completes_of_finish {line : Nat} (h : b.finish line = .ok n) : Completes p b [] n := by
  obtain ⟨path, root⟩ := b
  rw [finish] at h
  split at h
  case h_1 => cases h
  case h_2 hpath =>
    cases hpath
    split at h
    case h_2 => cases h
    case h_1 m hroot =>
      cases hroot
      cases h
      exact .behind fun t ht => absurd ht List.not_mem_nil

/-- Whatever the reader accepts, from any state, completes what it has read before. -/
theorem completes_of_run {us : List PlacedToken} (h : b.run p us = .ok n) :
    Completes p b (beforeEnd us) n := by
  induction us generalizing b with
  | nil => exact completes_of_finish h
  | cons t us ih =>
    obtain ⟨token, place⟩ := t
    cases token with
    | endOfInput => exact completes_of_finish h
    | comment content => exact completes_aside trivial (ih h)
    | declaration content => exact completes_aside trivial (ih h)
    | text content =>
      obtain ⟨b', hb', h⟩ := Attempt.bind_eq_ok_iff.1 h
      exact completes_text hb' (ih h)
    | endTag tag =>
      obtain ⟨b', hb', h⟩ := Attempt.bind_eq_ok_iff.1 h
      exact completes_endTag hb' (ih h)
    | startTag tag attributes selfClosing =>
      obtain ⟨b', hb', h⟩ := Attempt.bind_eq_ok_iff.1 h
      exact completes_startTag hb' (ih h)

theorem exists_behind_end (p : PlatformSet) (us : List PlacedToken) :
    ∃ rest line, us = beforeEnd us ++ rest ∧ ∀ b : Builder, b.run p rest = b.finish line := by
  induction us with
  | nil => exact ⟨[], 0, rfl, fun b => rfl⟩
  | cons t us ih =>
    obtain ⟨rest, line, hus, hrest⟩ := ih
    by_cases ht : t.token = .endOfInput
    · obtain ⟨token, place⟩ := t
      cases ht
      exact ⟨_, place.line, rfl, fun b => rfl⟩
    · refine ⟨rest, line, ?_, hrest⟩
      rw [beforeEnd_cons ht, List.cons_append]
      exact congrArg (t :: ·) hus

end Builder

theorem ofTokens_eq_ok_iff {p : PlatformSet} {us : List PlacedToken} {n : Node} :
    ofTokens p us = .ok n ↔ Document p (beforeEnd us) n := by
  constructor
  · intro h
    cases Builder.completes_of_run h with
    | before h => exact h
  · intro h
    obtain ⟨rest, line, hus, hrest⟩ := Builder.exists_behind_end p us
    rw [hus]
    exact Builder.run_of_completes (.before h) hrest

/-- The reader accepts exactly the documents, and yields the element that they write. Any other
list of tokens, with or without an end, leads to an error. -/
theorem document_of_ofTokens {ts : List PlacedToken} (h : ∀ t ∈ ts, t.token ≠ .endOfInput)
    (p : PlatformSet) (place : Position) :
    (∀ n, ofTokens p (ts ++ [⟨.endOfInput, place⟩]) = .ok n ↔ Document p ts n) ∧
      ∀ us, (∃ n, ofTokens p us = .ok n ∧ Document p (beforeEnd us) n) ∨
        ∃ e, ofTokens p us = .error e := by
  constructor
  · intro n
    rw [ofTokens_eq_ok_iff, beforeEnd_append h]
  · intro us
    cases hus : ofTokens p us with
    | ok n => exact .inl ⟨n, rfl, ofTokens_eq_ok_iff.1 hus⟩
    | error e => exact .inr ⟨e, rfl⟩

def describedTokens : List PlacedToken := [
  ⟨.declaration "xml", ⟨1, 1⟩⟩, ⟨.text "\n", ⟨1, 6⟩⟩,
  ⟨.startTag "class" [("name", "A")] false, ⟨2, 1⟩⟩, ⟨.text "\n", ⟨2, 17⟩⟩,
  ⟨.startTag "doc" [] false, ⟨3, 1⟩⟩, ⟨.text "x", ⟨3, 6⟩⟩, ⟨.comment " ", ⟨3, 7⟩⟩,
  ⟨.text " y", ⟨3, 15⟩⟩, ⟨.endTag "doc", ⟨3, 17⟩⟩,
  ⟨.startTag "method" [("name", "f")] true, ⟨3, 23⟩⟩, ⟨.endTag "class", ⟨3, 41⟩⟩]

def describedNode : Node :=
  ⟨.classType, .ofList [("name", "A")],
    [⟨.doc, .ofList [], [], "x y", .linuxOnly, 3⟩,
      ⟨.method, .ofList [("name", "f")], [], "", .linuxOnly, 3⟩], "", .linuxOnly, 2⟩

theorem document_of_describedTokens : (∀ t ∈ describedTokens, t.token ≠ .endOfInput) ∧
    ofTokens .linuxOnly (describedTokens ++ [⟨.endOfInput, ⟨3, 49⟩⟩]) = .ok describedNode ∧
    Document .linuxOnly describedTokens describedNode ∧
    ∃ e, ofTokens .linuxOnly describedTokens.dropLast = .error e := by
  have hends : ∀ t ∈ describedTokens, t.token ≠ .endOfInput := by decide
  have hread : ofTokens .linuxOnly (describedTokens ++ [⟨.endOfInput, ⟨3, 49⟩⟩]) =
      .ok describedNode := rfl
  obtain ⟨hdocument, -⟩ := document_of_ofTokens hends .linuxOnly ⟨3, 49⟩
  exact ⟨hends, hread, (hdocument describedNode).1 hread, _, rfl⟩

end GirBind.Node
