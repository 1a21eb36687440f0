import GirBind.Node.OfTokens
import GirBind.Proofs.Attempt
import GirBind.Proofs.OrderedMap

namespace GirBind.Node

open Markup (Token PlacedToken)

mutual

def withoutLines : Node → Node
  | ⟨kind, attributes, children, text, platforms, _⟩ =>
    ⟨kind, attributes, allWithoutLines children, text, platforms, 0⟩

def allWithoutLines : List Node → List Node
  | [] => []
  | n :: ns => withoutLines n :: allWithoutLines ns

end

theorem allWithoutLines_eq_map (ns : List Node) : allWithoutLines ns = ns.map withoutLines := by
  induction ns with
  | nil => rw [allWithoutLines, List.map_nil]
  | cons n ns ih => rw [allWithoutLines, List.map_cons, ih]

/-- The element as it is read from a document: on its platforms, at no place. -/
def asRead (p : PlatformSet) (n : Node) : Node := (n.withPlatforms p).withoutLines

theorem asRead_eq (p : PlatformSet) (n : Node) :
    n.asRead p = ⟨n.kind, n.attributes, n.children.map (asRead p), n.text, p, 0⟩ := by
  cases n with
  | mk kind attributes children text platforms line =>
    simp only [asRead, withPlatforms, withoutLines, allWithPlatforms_eq_map,
      allWithoutLines_eq_map, List.map_map]
    rfl

/-- The character data of an element is its text. Between other elements there are only blanks. -/
def OwnText (n : Node) (data : String) : Prop :=
  if n.kind.holdsText then data = n.text else n.text = "" ∧ Text.allBlank data = true

inductive Content : List Node → String → List Token → Prop
  | nil : Content [] "" []
  | text {ns : List Node} {data : String} {ts : List Token} (piece : String)
    (h : Content ns data ts) : Content ns (piece ++ data) (.text piece :: ts)
  | comment {ns : List Node} {data : String} {ts : List Token} (content : String)
    (h : Content ns data ts) : Content ns data (.comment content :: ts)
  | declaration {ns : List Node} {data : String} {ts : List Token} (content : String)
    (h : Content ns data ts) : Content ns data (.declaration content :: ts)
  | element {n : Node} {ns : List Node} {inside data : String} {inner ts : List Token}
    (hinner : Content n.children inside inner) (hinside : n.OwnText inside)
    (h : Content ns data ts) :
    Content (n :: ns) data (.startTag n.kind.tag n.attributes.entries false ::
      (inner ++ .endTag n.kind.tag :: ts))
  | selfClosing {n : Node} {ns : List Node} {data : String} {ts : List Token}
    (hchildren : n.children = []) (htext : n.text = "") (h : Content ns data ts) :
    Content (n :: ns) data (.startTag n.kind.tag n.attributes.entries true :: ts)

namespace Builder

variable {p : PlatformSet} {b : Builder} {ns : List Node} {data : String}

def write (b : Builder) (data : String) : Builder :=
  match b.path with
  | [] => b
  | o :: os => if o.kind.holdsText then { b with path := { o with text := o.text ++ data } :: os }
      else b

/-- The elements and the character data may come next: there is one root element and nothing but
blanks around it, and character data stands in elements that hold it. -/
def Accepts (b : Builder) (ns : List Node) (data : String) : Prop :=
  match b.path with
  | [] => Text.allBlank data = true ∧ (b.root.toList.length + ns.length ≤ 1)
  | o :: _ => o.kind.holdsText = true ∨ Text.allBlank data = true

theorem write_empty (b : Builder) : b.write "" = b := by
  obtain ⟨path, root⟩ := b
  cases path with
  | nil => rfl
  | cons o os =>
    simp only [write, String.append_empty]
    split
    · rfl
    · rfl

theorem write_append (b : Builder) (x y : String) : (b.write x).write y = b.write (x ++ y) := by
  obtain ⟨path, root⟩ := b
  cases path with
  | nil => rfl
  | cons o os =>
    by_cases ho : o.kind.holdsText = true
    · simp only [write, ho, if_true, String.append_assoc]
    · simp only [write, if_neg ho]

theorem write_add (b : Builder) (n : Node) (x : String) : (b.add n).write x = (b.write x).add n := by
  obtain ⟨path, root⟩ := b
  cases path with
  | nil => rfl
  | cons o os =>
    by_cases ho : o.kind.holdsText = true
    · simp only [write, add, ho, if_true]
    · simp only [write, add, if_neg ho]

theorem allBlank_append {x y : String} :
    Text.allBlank (x ++ y) = true ↔ Text.allBlank x = true ∧ Text.allBlank y = true := by
  rw [Text.allBlank, Text.allBlank, Text.allBlank, String.toList_append, List.all_append,
    Bool.and_eq_true]

theorem text_eq_write {piece : String} (h : b.Accepts ns (piece ++ data)) (line : Nat) :
    b.text line piece = .ok (b.write piece) ∧ (b.write piece).Accepts ns data := by
  obtain ⟨path, root⟩ := b
  cases path with
  | nil =>
    obtain ⟨hblank, hone⟩ := h
    rw [allBlank_append] at hblank
    exact ⟨if_pos hblank.1, hblank.2, hone⟩
  | cons o os =>
    by_cases ho : o.kind.holdsText = true
    · simp only [text, write, Accepts, ho, if_true, true_or, and_self]
    · have hblank := allBlank_append.1 (h.resolve_left ho)
      simp only [text, write, Accepts, if_neg ho, hblank.1, hblank.2, if_true, or_true, and_self]

theorem Accepts.add {n : Node} (h : b.Accepts (n :: ns) data) (m : Node) :
    (b.add m).Accepts ns data := by
  obtain ⟨path, root⟩ := b
  cases path with
  | nil =>
    obtain ⟨hblank, hone⟩ := h
    rw [List.length_cons] at hone
    refine ⟨hblank, ?_⟩
    rw [Builder.add, Option.toList_some, List.length_singleton]
    omega
  | cons o os => exact h

theorem Accepts.startTag_eq {n : Node} (h : b.Accepts (n :: ns) data) (line : Nat)
    (selfClosing : Bool) :
    b.startTag p line n.kind.tag n.attributes.entries selfClosing =
      .ok (if selfClosing then b.add ⟨n.kind, n.attributes, [], "", p, line⟩
        else { b with path := ⟨n.kind.tag, n.kind, n.attributes, [], "", line⟩ :: b.path }) := by
  have hroot : ¬ (b.path.isEmpty && b.root.isSome) = true := by
    obtain ⟨path, root⟩ := b
    cases path with
    | nil =>
      cases root with
      | none => exact Bool.false_ne_true
      | some r =>
        have hone := h.2
        rw [Option.toList_some, List.length_singleton, List.length_cons] at hone
        omega
    | cons o os => exact Bool.false_ne_true
  rw [startTag, if_neg hroot, NodeKind.ofTag_tag, OrderedMap.ofList_entries]
  rfl

theorem foldl_add_cons (o : Open) (os : List Open) (root : Option Node) (ms : List Node) :
    ms.foldl add ⟨o :: os, root⟩ = ⟨{ o with children := ms.reverse ++ o.children } :: os, root⟩ := by
  induction ms generalizing o with
  | nil => rfl
  | cons m ms ih =>
    rw [List.foldl_cons, List.reverse_cons, List.append_assoc]
    exact ih _

theorem foldl_add_write (b : Builder) (ms : List Node) (x : String) :
    ms.foldl add (b.write x) = (ms.foldl add b).write x := by
  induction ms generalizing b with
  | nil => rfl
  | cons m ms ih => rw [List.foldl_cons, List.foldl_cons, ← write_add, ih]

theorem endTag_eq (o : Open) (os : List Open) (root : Option Node) (line : Nat) :
    endTag ⟨o :: os, root⟩ p line o.tag = .ok (add ⟨os, root⟩ (o.close p)) :=
  if_pos rfl

theorem write_foldl_add {n : Node} {inside : String} (h : n.OwnText inside) (tag : String)
    (line : Nat) (os : List Open) (root : Option Node) (ms : List Node) :
    (ms.foldl add ⟨⟨tag, n.kind, n.attributes, [], "", line⟩ :: os, root⟩).write inside =
      ⟨⟨tag, n.kind, n.attributes, ms.reverse, n.text, line⟩ :: os, root⟩ := by
  rw [foldl_add_cons, List.append_nil]
  rw [OwnText] at h
  by_cases hkind : n.kind.holdsText = true
  · rw [if_pos hkind] at h
    simp only [write, hkind, if_true, h, String.empty_append]
  · rw [if_neg hkind] at h
    simp only [write, if_neg hkind, h.1]

theorem run_content {ts : List Token} (h : Content ns data ts) {placed : List PlacedToken}
    (hplaced : placed.map PlacedToken.token = ts) (hb : b.Accepts ns data) :
    ∃ ms : List Node, ms.map withoutLines = ns.map (asRead p) ∧ ∀ rest,
      b.run p (placed ++ rest) = ((ms.foldl add b).write data).run p rest := by
  -- by how the content is written, for any elements that are open around it
  induction h generalizing b placed with
  | nil =>
    obtain rfl := List.map_eq_nil_iff.1 hplaced
    refine ⟨[], rfl, ?_⟩
    intro rest
    rw [List.foldl_nil, write_empty, List.nil_append]
  | text piece _ ih =>
    obtain ⟨⟨token, position⟩, later, rfl, rfl, hlater⟩ := List.map_eq_cons_iff.1 hplaced
    obtain ⟨hwrite, hb⟩ := text_eq_write hb position.line
    obtain ⟨ms, hms, hrun⟩ := ih hlater hb
    refine ⟨ms, hms, ?_⟩
    intro rest
    rw [List.cons_append, run, hwrite]
    rw [← write_append, ← foldl_add_write]
    exact hrun rest
  | comment content _ ih =>
    obtain ⟨⟨token, position⟩, later, rfl, rfl, hlater⟩ := List.map_eq_cons_iff.1 hplaced
    obtain ⟨ms, hms, hrun⟩ := ih hlater hb
    exact ⟨ms, hms, hrun⟩
  | declaration content _ ih =>
    obtain ⟨⟨token, position⟩, later, rfl, rfl, hlater⟩ := List.map_eq_cons_iff.1 hplaced
    obtain ⟨ms, hms, hrun⟩ := ih hlater hb
    exact ⟨ms, hms, hrun⟩
  | @element n ns inside data inner ts _ hinside _ ihinner ih =>
    obtain ⟨⟨token, position⟩, later, rfl, rfl, hlater⟩ := List.map_eq_cons_iff.1 hplaced
    obtain ⟨within, behind, rfl, hwithin, hbehind⟩ := List.map_eq_append_iff.1 hlater
    obtain ⟨⟨token, place⟩, after, rfl, rfl, hafter⟩ := List.map_eq_cons_iff.1 hbehind
    have hopen : Accepts ⟨⟨n.kind.tag, n.kind, n.attributes, [], "", position.line⟩ :: b.path,
        b.root⟩ n.children inside := by
      rw [OwnText] at hinside
      by_cases hkind : n.kind.holdsText = true
      · exact .inl hkind
      · rw [if_neg hkind] at hinside
        exact .inr hinside.2
    obtain ⟨cs, hcs, hinner⟩ := ihinner hwithin hopen
    let m : Node := ⟨n.kind, n.attributes, cs, n.text, p, position.line⟩
    obtain ⟨ms, hms, hrun⟩ := ih hafter (hb.add m)
    refine ⟨m :: ms, ?_, ?_⟩
    · rw [List.map_cons, List.map_cons, hms, asRead_eq, withoutLines, allWithoutLines_eq_map, hcs]
    · intro rest
      rw [List.cons_append, run, hb.startTag_eq, List.append_assoc, List.cons_append]
      refine (hinner _).trans ?_
      rw [write_foldl_add hinside, run, endTag_eq, Open.close, List.reverse_reverse]
      exact hrun rest
  | @selfClosing n ns data ts hchildren htext _ ih =>
    obtain ⟨⟨token, position⟩, later, rfl, rfl, hlater⟩ := List.map_eq_cons_iff.1 hplaced
    let m : Node := ⟨n.kind, n.attributes, [], "", p, position.line⟩
    obtain ⟨ms, hms, hrun⟩ := ih hlater (hb.add m)
    refine ⟨m :: ms, ?_, ?_⟩
    · rw [List.map_cons, List.map_cons, hms, asRead_eq, hchildren, htext]
      rfl
    · intro rest
      rw [List.cons_append, run, hb.startTag_eq]
      exact hrun rest

end Builder

/-- A document with one root element is read as that element. -/
theorem ofTokens_content {p : PlatformSet} {n : Node} {layout : String} {ts : List Token}
    {placed : List PlacedToken} (h : Content [n] layout ts) (hlayout : Text.allBlank layout = true)
    (hplaced : placed.map PlacedToken.token = ts ++ [.endOfInput]) :
    ∃ m, ofTokens p placed = .ok m ∧ m.withoutLines = n.asRead p := by
  obtain ⟨inside, last, rfl, hinside, hlast⟩ := List.map_eq_append_iff.1 hplaced
  obtain ⟨⟨token, position⟩, after, rfl, rfl, -⟩ := List.map_eq_cons_iff.1 hlast
  have hstart : Builder.start.Accepts [n] layout := ⟨hlayout, Nat.le_refl 1⟩
  obtain ⟨ms, hms, hrun⟩ := Builder.run_content (p := p) h hinside hstart
  rw [List.map_singleton, List.map_eq_singleton_iff] at hms
  obtain ⟨m, rfl, hm⟩ := hms
  exact ⟨m, hrun _, hm⟩

end GirBind.Node
