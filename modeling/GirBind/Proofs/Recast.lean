import GirBind.Proofs.Attempt
import GirBind.Proofs.OrderedMap
import GirBind.Source

namespace GirBind

open Markup (Position PlacedToken)

/-- The tokens of a document without the character data of some kinds of elements. The path holds
the kinds of the elements that are open, with none for an unknown one. -/
def Node.withoutText (drops : NodeKind → Bool) :
    List (Option NodeKind) → List PlacedToken → List PlacedToken
  | _, [] => []
  | path, t :: rest =>
    match t.token with
    | .startTag tag _ selfClosing =>
      t :: withoutText drops (if selfClosing then path else NodeKind.ofTag? tag :: path) rest
    | .endTag _ => t :: withoutText drops path.tail rest
    | .text _ =>
      if path.head?.any (·.any drops) then withoutText drops path rest
      else t :: withoutText drops path rest
    | .comment _ | .declaration _ | .endOfInput => t :: withoutText drops path rest

theorem Node.withoutText_none (path : List (Option NodeKind)) (ts : List PlacedToken) :
    withoutText (fun _ => false) path ts = ts := by
  induction ts generalizing path with
  | nil => rfl
  | cons t ts ih =>
    have hpath : (path.head?.any fun k => k.any fun _ => false) = false := by
      cases path with
      | nil => rfl
      | cons k path =>
        cases k with
        | none => rfl
        | some k => rfl
    rw [withoutText]
    split
    case h_3 => rw [hpath, ih]; rfl
    all_goals rw [ih]

/-- A change of elements that keeps their kinds and attributes and goes through their children, with
what it makes of types, platforms and places. Some kinds lose their text. -/
structure Recast where
  node : Node → Node
  type : RegisteredType → RegisteredType
  drops : NodeKind → Bool
  holdsText_of_drops : ∀ {k}, drops k = true → k.holdsText = true
  platforms : PlatformSet → PlatformSet
  position : Position → Position
  line : Nat → Nat
  line_position : ∀ q, (position q).line = line q.line
  line_zero : line 0 = 0
  node_eq : ∀ n, node n = ⟨n.kind, n.attributes, n.children.map node,
    if drops n.kind then "" else n.text, platforms n.platforms, line n.line⟩
  ofNode?_node : ∀ n, RegisteredType.ofNode? (node n) = (RegisteredType.ofNode? n).map type

namespace Recast

variable (f : Recast)

theorem kind_node (n : Node) : (f.node n).kind = n.kind := by rw [f.node_eq]

theorem attributes_node (n : Node) : (f.node n).attributes = n.attributes := by rw [f.node_eq]

theorem children_node (n : Node) : (f.node n).children = n.children.map f.node := by
  rw [f.node_eq]

theorem line_node (n : Node) : (f.node n).line = f.line n.line := by rw [f.node_eq]

def fault {α : Type u} (l : Located α) : Located α := ⟨f.line l.line, l.fault⟩

def library (ns : Namespace) : Namespace :=
  { ns with
    types := ns.types.map f.type
    functions := ns.functions.map f.node
    constants := ns.constants.map f.node
    other := ns.other.map f.node
    platforms := f.platforms ns.platforms }

def draft (d : Repository.Draft) : Repository.Draft := { d with library := d.library.map f.library }

def repository (r : Repository) : Repository :=
  { r with library := f.library r.library, platforms := f.platforms r.platforms }

theorem requireName_node (n : Node) :
    (f.node n).requireName = n.requireName.mapError f.fault := by
  have hname : (f.node n).name? = n.name? := by
    rw [Node.name?, Node.attr?, f.attributes_node]
    rfl
  rw [Node.requireName, Node.requireName, hname, f.line_node, f.kind_node]
  cases n.name? with
  | none => rfl
  | some name => rfl

theorem addChild (ns : Namespace) (n : Node) :
    (f.library ns).addChild (f.node n) = ((ns.addChild n).mapError f.fault).map f.library := by
  rw [Namespace.addChild, Namespace.addChild, f.ofNode?_node, f.requireName_node, f.kind_node,
    f.line_node]
  cases RegisteredType.ofNode? n with
  | some type =>
    cases n.requireName with
    | error e => rfl
    | ok name =>
      change (if (ns.types.map f.type).contains name = true then Except.error _
          else Except.ok _) =
        Except.map f.library (Except.mapError f.fault
          (if ns.types.contains name = true then Except.error _ else Except.ok _))
      rw [OrderedMap.contains_map]
      by_cases hname : ns.types.contains name = true
      · rw [if_pos hname, if_pos hname]
        rfl
      · rw [if_neg hname, if_neg hname]
        simp only [Except.mapError, Except.map, library, OrderedMap.insert_map]
  | none =>
    have hlast (l : List Node) : l.map f.node ++ [f.node n] = (l ++ [n]).map f.node := by
      rw [List.map_append, List.map_singleton]
    generalize n.kind = kind
    cases kind with
    | function | constant =>
      cases n.requireName with
      | error e => rfl
      | ok name =>
        refine congrArg Except.ok ?_
        simp only [library, hlast]
    | functionMacro | functionInline | docsection | doc | metadata =>
      refine congrArg Except.ok ?_
      simp only [library, hlast]
    | _ => rfl

theorem ofNode_library (p : PlatformSet) (n : Node) :
    Namespace.ofNode (f.platforms p) (f.node n) =
      ((Namespace.ofNode p n).mapError f.fault).map f.library := by
  have hheader (name : String) : Namespace.header (f.platforms p) (f.node n) name =
      f.library (Namespace.header p n name) := by
    rw [Namespace.header, Node.version?, Node.attr?, f.attributes_node]
    rfl
  rw [Namespace.ofNode, Namespace.ofNode, f.requireName_node, f.children_node]
  cases n.requireName with
  | error e => rfl
  | ok name =>
    change List.foldlM _ (Namespace.header (f.platforms p) (f.node n) name) _ = _
    rw [hheader]
    exact Attempt.foldlM_map (fun ns m => f.addChild ns m) n.children _

theorem draft_addChild (p : PlatformSet) (d : Repository.Draft) (n : Node) :
    (f.draft d).addChild (f.platforms p) (f.node n) =
      ((d.addChild p n).mapError f.fault).map f.draft := by
  have hversion : (f.node n).version? = n.version? := by
    rw [Node.version?, Node.attr?, f.attributes_node]
    rfl
  rw [Repository.Draft.addChild, Repository.Draft.addChild, f.requireName_node, f.ofNode_library,
    f.kind_node, f.line_node, hversion]
  generalize n.kind = kind
  cases kind with
  | dependency | package | cInclude =>
    cases n.requireName with
    | error e => rfl
    | ok name => rfl
  | library =>
    obtain ⟨includes, packages, cIncludes, library⟩ := d
    cases library with
    | some ns => rfl
    | none =>
      cases Namespace.ofNode p n with
      | error e => rfl
      | ok ns => rfl
  | _ => rfl

/-- What is read of a changed element is the change of what is read of it. -/
theorem ofNode_repository (p : PlatformSet) (root : Node) :
    Repository.ofNode (f.platforms p) (f.node root) =
      ((Repository.ofNode p root).mapError f.fault).map f.repository := by
  have hfold := Attempt.foldlM_map (fun d m => f.draft_addChild p d m) root.children
    ⟨[], [], [], none⟩
  rw [← f.children_node] at hfold
  rw [Repository.ofNode, Repository.ofNode, f.kind_node, f.line_node]
  split
  case isTrue =>
    refine (congrArg (· >>= _) hfold).trans ?_
    cases root.children.foldlM (Repository.Draft.addChild p) ⟨[], [], [], none⟩ with
    | error e => rfl
    | ok d =>
      obtain ⟨includes, packages, cIncludes, library⟩ := d
      cases library with
      | none => rfl
      | some ns => rfl
  case isFalse => rfl

def openElement (o : Node.Open) : Node.Open :=
  { o with
    children := o.children.map f.node
    text := if f.drops o.kind then "" else o.text
    line := f.line o.line }

def builder (b : Node.Builder) : Node.Builder := ⟨b.path.map f.openElement, b.root.map f.node⟩

/-- An empty document has its fault at a place of its own. -/
def treeFault (l : Located TreeFault) : Located TreeFault :=
  if l.fault = .emptyDocument then l else f.fault l

def tokens (path : List (Option NodeKind)) (ts : List PlacedToken) : List PlacedToken :=
  (Node.withoutText f.drops path ts).map fun t => ⟨t.token, f.position t.position⟩

theorem close_openElement (p : PlatformSet) (o : Node.Open) :
    (f.openElement o).close (f.platforms p) = f.node (o.close p) := by
  rw [f.node_eq, Node.Open.close, Node.Open.close, openElement, List.map_reverse]

theorem builder_add (b : Node.Builder) (n : Node) :
    (f.builder b).add (f.node n) = f.builder (b.add n) := by
  obtain ⟨path, root⟩ := b
  cases path with
  | nil => rfl
  | cons o os => rfl

theorem builder_startTag (p : PlatformSet) (b : Node.Builder) (line : Nat) (tag : String)
    (attributes : List (String × String)) (selfClosing : Bool) :
    (f.builder b).startTag (f.platforms p) (f.line line) tag attributes selfClosing =
      ((b.startTag p line tag attributes selfClosing).mapError f.treeFault).map f.builder := by
  have hstart : ((f.builder b).path.isEmpty && (f.builder b).root.isSome) =
      (b.path.isEmpty && b.root.isSome) := by
    rw [builder, List.isEmpty_map, Option.isSome_map]
  rw [Node.Builder.startTag, Node.Builder.startTag, hstart]
  split
  case isTrue => rfl
  case isFalse =>
    cases NodeKind.ofTag? tag with
    | none => rfl
    | some kind =>
      have hopen : (⟨tag, kind, .ofList attributes, [], "", f.line line⟩ : Node.Open) =
          f.openElement ⟨tag, kind, .ofList attributes, [], "", line⟩ := by
        rw [openElement, ite_self]
        rfl
      dsimp only
      rw [hopen]
      refine congrArg Except.ok ?_
      cases selfClosing with
      | false => rfl
      | true =>
        rw [if_pos rfl, if_pos rfl, f.close_openElement]
        exact f.builder_add b _

theorem builder_endTag (p : PlatformSet) (b : Node.Builder) (line : Nat) (tag : String) :
    (f.builder b).endTag (f.platforms p) (f.line line) tag =
      ((b.endTag p line tag).mapError f.treeFault).map f.builder := by
  obtain ⟨path, root⟩ := b
  cases path with
  | nil => rfl
  | cons o os =>
    simp only [Node.Builder.endTag, builder, List.map_cons]
    change (if tag = o.tag then _ else _) = _
    by_cases htag : tag = o.tag
    · rw [if_pos htag, if_pos htag, f.close_openElement]
      exact congrArg Except.ok (f.builder_add ⟨os, root⟩ (o.close p))
    · rw [if_neg htag, if_neg htag]
      rfl

def path (b : Node.Builder) : List (Option NodeKind) := b.path.map fun o => some o.kind

theorem builder_text (b : Node.Builder) (line : Nat) (content : String)
    (h : ¬ (path b).head?.any (·.any f.drops) = true) :
    (f.builder b).text (f.line line) content =
      ((b.text line content).mapError f.treeFault).map f.builder := by
  obtain ⟨os, root⟩ := b
  cases os with
  | nil =>
    simp only [Node.Builder.text, builder, List.map_nil]
    split
    case isTrue => rfl
    case isFalse => rfl
  | cons o os =>
    have hkeeps : ¬ f.drops o.kind = true := h
    simp only [Node.Builder.text, builder, List.map_cons]
    change (if o.kind.holdsText = true then _ else _) = _
    by_cases hkind : o.kind.holdsText = true
    · rw [if_pos hkind, if_pos hkind]
      simp only [Except.mapError, Except.map, builder, List.map_cons, openElement, if_neg hkeeps]
    · rw [if_neg hkind, if_neg hkind]
      split
      case isTrue => rfl
      case isFalse => rfl

theorem builder_text_dropped (b : Node.Builder) (line : Nat) (content : String)
    (h : (path b).head?.any (·.any f.drops) = true) :
    ∃ c, b.text line content = .ok c ∧ f.builder c = f.builder b ∧ path c = path b := by
  obtain ⟨os, root⟩ := b
  cases os with
  | nil => exact absurd h Bool.false_ne_true
  | cons o os =>
    have hdropped : f.drops o.kind = true := h
    refine ⟨⟨{ o with text := o.text ++ content } :: os, root⟩,
      if_pos (f.holdsText_of_drops hdropped), ?_, rfl⟩
    simp only [builder, List.map_cons, openElement, if_pos hdropped]

theorem builder_finish (b : Node.Builder) (line : Nat) :
    (f.builder b).finish (f.line line) = ((b.finish line).mapError f.treeFault).map f.node := by
  obtain ⟨path, root⟩ := b
  cases path with
  | cons o os => rfl
  | nil =>
    cases root with
    | none => rfl
    | some n => rfl

theorem path_add (b : Node.Builder) (n : Node) : path (b.add n) = path b := by
  obtain ⟨path, root⟩ := b
  cases path with
  | nil => rfl
  | cons o os => rfl

variable {f} {p : PlatformSet} {b c : Node.Builder} {line : Nat}

theorem path_startTag {tag : String} {attributes : List (String × String)} {selfClosing : Bool}
    (h : b.startTag p line tag attributes selfClosing = .ok c) :
    path c = if selfClosing then path b else NodeKind.ofTag? tag :: path b := by
  rw [Node.Builder.startTag] at h
  split at h
  case isTrue => cases h
  case isFalse =>
    split at h
    case h_1 => cases h
    case h_2 kind hkind =>
      cases h
      rw [hkind]
      cases selfClosing with
      | false => rfl
      | true => exact path_add b _

theorem path_endTag {tag : String} (h : b.endTag p line tag = .ok c) :
    path c = (path b).tail := by
  obtain ⟨os, root⟩ := b
  cases os with
  | nil => cases h
  | cons o os =>
    simp only [Node.Builder.endTag] at h
    split at h
    case isTrue =>
      cases h
      exact path_add ⟨os, root⟩ _
    case isFalse => cases h

theorem path_text {content : String} (h : b.text line content = .ok c) : path c = path b := by
  obtain ⟨os, root⟩ := b
  cases os with
  | nil =>
    simp only [Node.Builder.text] at h
    split at h
    case isTrue =>
      cases h
      rfl
    case isFalse => cases h
  | cons o os =>
    simp only [Node.Builder.text] at h
    split at h
    case isTrue =>
      cases h
      rfl
    case isFalse =>
      split at h
      case isTrue =>
        cases h
        rfl
      case isFalse => cases h

variable (f p)

/-- What is read of changed tokens is the change of what is read of them. -/
theorem run_tokens (b : Node.Builder) (ts : List PlacedToken) :
    (f.builder b).run (f.platforms p) (f.tokens (path b) ts) =
      ((b.run p ts).mapError f.treeFault).map f.node := by
  induction ts generalizing b with
  | nil =>
    have hfinish := f.builder_finish b 0
    rw [f.line_zero] at hfinish
    exact hfinish
  | cons t ts ih =>
    have hstep {x : Except (Located TreeFault) Node.Builder} {l : List (Option NodeKind)}
        (hl : ∀ c, x = .ok c → path c = l) :
        ((x.mapError f.treeFault).map f.builder >>= (·.run (f.platforms p) (f.tokens l ts))) =
          ((x >>= (·.run p ts)).mapError f.treeFault).map f.node := by
      cases x with
      | error e => rfl
      | ok c =>
        rw [← hl c rfl]
        exact ih c
    obtain ⟨token, position⟩ := t
    cases token with
    | endOfInput =>
      have hfinish := f.builder_finish b position.line
      rw [← f.line_position] at hfinish
      exact hfinish
    | comment => exact ih b
    | declaration => exact ih b
    | text content =>
      rw [tokens, Node.withoutText]
      by_cases hdrops : (path b).head?.any (·.any f.drops) = true
      · obtain ⟨c, hc, hbuilder, hpath⟩ := f.builder_text_dropped b position.line content hdrops
        rw [if_pos hdrops, Node.Builder.run, hc, ← hbuilder, ← hpath]
        exact ih c
      · have htext := f.builder_text b position.line content hdrops
        rw [← f.line_position] at htext
        rw [if_neg hdrops]
        refine (congrArg (· >>= _) htext).trans ?_
        exact hstep fun c hc => path_text hc
    | endTag tag =>
      have hend := f.builder_endTag p b position.line tag
      rw [← f.line_position] at hend
      refine (congrArg (· >>= _) hend).trans ?_
      exact hstep fun c hc => path_endTag hc
    | startTag tag attributes selfClosing =>
      have hstart := f.builder_startTag p b position.line tag attributes selfClosing
      rw [← f.line_position] at hstart
      refine (congrArg (· >>= _) hstart).trans ?_
      exact hstep fun c hc => path_startTag hc

end Recast
end GirBind
