import GirBind.Markup.Token
import GirBind.Node.Basic
import GirBind.Text.Blank

namespace GirBind

inductive TreeFault
  | multipleRoots
  | outsideRoot (display : String)
  | emptyDocument
  | unknownElement (tag : String)
  | mismatchedEnd (wanted found : String)
  | characterData (tag : String)
  | unclosed (tag : String)
deriving DecidableEq

def TreeFault.message : TreeFault → String
  | multipleRoots => "Multiple root elements"
  | outsideRoot display => s!"Unexpected {display} outside the root element"
  | emptyDocument => "Empty document"
  | unknownElement tag => s!"Unknown element <{tag}>"
  | mismatchedEnd wanted found => s!"Expected </{wanted}>, found </{found}>"
  | characterData tag => s!"Unexpected character data in <{tag}>"
  | unclosed tag => s!"Unclosed element <{tag}>"

namespace Node

open Markup (Token PlacedToken)

/-- An element whose end tag has not been read. Its children are in reverse. -/
structure Open where
  tag : String
  kind : NodeKind
  attributes : OrderedMap String
  children : List Node
  text : String
  line : Nat

def Open.close (platforms : PlatformSet) (o : Open) : Node :=
  ⟨o.kind, o.attributes, o.children.reverse, o.text, platforms, o.line⟩

/-- How far a document has been read: the elements around the current place from the inside out,
and the root element once it is complete. -/
structure Builder where
  path : List Open
  root : Option Node

def Builder.start : Builder := ⟨[], none⟩

/-- Adds a complete element to the innermost open one. Without one it is the root. -/
def Builder.add (b : Builder) (n : Node) : Builder :=
  match b.path with
  | [] => { b with root := some n }
  | o :: os => { b with path := { o with children := n :: o.children } :: os }

def Builder.startTag (b : Builder) (platforms : PlatformSet) (line : Nat) (tag : String)
    (attributes : List (String × String)) (selfClosing : Bool) :
    Except (Located TreeFault) Builder :=
  if b.path.isEmpty && b.root.isSome then
    .error ⟨line, .multipleRoots⟩
  else
    match NodeKind.ofTag? tag with
    | none => .error ⟨line, .unknownElement tag⟩
    | some kind =>
      let o : Open := ⟨tag, kind, .ofList attributes, [], "", line⟩
      .ok (if selfClosing then b.add (o.close platforms) else { b with path := o :: b.path })

def Builder.endTag (b : Builder) (platforms : PlatformSet) (line : Nat) (tag : String) :
    Except (Located TreeFault) Builder :=
  match b.path with
  | [] => .error ⟨line, .outsideRoot (Token.endTag tag).display⟩
  | o :: os =>
    if tag = o.tag then
      .ok ({ b with path := os }.add (o.close platforms))
    else
      .error ⟨line, .mismatchedEnd o.tag tag⟩

def Builder.text (b : Builder) (line : Nat) (content : String) :
    Except (Located TreeFault) Builder :=
  match b.path with
  | [] =>
    if Text.allBlank content then .ok b
    else .error ⟨line, .outsideRoot (Token.text content).display⟩
  | o :: os =>
    if o.kind.holdsText then
      .ok { b with path := { o with text := o.text ++ content } :: os }
    else if Text.allBlank content then
      .ok b
    else
      .error ⟨line, .characterData o.tag⟩

def Builder.finish (b : Builder) (line : Nat) : Except (Located TreeFault) Node :=
  match b.path with
  | o :: _ => .error ⟨line, .unclosed o.tag⟩
  | [] =>
    match b.root with
    | some n => .ok n
    | none => .error ⟨1, .emptyDocument⟩

def Builder.run (platforms : PlatformSet) (b : Builder) :
    List PlacedToken → Except (Located TreeFault) Node
  | [] => b.finish 0
  | ⟨token, position⟩ :: rest =>
    match token with
    | .endOfInput => b.finish position.line
    | .comment _ | .declaration _ => run platforms b rest
    | .text content => b.text position.line content >>= (run platforms · rest)
    | .endTag tag => b.endTag platforms position.line tag >>= (run platforms · rest)
    | .startTag tag attributes selfClosing =>
      b.startTag platforms position.line tag attributes selfClosing >>= (run platforms · rest)

def ofTokens (platforms : PlatformSet) (tokens : List PlacedToken) :
    Except (Located TreeFault) Node :=
  Builder.start.run platforms tokens

end Node
end GirBind
