import GirBind.Doc.Recognize
import GirBind.SymbolTable.Basic

namespace GirBind.Doc

/-- A converted text, and the number of references in it that led nowhere. -/
structure Converted where
  text : String
  misses : Nat
deriving DecidableEq

def Converted.ofText (text : String) : Converted := ⟨text, 0⟩

def inlineCode (text : String) : String := "\x7b@code " ++ text ++ "\x7d"

def inlineLink (target : String) : String := "\x7b@link " ++ target ++ "\x7d"

structure Context where
  table : SymbolTable
  library : String

namespace Context

def qualifier (ctx : Context) (library : String) : String :=
  if library = ctx.library then "" else s!"{ctx.table.package library}."

def typeLink? (ctx : Context) (library : Option String) (name : String) : Option String :=
  let name :=
    match library with
    | some library => s!"{library}.{name}"
    | none => name
  (ctx.table.lookup? ctx.library name).map fun e =>
    ctx.qualifier e.library ++ Java.simpleType e.type.name

/-- The class and member of a declaration. What no type declares is in the class named after the
namespace. -/
def symbolLink (ctx : Context) (y : Symbol) (isConstant : Bool) : String :=
  let owner :=
    match y.owner with
    | some type => Java.simpleType type
    | none => y.library
  let member := if isConstant then Text.upper y.name else Java.memberName y.name
  s!"{ctx.qualifier y.library}{owner}#{member}"

def memberLink (owner member : String) : String := inlineLink s!"{owner}#{member}"

def lastComponent (name : String) : String :=
  .ofList (name.toList.reverse.takeWhile (· != '.')).reverse

def constructorLink? (ctx : Context) (path : LinkPath) : Option String := do
  let type ← path.part2
  let target ← ctx.typeLink? path.part1 type
  return memberLink target (lastComponent target)

def methodLink? (ctx : Context) (path : LinkPath) : Option String :=
  match path.part1, path.part2, path.part3 with
  | library, some type, some method =>
    (ctx.typeLink? library type).map fun target => memberLink target (Java.memberName method)
  | some type, some method, none =>
    (ctx.typeLink? none type).map fun target => memberLink target (Java.memberName method)
  | _, _, _ => none

def functionLink? (ctx : Context) (path : LinkPath) : Option String :=
  match path.part1, path.part2, path.part3 with
  | some library, some type, some function =>
    (ctx.typeLink? (some library) type).map fun target =>
      memberLink target (Java.memberName function)
  | some library, some function, none =>
    ((ctx.table.namespace? library).filter fun ns => (ns.function? function).isSome).map fun ns =>
      memberLink (ctx.qualifier ns.name ++ ns.name) (Java.memberName function)
  | _, _, _ => none

def classLink? (ctx : Context) (path : LinkPath) : Option String :=
  match path.part1, path.part2 with
  | some library, some type => (ctx.typeLink? (some library) type).map inlineLink
  | some type, none => (ctx.typeLink? none type).map inlineLink
  | _, _ => none

def identifierLink? (ctx : Context) (path : LinkPath) : Option String := do
  let y ← path.part1.bind ctx.table.symbol?
  return inlineLink (ctx.symbolLink y (y.node.kind == .member || y.node.kind == .constant))

/-- A reference that leads nowhere is shown as code. -/
def orMiss (reference : String) : Option String → Converted
  | some text => ⟨text, 0⟩
  | none => ⟨inlineCode reference, 1⟩

/-- A link by its kind. Links of other kinds are shown as code. -/
def link (ctx : Context) (kind : String) (path : LinkPath) : Converted :=
  match kind with
  | "ctor" =>
    orMiss path.text <|
      if path.part3 = some "new" then ctx.constructorLink? path else ctx.methodLink? path
  | "method" | "vfunc" => orMiss path.text (ctx.methodLink? path)
  | "func" => orMiss path.text (ctx.functionLink? path)
  | "class" | "iface" | "struct" | "enum" | "flags" | "error" | "callback" | "alias" | "type" =>
    orMiss path.text (ctx.classLink? path)
  | "id" => orMiss path.text (ctx.identifierLink? path)
  | _ => .ofText (inlineCode path.text)

def identifier (ctx : Context) (name : String) : Converted :=
  match name with
  | "NULL" => .ofText (inlineCode "null")
  | "TRUE" => .ofText (inlineCode "true")
  | "FALSE" => .ofText (inlineCode "false")
  | _ => orMiss name ((ctx.table.symbol? name).map fun y => inlineLink (ctx.symbolLink y true))

def nativeType (ctx : Context) (name : String) : Converted :=
  orMiss name ((ctx.table.nativeType? name).map fun e =>
    inlineLink (ctx.qualifier e.library ++ Java.simpleType e.type.name))

end Context

def escapeQuotes (text : String) : String :=
  .ofList (text.toList.flatMap fun c => if c = '\x22' then ['\\', c] else [c])

inductive ListState
  | outside
  | inside
deriving DecidableEq

namespace ListState

def bullet : ListState → String
  | outside => "<ul>\n<li>"
  | inside => "<li>"

def paragraph : ListState → String
  | outside => "\n<p>\n"
  | inside => "\n</ul>\n<p>\n"

def next (state : ListState) : Item → ListState
  | .bullet => inside
  | .paragraph => outside
  | _ => state

end ListState

def Item.render (ctx : Context) (state : ListState) : Item → Converted
  | codeBlock content => .ofText ("<pre>" ++ inlineCode content ++ "</pre>")
  | code content => .ofText (inlineCode content)
  | link kind path => ctx.link kind path
  | identifier name => ctx.identifier name
  | nativeType name => ctx.nativeType name
  | parameter name => .ofText (inlineCode name)
  | hyperlink description url => .ofText s!"<a href=\"{url}\">{description}</a>"
  | image description url =>
    let text := escapeQuotes description
    .ofText s!"<img src=\"./doc-files/{url}\" alt=\"{text}\">"
  | header level title => .ofText s!"<h{level}>{title}</h{level}>\n"
  | bullet => .ofText state.bullet
  | strong content => .ofText s!"<strong>{content}</strong>"
  | tag content => .ofText s!"&lt;{content}&gt;"
  | paragraph => .ofText state.paragraph

def renderSegments (ctx : Context) : ListState → List Segment → List Converted
  | _, [] => []
  | state, .plain c :: rest => .ofText (.singleton c) :: renderSegments ctx state rest
  | state, .item i _ :: rest => i.render ctx state :: renderSegments ctx (state.next i) rest

def convert (ctx : Context) (text : String) : Converted :=
  let parts := renderSegments ctx .outside (Segment.ofText true text.toList)
  ⟨.join (parts.map Converted.text), parts.foldl (fun n part => n + part.misses) 0⟩

end GirBind.Doc
