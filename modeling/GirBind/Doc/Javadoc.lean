import GirBind.Doc.Render
import GirBind.Signature.Callable
import GirBind.Text.Lines

namespace GirBind.Doc

/-- A piece of a comment: a text, with a tag in front of its first line. -/
structure Entry where
  tag : Option String
  body : Converted

namespace Entry

def escapeBackslashes (cs : List Char) : List Char :=
  cs.flatMap fun c => if c = '\\' then ['\\', '\\'] else [c]

def commentLine (tag : Option String) (line : List Char) : String :=
  let start :=
    match tag with
    | some tag => s!" * {tag} "
    | none => " * "
  .ofList (Text.trimEndChars (start.toList ++ escapeBackslashes line))

def lines (e : Entry) : List String :=
  match Text.lines (Text.trimChars e.body.text.toList) with
  | [] => []
  | first :: rest => commentLine e.tag first :: rest.map (commentLine none)

end Entry

def comment (entries : List Entry) : Converted :=
  ⟨"/**\n" ++ "\n".intercalate (entries.flatMap Entry.lines) ++ "\n */",
    entries.foldl (fun n e => n + e.body.misses) 0⟩

namespace Context

def entry (ctx : Context) (tag : Option String) (doc : String) : Entry :=
  ⟨tag, convert ctx doc⟩

def nodeComment (ctx : Context) (n : Node) : Option Converted :=
  n.doc?.map fun doc => comment [ctx.entry none doc]

def typeComment (ctx : Context) (t : RegisteredType) : Option Converted :=
  t.node.doc?.map fun doc =>
    comment (ctx.entry none doc ::
      (t.node.version?.map fun v => ⟨some "@version", .ofText v⟩ : Option Entry).toList)

end Context

/-- What the comment on a callable depends on besides its signature. -/
structure CallableUse where
  /-- It becomes a constructor of the class, which has no result to describe. -/
  isPrimary : Bool
  platforms : PlatformSet
  isSignal : Bool

namespace Context

def parameterEntries (ctx : Context) (c : Callable) : List Entry :=
  let hidden := Parameter.hiddenIndexes c.parameters
  c.parameters.zipIdx.filterMap fun (p, i) =>
    if hidden.contains i then
      none
    else
      p.doc.map fun doc =>
        let name := if p.isVariadic then "varargs" else Java.memberName (p.name.getD "")
        ctx.entry (some s!"@param {name}") doc

def returnEntry (ctx : Context) (c : Callable) (use : CallableUse) : List Entry :=
  if use.isPrimary then
    []
  else
    ((c.returnValue.bind Parameter.doc).map (ctx.entry (some "@return"))).toList

/-- The pieces on the exceptions of a call: one for errors, one for missing platforms. -/
def throwsEntries (c : Callable) (use : CallableUse) : List Entry :=
  let failure : Entry := ⟨some "@throws",
    .ofText ("GErrorException see " ++ inlineLink "org.gnome.glib.GError")⟩
  let names := " or ".intercalate (use.platforms.names.map (Java.camelCase true))
  let platform : Entry := ⟨some "@throws",
    .ofText s!"UnsupportedPlatformException when run on a platform other than {names}"⟩
  (if c.throws then [failure] else []) ++ if use.platforms.needsGuard then [platform] else []

def signalEntries (c : Callable) : List Entry :=
  let detail : Entry := ⟨some "@param detail", .ofText "the signal detail"⟩
  (if c.detailed then [detail] else []) ++ [
    ⟨some "@param handler", .ofText "the signal handler"⟩,
    ⟨some "@return", .ofText ("a " ++ inlineLink "SignalConnection" ++
      " object to keep track of the signal connection")⟩]

def deprecatedEntry (ctx : Context) (c : Callable) : List Entry :=
  if c.deprecated then
    (c.docDeprecated.map (ctx.entry (some "@deprecated"))).toList
  else
    []

def callableComment (ctx : Context) (c : Callable) (use : CallableUse) : Option Converted :=
  c.doc.map fun doc =>
    let plain :=
      if c.kind = .signal ∨ c.kind = .callback then []
      else ctx.parameterEntries c ++ ctx.returnEntry c use ++ throwsEntries c use
    let signal := if use.isSignal && c.kind == .signal then signalEntries c else []
    comment (ctx.entry none doc :: (plain ++ signal ++ ctx.deprecatedEntry c))

end Context
end GirBind.Doc
