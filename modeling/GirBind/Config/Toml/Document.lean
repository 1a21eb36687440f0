import GirBind.Config.Toml.Layout
import GirBind.Config.Toml.Scalar

namespace GirBind.Config.Toml

open Text Text.Reader

def isKeyChar (c : Char) : Bool := c.isAlphanum || c == '-' || c == '_'

def simpleKey : Reader String := do
  match ← peek? with
  | some '\x22' | some '\x27' => lineString
  | _ =>
    let cs ← takeWhile isKeyChar
    if cs.isEmpty then failure else return .ofList cs

def furtherKey : Reader (Option String) := do
  blanks
  if ← accept ['.'] then
    blanks
    return some (← simpleKey)
  else
    return none

/-- So many lists and tables may stand around each other, and a key has as many parts. -/
def depthLimit : Nat := 79

def key : Reader (List String × String) := do
  let first ← simpleKey
  let parts := first :: (← many furtherKey)
  if parts.length ≤ depthLimit then
    return (parts.dropLast, parts.getLast?.getD first)
  else
    failure

def entry (value : Reader Value) : Reader (List String × String × Value) := do
  let (path, last) ← key
  char '='
  blanks
  return (path, last, ← value)

def comment : Reader Unit := do
  char '#'
  skipWhile isPlain
  match ← peek? with
  | none | some '\n' | some '\r' => return ()
  | _ => failure

def gapPart : Reader (Option Unit) := do
  blanks
  if ← acceptNewline then
    return some ()
  else if (← peek?) = some '#' then
    comment
    return some ()
  else
    return none

def gap : Reader Unit := discard (many gapPart)

/-- The next item of a list with the comma behind it, or the closing bracket. The last item may go
without a comma. -/
def listItem (value : Reader Value) : Reader (Option Value) := do
  gap
  if ← accept [']'] then
    return none
  else
    let v ← value
    gap
    if ← accept [','] then
      return some v
    else if (← peek?) = some ']' then
      return some v
    else
      failure

def leaf : Reader Value := do
  match ← peek? with
  | some '\x22' | some '\x27' => return .text (← string)
  | _ => scalar

/-- A value with at most `n` lists and tables around each other. -/
def value : Nat → Reader Value
  | 0 => leaf
  | n + 1 => do
    if ← accept ['['] then
      return .list (← many (listItem (value n)))
    else if ← accept ['\x7b'] then
      match tableOfEntries (← separated blanks '\x7d' (entry (value n))) with
      | some v => return v
      | none => failure
    else
      leaf

def header : Reader Statement := do
  if ← accept ['[', '['] then
    blanks
    let (path, last) ← key
    if ← accept [']', ']'] then return .element path last else failure
  else
    char '['
    blanks
    let (path, last) ← key
    char ']'
    return .table path last

def endOfStatement : Reader Unit := do
  blanks
  match ← peek? with
  | none | some '\n' | some '\r' | some '#' => return ()
  | _ => failure

def statement : Reader (Option Statement) := do
  gap
  match ← peek? with
  | none => return none
  | some '[' =>
    let s ← header
    endOfStatement
    return some s
  | some _ =>
    let (path, last, v) ← entry (value depthLimit)
    endOfStatement
    return some (.value path last v)

/-- The table that a whole text gives. It may start with a byte order mark. -/
def ofText? (text : String) : Option Value :=
  (Reader.run? (do
    let _ ← accept ['\ufeff']
    many statement) text).bind tableOfStatements

end GirBind.Config.Toml
