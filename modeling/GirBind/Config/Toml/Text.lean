import GirBind.Config.Escape

namespace GirBind.Config.Toml

open Text Text.Reader

def isBlank (c : Char) : Bool := c == ' ' || c == '\t'

def blanks : Reader Unit := skipWhile isBlank

def isPlain (c : Char) : Bool := c == '\t' || (32 ≤ c.toNat && c.toNat != 127)

def acceptNewline : Reader Bool := do
  if ← accept ['\n'] then return true else accept ['\r', '\n']

def ofCode (n : Nat) : Reader Char :=
  if n.isValidChar then return Char.ofNat n else failure

def escape : Reader Char := do
  let c ← anyChar
  if c = 'u' then
    ofCode (← hexCode 4)
  else if c = 'U' then
    ofCode (← hexCode 8)
  else
    match escaped? c with
    | some d => return d
    | none => failure

def lineChar (quote : Char) : Reader (Option Char) := do
  let c ← anyChar
  if c = quote then
    return none
  else if c = '\\' ∧ quote = '\x22' then
    return some (← escape)
  else if isPlain c then
    return some c
  else
    failure

def lineString : Reader String := do
  let quote ← anyChar
  if quote = '\x22' ∨ quote = '\x27' then
    return .ofList (← many (lineChar quote))
  else
    failure

def dropGap : List Char → List Char
  | ' ' :: cs | '\t' :: cs | '\n' :: cs | '\r' :: '\n' :: cs => dropGap cs
  | cs => cs

/-- The rest of a backslash at the end of a line, with all blanks that follow. -/
def acceptLineJoin : Reader Bool := do
  let here ← get
  blanks
  if ← acceptNewline then
    modify dropGap
    return true
  else
    set here
    return false

/-- Quotes inside a string of several lines. Three of them close it, and one or two may stand right
before these. -/
def quotes (quote : Char) : Reader (Option (List Char)) := do
  let run ← takeWhile (· == quote)
  if run.length < 3 then
    return some run
  else if run.length = 3 then
    return none
  else if run.length < 6 then
    modify (List.replicate 3 quote ++ ·)
    return some (run.drop 3)
  else
    failure

def blockPiece (quote : Char) : Reader (Option (List Char)) := do
  if (← peek?) = some quote then
    quotes quote
  else if ← acceptNewline then
    return some ['\n']
  else
    let c ← anyChar
    if c = '\\' ∧ quote = '\x22' then
      if ← acceptLineJoin then
        return some []
      else
        return some [← escape]
    else if isPlain c then
      return some [c]
    else
      failure

/-- A string of several lines behind its opening quotes. A line break right there does not count. -/
def blockString (quote : Char) : Reader String := do
  let _ ← acceptNewline
  let pieces ← many (blockPiece quote)
  return .ofList pieces.flatten

def string : Reader String := do
  if ← accept ['\x22', '\x22', '\x22'] then
    blockString '\x22'
  else if ← accept ['\x27', '\x27', '\x27'] then
    blockString '\x27'
  else
    lineString

end GirBind.Config.Toml
