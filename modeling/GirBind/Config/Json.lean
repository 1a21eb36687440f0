import GirBind.Config.Escape
import GirBind.Config.Value
import GirBind.Numeral.Binary

namespace GirBind.Config.Json

open Text Text.Reader

def isBlank (c : Char) : Bool := c == ' ' || c == '\n' || c == '\t' || c == '\r'

def blanks : Reader Unit := skipWhile isBlank

/-- A part of a string. A character beyond the first 65536 may be escaped as a pair of halves. -/
inductive Piece
  | char (c : Char)
  | half (code : Nat)

def ofCode (n : Nat) : Piece :=
  if 0xd800 ≤ n ∧ n < 0xe000 then .half n else .char (Char.ofNat n)

def escape : Reader Piece := do
  let c ← anyChar
  if c = 'u' then
    return ofCode (← hexCode 4)
  else if c = '/' then
    return .char c
  else
    match escaped? c with
    | some d => return .char d
    | none => failure

def piece : Reader (Option Piece) := do
  let c ← anyChar
  if c = '\x22' then
    return none
  else if c = '\\' then
    return some (← escape)
  else if c.toNat < 32 then
    failure
  else
    return some (.char c)

/-- The text of a string. A half without its other half is no text. -/
def join? : List Piece → Option (List Char)
  | [] => some []
  | .char c :: ps => (join? ps).map (c :: ·)
  | .half high :: .half low :: ps =>
    if high < 0xdc00 ∧ 0xdc00 ≤ low then
      (join? ps).map (Char.ofNat (0x10000 + (high - 0xd800) * 0x400 + (low - 0xdc00)) :: ·)
    else
      none
  | .half _ :: _ => none

def string : Reader (Option String) := do
  char '\x22'
  let pieces ← many piece
  return (join? pieces).map .ofList

def isWhole (cs : List Char) : Bool := !cs.isEmpty && (cs.length == 1 || cs.head? != some '0')

def isNumberTail : List Char → Bool
  | '.' :: cs =>
    !(cs.takeWhile Char.isDigit).isEmpty &&
      (Numeral.Decimal.exponent? (cs.dropWhile Char.isDigit)).isSome
  | cs => (Numeral.Decimal.exponent? cs).isSome

def isNumber (cs : List Char) : Bool :=
  let body := if cs.head? = some '-' then cs.tail else cs
  isWhole (body.takeWhile Char.isDigit) && isNumberTail (body.dropWhile Char.isDigit)

def inRange (cs : List Char) : Bool :=
  match Numeral.Decimal.ofText? cs with
  | some d => (Numeral.BinaryFormat.double.ofDecimal? d).isSome
  | none => false

def isWordChar (c : Char) : Bool := c.isAlphanum || c == '+' || c == '-' || c == '.'

def word : Reader Value := do
  let cs ← takeWhile isWordChar
  if cs = ['n', 'u', 'l', 'l'] then
    return .null
  else if cs = ['t', 'r', 'u', 'e'] then
    return .bool true
  else if cs = ['f', 'a', 'l', 's', 'e'] then
    return .bool false
  else if isNumber cs then
    return if inRange cs then .foreign else .unreadable
  else
    failure

def entry (value : Reader Value) : Reader (Option String × Value) := do
  let key ← string
  blanks
  char ':'
  blanks
  return (key, ← value)

def tableOf (entries : List (Option String × Value)) : Value :=
  match entries.mapM fun e => e.1.map (·, e.2) with
  | some es => .table es
  | none => .unreadable

/-- So many lists and tables may stand around each other. -/
def depthLimit : Nat := 127

/-- A list or table with `level` others around it. -/
def nested (level : Nat) (v : Value) : Value := if level < depthLimit then v else .unreadable

/-- A value with `level` lists and tables around it, and less than `fuel` inside. -/
def value : Nat → Nat → Reader Value
  | 0, _ => failure
  | fuel + 1, level => do
    if ← accept ['['] then
      return nested level (.list (← separated blanks ']' (value fuel (level + 1))))
    else if ← accept ['\x7b'] then
      return nested level (tableOf (← separated blanks '\x7d' (entry (value fuel (level + 1)))))
    else if (← peek?) = some '\x22' then
      return ((← string).map Value.text).getD .unreadable
    else
      word

def ofText? (text : String) : Option Value :=
  Reader.run? (do
    blanks
    let v ← value (text.length + 1) 0
    blanks
    return v) text

end GirBind.Config.Json
