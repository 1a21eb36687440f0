import GirBind.Config.Toml.Text
import GirBind.Config.Value
import GirBind.Numeral.Binary

namespace GirBind.Config.Toml

open Text Text.Reader

def isDigits (isDigit : Char → Bool) : List Char → Bool
  | [] => false
  | [c] => isDigit c
  | c :: '_' :: cs => isDigit c && isDigits isDigit cs
  | c :: cs => isDigit c && isDigits isDigit cs

def hasDigit (base : Nat) (c : Char) : Bool := (Numeral.digit? base c).isSome

def unsigned : List Char → List Char
  | '+' :: cs | '-' :: cs => cs
  | cs => cs

def isWhole (cs : List Char) : Bool :=
  isDigits (hasDigit 10) cs && (cs.length == 1 || cs.head? != some '0')

def withoutUnderscores (cs : List Char) : List Char := cs.filter (· != '_')

/-- Digits of a base, for a number below 2 to the power of 63. -/
def isBased (base : Nat) (cs : List Char) : Bool :=
  isDigits (hasDigit base) cs &&
    (Numeral.natural? base (withoutUnderscores cs)).any (· < Nat.pow 2 63)

def isInteger : List Char → Bool
  | '0' :: 'x' :: cs => isBased 16 cs
  | '0' :: 'o' :: cs => isBased 8 cs
  | '0' :: 'b' :: cs => isBased 2 cs
  | cs => isWhole (unsigned cs) && (Numeral.signed? 64 (withoutUnderscores cs)).isSome

def isExponentMark (c : Char) : Bool := c == 'e' || c == 'E'

def isExponent : List Char → Bool
  | c :: cs => isExponentMark c && isDigits (hasDigit 10) (unsigned cs)
  | [] => false

def isFloatTail : List Char → Bool
  | '.' :: cs =>
    let tail := cs.dropWhile fun c => !isExponentMark c
    isDigits (hasDigit 10) (cs.takeWhile fun c => !isExponentMark c) &&
      (tail.isEmpty || isExponent tail)
  | cs => isExponent cs

/-- The number is not too great. It may be too far below zero. -/
def isBounded (cs : List Char) : Bool :=
  match Numeral.Decimal.ofText? (withoutUnderscores cs) with
  | some d => d.negative || (Numeral.BinaryFormat.double.ofDecimal? d).isSome
  | none => false

def startsTail (c : Char) : Bool := c == '.' || isExponentMark c

def isFloat (cs : List Char) : Bool :=
  let body := unsigned cs
  body = ['i', 'n', 'f'] || body = ['n', 'a', 'n'] ||
    (isWhole (body.takeWhile fun c => !startsTail c) &&
      isFloatTail (body.dropWhile fun c => !startsTail c) && isBounded cs)

def isField (low high : Nat) (a b : Char) : Bool :=
  (Numeral.natural? 10 [a, b]).any fun n => low ≤ n && n ≤ high

def isLeapYear (year : Nat) : Bool := year % 4 == 0 && (year % 100 != 0 || year % 400 == 0)

def daysIn (year month : Nat) : Nat :=
  if month = 2 then (if isLeapYear year then 29 else 28)
  else if month = 4 ∨ month = 6 ∨ month = 9 ∨ month = 11 then 30
  else 31

def isDate : List Char → Bool
  | [a, b, c, d, '-', e, f, '-', g, h] =>
    match Numeral.natural? 10 [a, b, c, d], Numeral.natural? 10 [e, f] with
    | some year, some month => isField 1 12 e f && isField 1 (daysIn year month) g h
    | _, _ => false
  | _ => false

def isSecondPart : List Char → Bool
  | [] => true
  | '.' :: cs => !cs.isEmpty && cs.all (hasDigit 10)
  | _ => false

/-- A minute may have a leap second. -/
def isTime : List Char → Bool
  | a :: b :: ':' :: c :: d :: ':' :: e :: f :: cs =>
    isField 0 23 a b && isField 0 59 c d && isField 0 60 e f && isSecondPart cs
  | _ => false

def isOffset : List Char → Bool
  | [] | ['Z'] | ['z'] => true
  | [sign, a, b, ':', c, d] => (sign == '+' || sign == '-') && isField 0 23 a b && isField 0 59 c d
  | _ => false

def isTimeChar (c : Char) : Bool := hasDigit 10 c || c == ':' || c == '.'

def isTimeWithOffset (cs : List Char) : Bool :=
  isTime (cs.takeWhile isTimeChar) && isOffset (cs.dropWhile isTimeChar)

def isDateTime (cs : List Char) : Bool :=
  isDate (cs.take 10) &&
    match cs.drop 10 with
    | c :: time => (c == 'T' || c == 't') && isTimeWithOffset time
    | [] => false

def isWordChar (c : Char) : Bool :=
  c.isAlphanum || c == '+' || c == '-' || c == '_' || c == '.' || c == ':'

def atSpacedDigit : List Char → Bool
  | ' ' :: c :: _ => hasDigit 10 c
  | _ => false

/-- A truth value, a number or a point in time. A blank may divide a date from a time. -/
def scalar : Reader Value := do
  let cs ← takeWhile isWordChar
  if cs = ['t', 'r', 'u', 'e'] then
    return .bool true
  else if cs = ['f', 'a', 'l', 's', 'e'] then
    return .bool false
  else if isDate cs && atSpacedDigit (← get) then
    char ' '
    if isTimeWithOffset (← takeWhile isWordChar) then return .foreign else failure
  else if isInteger cs || isFloat cs || isDate cs || isTime cs || isDateTime cs then
    return .foreign
  else
    failure

end GirBind.Config.Toml
