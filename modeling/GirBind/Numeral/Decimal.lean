import GirBind.Numeral.Integer

namespace GirBind.Numeral

/-- The number `coefficient` times ten to the power of `exponent`, and its sign. -/
structure Decimal where
  negative : Bool
  coefficient : Nat
  exponent : Int
deriving DecidableEq

namespace Decimal

def splitSign : List Char → Bool × List Char
  | '-' :: cs => (true, cs)
  | '+' :: cs => (false, cs)
  | cs => (false, cs)

def exponent? : List Char → Option Int
  | [] => some 0
  | c :: cs => if c = 'e' ∨ c = 'E' then integer? cs else none

/-- Digits with at most one period among or around them, an optional sign in front and an optional
power of ten behind. -/
def ofText? (text : List Char) : Option Decimal :=
  let (negative, unsigned) := splitSign text
  let whole := unsigned.takeWhile Char.isDigit
  let (fraction, rest) :=
    match unsigned.dropWhile Char.isDigit with
    | '.' :: r => (r.takeWhile Char.isDigit, r.dropWhile Char.isDigit)
    | r => ([], r)
  match natural? 10 (whole ++ fraction), exponent? rest with
  | some coefficient, some e => some ⟨negative, coefficient, e - fraction.length⟩
  | _, _ => none

end Decimal
end GirBind.Numeral
