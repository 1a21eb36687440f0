import GirBind.Numeral.Shortest
import GirBind.Signature.Primitive
import GirBind.Text.Blank

namespace GirBind.Java

def escapeChar (c : Char) : List Char :=
  if c = '\\' ∨ c = '\x22' then ['\\', c] else [c]

def stringLiteral (value : String) : String :=
  .ofList ('\x22' :: (value.toList.flatMap escapeChar ++ ['\x22']))

/-- How floating-point numbers are written: from which power of ten on, and below which one, with
an exponent. -/
structure NumberLayout where
  firstExponent : Int
  lastFraction : Int

def numberLayout : NumberLayout := ⟨16, -4⟩

/-- Digits with a period behind the first `point` of them. There is a digit on both sides. -/
def positional (digits : List Char) (point : Int) : List Char :=
  if point ≤ 0 then
    '0' :: '.' :: (List.replicate (-point).toNat '0' ++ digits)
  else
    let n := point.toNat
    let padded := digits ++ List.replicate (n - digits.length) '0'
    let fraction := padded.drop n
    padded.take n ++ '.' :: (if fraction.isEmpty then ['0'] else fraction)

/-- Digits with a period behind the first one, unless it is the only one, and a power of ten. -/
def scientific (digits : List Char) (exponent : Int) : List Char :=
  let fraction := digits.drop 1
  digits.take 1 ++ (if fraction.isEmpty then [] else '.' :: fraction) ++
    'e' :: (toString exponent).toList

def decimalLiteral (layout : NumberLayout) (d : Numeral.Decimal) : String :=
  let digits := Nat.toDigits 10 d.coefficient
  let exponent := d.exponent + (digits.length - 1 : Nat)
  let body :=
    if d.coefficient = 0 then ['0', '.', '0']
    else if exponent < layout.lastFraction ∨ layout.firstExponent ≤ exponent then
      scientific digits exponent
    else
      positional digits (exponent + 1)
  .ofList (if d.negative then '-' :: body else body)

def floatLiteral? (f : Numeral.BinaryFormat) (text : List Char) : Option String :=
  ((Numeral.Decimal.ofText? text).bind f.ofDecimal?).map
    fun b => decimalLiteral numberLayout (Numeral.shortest f b)

/-- The literal for a value of a type. There is none if the value does not fit the type. -/
def literal? (type : Primitive) (value : String) : Option String :=
  let text := Text.trim value
  match type with
  | .boolean => some (if text.toLower = "true" then "true" else "false")
  | .byte => (Numeral.signed? 8 text.toList).map toString
  | .short => (Numeral.signed? 16 text.toList).map toString
  | .int => (Numeral.signed? 32 text.toList).map toString
  | .long => (Numeral.signed? 64 text.toList).map fun n => toString n ++ "L"
  | .double => (floatLiteral? .double text.toList).map (· ++ "d")
  | .float => (floatLiteral? .single text.toList).map (· ++ "f")
  | .string => some (stringLiteral text)
  | .void | .pointer | .gtype | .vaList => none

end GirBind.Java
