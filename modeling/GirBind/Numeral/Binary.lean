import GirBind.Numeral.Decimal

namespace GirBind.Numeral

/-- The finite numbers of a binary floating-point format are `m * 2 ^ q` with
`m < 2 ^ precision` and `minExponent ≤ q ≤ maxExponent`. -/
structure BinaryFormat where
  precision : Nat
  minExponent : Int
  maxExponent : Int

def BinaryFormat.single : BinaryFormat := ⟨24, -149, 104⟩

def BinaryFormat.double : BinaryFormat := ⟨53, -1074, 971⟩

structure Binary where
  negative : Bool
  significand : Nat
  exponent : Int
deriving DecidableEq

/-- The nearest integer to a quotient. Of two equally near ones it is the even one. -/
def roundDiv (n d : Nat) : Nat :=
  let q := n / d
  let r := n % d
  if 2 * r < d then q
  else if 2 * r > d then q + 1
  else if q % 2 = 0 then q else q + 1

def scale (num den : Nat) (shift : Int) : Nat × Nat :=
  (num * Nat.pow 2 shift.toNat, den * Nat.pow 2 (-shift).toNat)

def log2Ratio (num den : Nat) : Int :=
  let e : Int := (Nat.log2 num : Int) - Nat.log2 den
  let (n, d) := scale num den (-e)
  if d ≤ n then e else e - 1

namespace BinaryFormat

/-- The number of the format that is nearest to a positive ratio. There is none if that is beyond
the range. -/
def roundRatio? (f : BinaryFormat) (num den : Nat) : Option (Nat × Int) :=
  let q := max f.minExponent (log2Ratio num den - (f.precision - 1))
  let (n, d) := scale num den (-q)
  let m := roundDiv n d
  let (m, q) :=
    if m = Nat.pow 2 f.precision then (Nat.pow 2 (f.precision - 1), q + 1) else (m, q)
  if q ≤ f.maxExponent then some (m, q) else none

/-- Powers of ten from here on are beyond the range of every format, on either side. -/
def decimalRange : Int := 400

def ofDecimal? (f : BinaryFormat) (d : Decimal) : Option Binary :=
  let size : Int := (Nat.toDigits 10 d.coefficient).length + d.exponent
  if d.coefficient = 0 ∨ size < -decimalRange then
    some ⟨d.negative, 0, f.minExponent⟩
  else if size > decimalRange then
    none
  else
    let up := Nat.pow 10 d.exponent.toNat
    let down := Nat.pow 10 (-d.exponent).toNat
    (f.roundRatio? (d.coefficient * up) down).map fun (m, q) => ⟨d.negative, m, q⟩

end BinaryFormat
end GirBind.Numeral
