import GirBind.Numeral.Binary

namespace GirBind.Numeral

/-- A positive number and its distances to the ends of the numbers that round to it, all in units
of `1 / unit`. -/
structure Neighbourhood where
  value : Nat
  below : Nat
  above : Nat
  unit : Nat
  /-- The ends round to it too. -/
  closed : Bool

namespace Neighbourhood

/-- The neighbourhood of `m * 2 ^ q`. Below a power of two the numbers lie half as far apart. -/
def ofBinary (f : BinaryFormat) (m : Nat) (q : Int) : Neighbourhood :=
  let boundary := m == Nat.pow 2 (f.precision - 1) && decide (f.minExponent < q)
  let (num, den) := scale 1 4 q
  ⟨4 * m * num, if boundary then num else 2 * num, 2 * num, den, m % 2 == 0⟩

def within (n : Neighbourhood) (distance reach : Nat) : Bool :=
  if n.closed then distance ≤ reach else distance < reach

def onGrid? (n : Neighbourhood) (num den : Nat) : Option Nat :=
  let v := n.value * den
  let s := n.unit * num
  let k := v / s
  let down := v - k * s
  let up := (k + 1) * s - v
  match n.within down (n.below * den), n.within up (n.above * den) with
  | true, true => some (if up ≤ down then k + 1 else k)
  | true, false => some k
  | false, true => some (k + 1)
  | false, false => none

end Neighbourhood

/-- The greatest `e` with `10 ^ e ≤ num / den`, found by trying `fuel` values from `e` downwards. -/
def log10Below (num den : Nat) : Nat → Int → Int
  | 0, e => e
  | fuel + 1, e =>
    if den * Nat.pow 10 e.toNat ≤ num * Nat.pow 10 (-e).toNat then e
    else log10Below num den fuel (e - 1)

/-- The coefficient and power of ten with the fewest digits, out of `digits`, `digits + 1`, and so
on, that lie in the neighbourhood. -/
def fewestDigits (n : Neighbourhood) (top : Int) : Nat → Nat → Nat × Int
  | 0, _ => (n.value / n.unit, 0)
  | fuel + 1, digits =>
    let e := top - (digits - 1 : Nat)
    match n.onGrid? (Nat.pow 10 e.toNat) (Nat.pow 10 (-e).toNat) with
    | some k => (k, e)
    | none => fewestDigits n top fuel (digits + 1)

def dropZeros : Nat → Nat → Int → Nat × Int
  | 0, k, e => (k, e)
  | fuel + 1, k, e => if k % 10 = 0 then dropZeros fuel (k / 10) (e + 1) else (k, e)

def shortest (f : BinaryFormat) (b : Binary) : Decimal :=
  if b.significand = 0 then
    ⟨b.negative, 0, 0⟩
  else
    let n := Neighbourhood.ofBinary f b.significand b.exponent
    let guess : Int := (Nat.toDigits 10 (n.value / n.unit)).length
    let top := log10Below n.value n.unit 400 guess
    let (k, e) := fewestDigits n top 20 1
    let (k, e) := dropZeros 20 k e
    ⟨b.negative, k, e⟩

end GirBind.Numeral
