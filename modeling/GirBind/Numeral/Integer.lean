namespace GirBind.Numeral

/-- The value of a digit, where letters of either case follow the nine. -/
def digit? (base : Nat) (c : Char) : Option Nat :=
  let value :=
    if '0' ≤ c ∧ c ≤ '9' then some (c.toNat - 48)
    else if 'a' ≤ c ∧ c ≤ 'z' then some (c.toNat - 87)
    else if 'A' ≤ c ∧ c ≤ 'Z' then some (c.toNat - 55)
    else none
  value.filter (· < base)

def extend? (base : Nat) : Nat → List Char → Option Nat
  | n, [] => some n
  | n, c :: cs =>
    match digit? base c with
    | some d => extend? base (n * base + d) cs
    | none => none

def natural? (base : Nat) (cs : List Char) : Option Nat :=
  if cs.isEmpty then none else extend? base 0 cs

/-- One or more digits after an optional plus sign, below a bound. -/
def unsigned? (base bound : Nat) (cs : List Char) : Option Nat :=
  let digits :=
    match cs with
    | '+' :: r => r
    | _ => cs
  (natural? base digits).filter (· < bound)

def integer? (cs : List Char) : Option Int :=
  match cs with
  | '+' :: r => (natural? 10 r).map Int.ofNat
  | '-' :: r => (natural? 10 r).map fun n => -Int.ofNat n
  | _ => (natural? 10 cs).map Int.ofNat

def signed? (width : Nat) (cs : List Char) : Option Int :=
  let bound := Int.ofNat (Nat.pow 2 (width - 1))
  (integer? cs).filter fun n => decide (-bound ≤ n) && decide (n < bound)

/-- An index or size: it fits in 64 bits. -/
def index? (s : String) : Option Nat := unsigned? 10 (Nat.pow 2 64) s.toList

end GirBind.Numeral
