import GirBind.Markup.Fault
import GirBind.Numeral.Integer
import GirBind.Text.Lines

namespace GirBind.Markup.Reference

/-- The character with a code point, unless that is beyond the range or half of a pair. -/
def scalar? (code : Nat) : Option Char :=
  if h : code.isValidChar then some (Char.ofNatAux code h) else none

def numeric? : List Char → Option Char
  | '#' :: 'x' :: digits => (Numeral.unsigned? 16 (Nat.pow 2 32) digits).bind scalar?
  | '#' :: 'X' :: digits => (Numeral.unsigned? 16 (Nat.pow 2 32) digits).bind scalar?
  | '#' :: digits => (Numeral.unsigned? 10 (Nat.pow 2 32) digits).bind scalar?
  | _ => none

def char? : List Char → Option Char
  | ['l', 't'] => some '<'
  | ['g', 't'] => some '>'
  | ['a', 'm', 'p'] => some '&'
  | ['q', 'u', 'o', 't'] => some '\x22'
  | ['a', 'p', 'o', 's'] => some '\x27'
  | entity => numeric? entity

/-- Replaces every reference by its character. What it yields is not read again. -/
def decode : List Char → Except Fault (List Char)
  | [] => .ok []
  | c :: cs =>
    if c = '&' then
      match _h : cs.dropWhile (· != ';') with
      | [] => .error .unterminatedReference
      | _ :: rest =>
        let entity := cs.takeWhile (· != ';')
        match char? entity with
        | some d => (decode rest).map (d :: ·)
        | none => .error (.unknownReference (.ofList entity))
    else
      (decode cs).map (c :: ·)
termination_by cs => cs.length
decreasing_by
  · exact Nat.lt_succ_of_lt (Text.length_dropWhile_cons _h)
  · exact Nat.lt_succ_self _

end GirBind.Markup.Reference
