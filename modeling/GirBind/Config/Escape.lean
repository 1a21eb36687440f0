import GirBind.Numeral.Integer
import GirBind.Text.Reader

namespace GirBind.Config

open Text Text.Reader

/-- The character that a letter behind a backslash stands for. -/
def escaped? (c : Char) : Option Char :=
  match c with
  | '\x22' => some '\x22'
  | '\\' => some '\\'
  | 'b' => some '\x08'
  | 'f' => some '\x0c'
  | 'n' => some '\n'
  | 'r' => some '\r'
  | 't' => some '\t'
  | _ => none

def takeChars : Nat → Reader (List Char)
  | 0 => return []
  | n + 1 => return (← anyChar) :: (← takeChars n)

def hexCode (digits : Nat) : Reader Nat := do
  match Numeral.natural? 16 (← takeChars digits) with
  | some n => return n
  | none => failure

end GirBind.Config
