namespace GirBind.Text

/-- Takes something from the start of a text, if it is there, and leaves the rest. -/
abbrev Reader := StateT (List Char) Option

namespace Reader

def peek? : Reader (Option Char) := return (← get).head?

def anyChar : Reader Char := fun cs =>
  match cs with
  | [] => none
  | c :: rest => some (c, rest)

def char (c : Char) : Reader Unit := do
  if (← anyChar) = c then return () else failure

def accept (wanted : List Char) : Reader Bool := fun cs =>
  if wanted.isPrefixOf cs then some (true, cs.drop wanted.length) else some (false, cs)

def takeWhile (p : Char → Bool) : Reader (List Char) := fun cs =>
  some (cs.takeWhile p, cs.dropWhile p)

def skipWhile (p : Char → Bool) : Reader Unit := fun cs => some ((), cs.dropWhile p)

def endOfText : Reader Unit := fun cs => if cs.isEmpty then some ((), cs) else none

/-- Repeats a step until it gives nothing. It has to take a character each time that it gives
something. -/
def many {α : Type} (step : Reader (Option α)) (cs : List Char) : Option (List α × List Char) :=
  match step cs with
  | none => none
  | some (none, rest) => some ([], rest)
  | some (some a, rest) =>
    if _h : rest.length < cs.length then
      match many step rest with
      | some (as, rest) => some (a :: as, rest)
      | none => none
    else
      none
termination_by cs.length

/-- What is left of a list after an item: a comma and the next item, or the closing bracket. -/
def furtherItem {α : Type} (gap : Reader Unit) (close : Char) (item : Reader α) :
    Reader (Option α) := do
  gap
  let c ← anyChar
  if c = close then
    return none
  else if c = ',' then
    gap
    return some (← item)
  else
    failure

def separated {α : Type} (gap : Reader Unit) (close : Char) (item : Reader α) :
    Reader (List α) := do
  gap
  if ← accept [close] then
    return []
  else
    let first ← item
    return first :: (← many (furtherItem gap close item))

def run? {α : Type} (r : Reader α) (text : String) : Option α :=
  (StateT.run (do let a ← r; endOfText; return a) text.toList).map Prod.fst

end Reader
end GirBind.Text
