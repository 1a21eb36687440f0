namespace GirBind.Text

def dropReturn (line : List Char) : List Char :=
  if line.getLast? = some '\r' then line.dropLast else line

theorem length_dropWhile_cons {p : Char → Bool} {cs rest : List Char} {c : Char}
    (h : cs.dropWhile p = c :: rest) : rest.length < cs.length := by
  have hs : (cs.dropWhile p).length ≤ cs.length := (List.dropWhile_sublist p).length_le
  rw [h] at hs
  exact hs

/-- The lines of a text. A line break ends a line, alone or behind a carriage return, and the last
line may go without one. -/
def lines (cs : List Char) : List (List Char) :=
  match _h : cs.dropWhile (· != '\n') with
  | [] => if cs.isEmpty then [] else [cs]
  | _ :: rest => dropReturn (cs.takeWhile (· != '\n')) :: lines rest
termination_by cs.length
decreasing_by exact length_dropWhile_cons _h

def before? (close : List Char) : List Char → Option (List Char)
  | [] => none
  | c :: cs => if close.isPrefixOf (c :: cs) then some [] else (before? close cs).map (c :: ·)

def beforeLast? (close : Char) : List Char → Option (List Char)
  | [] => none
  | c :: cs =>
    match beforeLast? close cs with
    | some text => some (c :: text)
    | none => if c = close then some [] else none

def firstLine (cs : List Char) : List Char := cs.takeWhile (· != '\n')

end GirBind.Text
