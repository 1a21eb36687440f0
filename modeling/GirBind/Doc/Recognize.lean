import GirBind.Doc.Item
import GirBind.Text.Blank
import GirBind.Text.Lines
import GirBind.Text.Word

namespace GirBind.Doc

open Text (isBlank isWord firstLine)

/-- An item at the start of a text, and the number of characters it takes. -/
abbrev Found : Type := Item × Nat

/-- A block of code between two fences, with at least one character inside. -/
def fenced? (opening closing : List Char) (cs : List Char) : Option Found :=
  if opening.isPrefixOf cs then
    match cs.drop opening.length with
    | [] => none
    | c :: rest => (Text.before? closing rest).map fun content =>
        (.codeBlock (.ofList (c :: content)), opening.length + content.length + 1 + closing.length)
  else
    none

def code? : List Char → Option Found
  | '\x60' :: rest =>
    let content := rest.takeWhile (· != '\x60')
    if content.isEmpty ∨ rest.length = content.length then none
    else some (.code (.ofList content), content.length + 2)
  | _ => none

def nonempty? (cs : List Char) : Option String := if cs.isEmpty then none else some (.ofList cs)

def separator (among : List Char) : List Char → List Char × List Char
  | [] => ([], [])
  | c :: cs => if c ∈ among then ([c], cs) else ([], c :: cs)

/-- The path of a link, up to the bracket that closes it. The first part ends at a period or
bracket, the second also at a colon, and the third at the last bracket of its line. -/
def linkPath? (cs : List Char) : Option LinkPath :=
  let part1 := cs.takeWhile fun c => c != '.' && c != ']'
  let (period, cs) := separator ['.'] (cs.drop part1.length)
  let part2 := cs.takeWhile fun c => c != '.' && c != ']' && c != ':'
  let (sign, cs) := separator ['.', ':'] (cs.drop part2.length)
  (Text.beforeLast? ']' (firstLine cs)).map fun part3 =>
    ⟨.ofList (part1 ++ period ++ part2 ++ sign ++ part3),
      nonempty? part1, nonempty? part2, nonempty? part3⟩

/-- The rest of a link whose kind starts with the given characters, which are in reverse. The kind
ends at the last at sign of its line that a path follows. -/
def linkAfter? (kind : List Char) : List Char → Option Found
  | [] => none
  | c :: cs =>
    if c = '\n' then
      none
    else
      match linkAfter? (c :: kind) cs with
      | some found => some found
      | none =>
        if c = '@' ∧ kind ≠ [] then
          (linkPath? cs).map fun path =>
            (.link (.ofList kind.reverse) path, kind.length + path.text.length + 3)
        else
          none

def link? : List Char → Option Found
  | '[' :: rest => linkAfter? [] rest
  | _ => none

/-- A sign and a word behind it of at least two characters. The first of them may be any that is
neither the sign nor blank. -/
def sigil? (sign : Char) (make : String → Item) : List Char → Option Found
  | c :: first :: rest =>
    let word := rest.takeWhile isWord
    if c = sign ∧ first ≠ sign ∧ isBlank first = false ∧ word ≠ [] then
      some (make (.ofList (first :: word)), word.length + 2)
    else
      none
  | _ => none

def identifier? : List Char → Option Found
  | '%' :: rest =>
    let word := rest.takeWhile isWord
    if word.isEmpty then none else some (.identifier (.ofList word), word.length + 1)
  | _ => none

/-- The rest of a hyperlink whose description starts with the given characters, which are in
reverse. The description ends at the last `](` of its line that an address follows, and the
address at the last parenthesis of the line. -/
def targetAfter? (make : String → String → Item) (description : List Char) :
    List Char → Option Found
  | [] => none
  | c :: cs =>
    if c = '\n' then
      none
    else
      match targetAfter? make (c :: description) cs with
      | some found => some found
      | none =>
        match c, cs, description with
        | ']', '(' :: rest, _ :: _ =>
          match Text.beforeLast? ')' (firstLine rest) with
          | some url@(_ :: _) =>
            some (make (.ofList description.reverse) (.ofList url),
              description.length + url.length + 4)
          | _ => none
        | _, _, _ => none

def hyperlink? : List Char → Option Found
  | '[' :: rest => targetAfter? .hyperlink [] rest
  | _ => none

def image? : List Char → Option Found
  | '!' :: '[' :: rest => (targetAfter? .image [] rest).map fun found => (found.1, found.2 + 1)
  | _ => none

/-- One to six number signs, a blank, and a title up to the end of the line. The line breaks behind
it belong to the header. -/
def header? (cs : List Char) : Option Found :=
  let level := (cs.takeWhile (· == '#')).length
  if 1 ≤ level ∧ level ≤ 6 then
    match cs.drop level with
    | [] => none
    | blank :: rest =>
      let title := firstLine rest
      if isBlank blank ∧ title ≠ [] then
        let breaks := (rest.drop title.length).takeWhile (· == '\n')
        some (.header level (.ofList (Text.trimChars (blank :: title))),
          level + 1 + title.length + breaks.length)
      else
        none
  else
    none

def bullet? (cs : List Char) : Option Found :=
  match cs.dropWhile isBlank with
  | '-' :: blank :: _ =>
    if isBlank blank then some (.bullet, (cs.takeWhile isBlank).length + 2) else none
  | _ => none

/-- Text between the first asterisk and the last one of the line. -/
def strong? : List Char → Option Found
  | '*' :: rest =>
    match Text.beforeLast? '*' (firstLine rest) with
    | some content@(_ :: _) => some (.strong (.ofList content), content.length + 2)
    | _ => none
  | _ => none

def tag? : List Char → Option Found
  | '<' :: rest =>
    let content := rest.takeWhile (· != '>')
    if content.isEmpty ∨ rest.length = content.length then none
    else some (.tag (.ofList content), content.length + 2)
  | _ => none

def startsBlock : List Char → Bool
  | '-' :: c :: _ => isBlank c
  | '#' :: rest =>
    let more := rest.takeWhile (· == '#')
    decide (more.length < 6) && ((rest.drop more.length).head?.map isBlank).getD false
  | cs => "```".toList.isPrefixOf cs

/-- Two or more line breaks. Before a block the last one is left to the block, and two of them
are no break between paragraphs. -/
def paragraph? (cs : List Char) : Option Found :=
  let breaks := (cs.takeWhile (· == '\n')).length
  if breaks < 2 then none
  else if startsBlock (cs.drop breaks) then
    if breaks < 3 then none else some (.paragraph, breaks - 1)
  else
    some (.paragraph, breaks)

/-- The first item in this order that the text starts with. Headers and bullets stand at the start
of a line only. -/
def item? (lineStart : Bool) (cs : List Char) : Option Found :=
  let atLineStart (found : List Char → Option Found) : Option Found :=
    if lineStart then found cs else none
  (fenced? "```".toList "```".toList cs).or <|
  (fenced? "|[".toList "]|".toList cs).or <|
  (code? cs).or <|
  (link? cs).or <|
  (identifier? cs).or <|
  (sigil? '#' .nativeType cs).or <|
  (sigil? '@' .parameter cs).or <|
  (hyperlink? cs).or <|
  (image? cs).or <|
  (atLineStart header?).or <|
  (atLineStart bullet?).or <|
  (strong? cs).or <|
  (tag? cs).or <|
  paragraph? cs

/-- A character that stands for itself, or an item with its source text. -/
inductive Segment
  | plain (char : Char)
  | item (item : Item) (source : List Char)
deriving DecidableEq

namespace Segment

def ofText (lineStart : Bool) : List Char → List Segment
  | [] => []
  | c :: cs =>
    match item? lineStart (c :: cs) with
    | none => plain c :: ofText (c == '\n') cs
    | some (i, n) =>
      let more := cs.take (n - 1)
      item i (c :: more) :: ofText ((c :: more).getLast? == some '\n') (cs.drop (n - 1))
termination_by cs => cs.length

end Segment

end GirBind.Doc
