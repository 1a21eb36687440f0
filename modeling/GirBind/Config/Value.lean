namespace GirBind.Config

inductive Value
  | null
  | bool (value : Bool)
  | text (value : String)
  /-- A value of a kind that no setting has. -/
  | foreign
  /-- A value that is written in the right way and still stands for nothing. -/
  | unreadable
  | list (items : List Value)
  /-- The keys may repeat. -/
  | table (entries : List (String × Value))
deriving Inhabited

namespace Value

def bool? : Value → Option Bool
  | bool value => some value
  | _ => none

def text? : Value → Option String
  | text value => some value
  | _ => none

def optional? {α : Type} (read : Value → Option α) : Value → Option (Option α)
  | null => some none
  | v => (read v).map some

/-- The value for a key, which is null for a key that is not there. A key must not repeat. -/
def lookup? (entries : List (String × Value)) (key : String) : Option Value :=
  match entries.filter fun e => e.1 == key with
  | [] => some null
  | [e] => some e.2
  | _ => none

/-- The values of a record. A list gives them in order, and all of them. -/
def record? (keys : List String) : Value → Option (List Value)
  | table entries => keys.mapM (lookup? entries)
  | list items => if items.length = keys.length then some items else none
  | _ => none

mutual

def isReadable : Value → Bool
  | unreadable => false
  | list items => areReadable items
  | table entries => areReadableEntries entries
  | _ => true

def areReadable : List Value → Bool
  | [] => true
  | v :: vs => isReadable v && areReadable vs

def areReadableEntries : List (String × Value) → Bool
  | [] => true
  | e :: es => isReadable e.2 && areReadableEntries es

end

end Value
end GirBind.Config
