import GirBind.Config.Value

namespace GirBind.Config.Toml

/-- What made a table: its own header, the header of a table inside it, or a dotted key. -/
inductive Origin
  | header
  | implied
  | dotted
deriving DecidableEq

/-- What a key stands for while a document is being read. -/
inductive Item
  | value (v : Value)
  | table (origin : Origin) (entries : List (String × Item))
  | tables (elements : List (List (String × Item)))

abbrev Entries := List (String × Item)

def alter (key : String) (change : Option Item → Option Item) : Entries → Option Entries
  | [] => (change none).map fun i => [(key, i)]
  | (k, i) :: es =>
    if k = key then (change (some i)).map fun j => (k, j) :: es
    else (alter key change es).map ((k, i) :: ·)

def addNew (key : String) (i : Item) : Entries → Option Entries :=
  alter key fun old => if old.isNone then some i else none

/-- Changes a table that a path leads to, from one of the given origin. Tables that are not there
yet are of the origin `fresh`. A dotted key does not lead into a table with a header. -/
def under (fresh : Origin) (change : Origin → Entries → Option Entries) :
    List String → Origin → Entries → Option Entries
  | [], origin, es => change origin es
  | key :: keys, _, es =>
    alter key (fun
      | none => (under fresh change keys fresh []).map (.table fresh)
      | some (.value _) => none
      | some (.table origin inner) =>
        if fresh = .dotted ∧ origin = .header then none
        else (under fresh change keys origin inner).map (.table origin)
      | some (.tables elements) =>
        (under fresh change keys .header (elements.getLast?.getD [])).map fun last =>
          .tables (elements.dropLast ++ [last])) es

/-- Adds the value of a key. A dotted key adds to a table that dotted keys made. -/
def addValue (path : List String) (key : String) (v : Value) : Entries → Option Entries :=
  under .dotted (fun origin es =>
    if path.isEmpty ∨ origin = .dotted then addNew key (.value v) es else none) path .header

/-- Adds a table that a header opens. A header may come behind those of the tables inside. -/
def openTable (path : List String) (key : String) : Entries → Option Entries :=
  under .implied (fun _ => alter key fun
    | none => some (.table .header [])
    | some (.table .implied es) => some (.table .header es)
    | some _ => none) path .header

def openElement (path : List String) (key : String) : Entries → Option Entries :=
  under .implied (fun _ => alter key fun
    | none => some (.tables [[]])
    | some (.tables elements) => some (.tables (elements ++ [[]]))
    | some _ => none) path .header

mutual

def Item.toValue : Item → Value
  | .value v => v
  | .table _ es => .table (valuesOf es)
  | .tables elements => .list (tablesOf elements)

def valuesOf : Entries → List (String × Value)
  | [] => []
  | (key, i) :: es => (key, i.toValue) :: valuesOf es

def tablesOf : List Entries → List Value
  | [] => []
  | es :: rest => .table (valuesOf es) :: tablesOf rest

end

inductive Statement
  | value (path : List String) (key : String) (v : Value)
  | table (path : List String) (key : String)
  | element (path : List String) (key : String)

/-- What has been read: all entries, and the path of the table that values go to. -/
structure Layout where
  entries : Entries
  place : List String

def Layout.add (l : Layout) : Statement → Option Layout
  | .value path key v =>
    (under .implied (fun _ => addValue path key v) l.place .header l.entries).map fun es =>
      { l with entries := es }
  | .table path key => (openTable path key l.entries).map fun es => ⟨es, path ++ [key]⟩
  | .element path key => (openElement path key l.entries).map fun es => ⟨es, path ++ [key]⟩

def tableOfStatements (l : List Statement) : Option Value :=
  (l.foldlM Layout.add ⟨[], []⟩).map fun l => .table (valuesOf l.entries)

def tableOfEntries (l : List (List String × String × Value)) : Option Value :=
  (l.foldlM (fun es e => addValue e.1 e.2.1 e.2.2 es) []).map fun es => .table (valuesOf es)

end GirBind.Config.Toml
