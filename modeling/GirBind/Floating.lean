import GirBind.SymbolTable.Resolve

namespace GirBind

namespace TypeEntry

/-- The type with a name of its own in the object library, or with a C type of its own. -/
def isRoot (name cType : String) (e : TypeEntry) : Bool :=
  (e.library == "GObject" && e.type.name == name) || e.type.node.cType? == some cType

def isObjectRoot : TypeEntry → Bool := isRoot "Object" "GObject"

def isInitiallyUnowned : TypeEntry → Bool := isRoot "InitiallyUnowned" "GInitiallyUnowned"

end TypeEntry

namespace SymbolTable

/-- Whether a chain of parents among classes that have not been met before leads below the
initially unowned class. A parent that does not resolve ends the chain. -/
def descendsUnowned (table : SymbolTable) (unmet : List (String × String)) (e : TypeEntry) : Bool :=
  match e.type.parent? with
  | none => false
  | some parent =>
    if _h : e.identity ∈ unmet then
      match table.lookup? e.library parent with
      | none => false
      | some p =>
        p.isInitiallyUnowned || descendsUnowned table (otherThan unmet e.identity) p
    else
      false
termination_by unmet.length
decreasing_by exact length_otherThan _h

/-- New instances start with a reference that nobody owns. This is so for a class that declares
the method to claim it, apart from the roots and the classes that inherit it. -/
def isFloating (table : SymbolTable) (e : TypeEntry) : Bool :=
  e.type.variant == .classType && !e.isObjectRoot && !e.isInitiallyUnowned &&
    !table.descendsUnowned (e.identity :: table.identities) e && e.type.hasMethod "ref_sink"

end SymbolTable

/-- For every class, by namespace and name, whether its new instances are floating. -/
structure FloatingTable where
  flags : List ((String × String) × Bool)

namespace FloatingTable

def ofNamespace (table : SymbolTable) (ns : Namespace) : List ((String × String) × Bool) :=
  (ns.types.values.filter (·.variant == .classType)).map fun t =>
    ((ns.name, t.name), table.isFloating ⟨ns.name, t⟩)

def build (table : SymbolTable) : FloatingTable :=
  ⟨table.namespaces.flatMap (ofNamespace table)⟩

def get? (f : FloatingTable) (library type : String) : Option Bool :=
  (f.flags.find? fun e => e.1 == (library, type)).map Prod.snd

def count (f : FloatingTable) : Nat := f.flags.countP Prod.snd

end FloatingTable
end GirBind
