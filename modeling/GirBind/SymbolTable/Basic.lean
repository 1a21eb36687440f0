import GirBind.Java.Name
import GirBind.Repository.Basic

namespace GirBind

/-- A declaration that a native identifier leads to. The owner is the type that declares it. -/
structure Symbol where
  library : String
  owner : Option String
  name : String
  node : Node

structure TypeEntry where
  library : String
  type : RegisteredType

def TypeEntry.identity (e : TypeEntry) : String × String := (e.library, e.type.name)

structure PackageNaming where
  packagePrefix : String
  overrides : OrderedMap String

/-- The package of a namespace: its own one, or the common start and the name in lower case. -/
def PackageNaming.package (p : PackageNaming) (library : String) : String :=
  (p.overrides.get? library).getD s!"{p.packagePrefix}.{Text.lower library}"

structure SymbolTable where
  libraries : OrderedMap Namespace
  naming : PackageNaming
  byIdentifier : OrderedMap Symbol
  byNativeType : OrderedMap TypeEntry

namespace Symbol

def entry? (library : String) (owner : Option String) (identifier : Option String) (n : Node) :
    Option (String × Symbol) :=
  match identifier, n.name? with
  | some identifier, some name => some (identifier, ⟨library, owner, name, n⟩)
  | _, _ => none

def isIndexed : NodeKind → Bool
  | .constructor | .method | .function | .member => true
  | _ => false

def ofType (library name : String) (t : RegisteredType) : List (String × Symbol) :=
  (t.node.children.filter fun n => isIndexed n.kind).filterMap fun n =>
    entry? library (some name) n.cIdentifier? n

/-- All symbols of a namespace: functions, then constants, which go by their C type, then the
members of each type. -/
def ofNamespace (ns : Namespace) : List (String × Symbol) :=
  ns.functions.filterMap (fun n => entry? ns.name none n.cIdentifier? n) ++
    ns.constants.filterMap (fun n => entry? ns.name none n.cType? n) ++
      ns.types.entries.flatMap fun e => ofType ns.name e.1 e.2

end Symbol

/-- The native type names of a namespace. A type without a C type goes by its registered name. -/
def TypeEntry.ofNamespace (ns : Namespace) : List (String × TypeEntry) :=
  ns.types.values.filterMap fun t =>
    (t.node.cType?.or t.glibTypeName?).map fun key => (key, ⟨ns.name, t⟩)

namespace SymbolTable

def empty (naming : PackageNaming) : SymbolTable := ⟨∅, naming, ∅, ∅⟩

/-- Indexes one more namespace. Of two declarations with one key the first is found, of two
namespaces with one name the last. -/
def add (table : SymbolTable) (ns : Namespace) : SymbolTable :=
  { table with
    libraries := table.libraries.insert ns.name ns
    byIdentifier :=
      (Symbol.ofNamespace ns).foldl (fun m e => m.insertNew e.1 e.2) table.byIdentifier
    byNativeType :=
      (TypeEntry.ofNamespace ns).foldl (fun m e => m.insertNew e.1 e.2) table.byNativeType }

def build (repositories : List Repository) (naming : PackageNaming) : SymbolTable :=
  repositories.foldl (fun table r => table.add r.library) (empty naming)

def namespaces (table : SymbolTable) : List Namespace := table.libraries.values

def namespace? (table : SymbolTable) (name : String) : Option Namespace :=
  table.libraries.get? name

def package (table : SymbolTable) (library : String) : String := table.naming.package library

def qualifiedJavaName (table : SymbolTable) (library type : String) : String :=
  s!"{table.package library}.{Java.simpleType type}"

def symbol? (table : SymbolTable) (identifier : String) : Option Symbol :=
  table.byIdentifier.get? identifier

def nativeType? (table : SymbolTable) (cType : String) : Option TypeEntry :=
  table.byNativeType.get? cType

/-- The declared type of a name. Without a namespace of its own the name belongs to `current`. -/
def lookup? (table : SymbolTable) (current name : String) : Option TypeEntry :=
  let q := QualifiedName.ofText name
  (table.namespace? (q.library.getD current)).bind fun ns =>
    (ns.types.get? q.name).map fun t => ⟨ns.name, t⟩

end SymbolTable
end GirBind
