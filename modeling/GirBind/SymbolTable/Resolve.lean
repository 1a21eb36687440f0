import GirBind.Error
import GirBind.Signature.Callable
import GirBind.Signature.Primitive
import GirBind.SymbolTable.Basic

namespace GirBind

inductive ResolvedType
  | registered (entry : TypeEntry)
  | primitive (type : Primitive)

namespace ResolvedType

def primitive? : ResolvedType → Option Primitive
  | primitive p => some p
  | registered _ => none

end ResolvedType

namespace SymbolTable

/-- The type of a name. A declared type comes before a primitive one. -/
def resolve (table : SymbolTable) (current declaration name : String) :
    Except Obstacle ResolvedType :=
  match table.lookup? current name with
  | some entry => .ok (.registered entry)
  | none =>
    match Primitive.ofName? name with
    | some p => .ok (.primitive p)
    | none => .error (.unresolved current declaration name)

/-- The type that a mention leads to. An array is a pointer, but its element type must resolve
too. A mention without a name is a pointer. -/
def resolveRef (table : SymbolTable) (current declaration : String) (t : TypeRef) :
    Except Obstacle ResolvedType :=
  if t.isArray then
    match t.element.bind TypeRef.name with
    | some name => (table.resolve current declaration name).map fun _ => .primitive .pointer
    | none => .ok (.primitive .pointer)
  else
    match t.name with
    | some name => table.resolve current declaration name
    | none => .ok (.primitive .pointer)

def identities (table : SymbolTable) : List (String × String) :=
  table.namespaces.flatMap fun ns => ns.types.values.map fun t => (ns.name, t.name)

def otherThan (l : List (String × String)) (i : String × String) : List (String × String) :=
  l.filter (· != i)

theorem length_otherThan {l : List (String × String)} {i : String × String} (h : i ∈ l) :
    (otherThan l i).length < l.length := by
  refine Nat.lt_of_le_of_ne (List.length_filter_le _ _) fun he => ?_
  have := List.length_filter_eq_length_iff.1 he i h
  simp at this

/-- Follows aliases while they are among those that have not been met before. -/
def followAliases (table : SymbolTable) (declaration : String) (unmet : List (String × String)) :
    ResolvedType → Except Obstacle ResolvedType
  | .primitive p => .ok (.primitive p)
  | .registered e =>
    if e.type.variant = .aliasType then
      if _h : e.identity ∈ unmet then
        match e.type.aliasTarget? with
        | none =>
          .error (.unsupported e.library declaration s!"alias {e.type.name} has no target")
        | some target =>
          match table.resolveRef e.library declaration target with
          | .error o => .error o
          | .ok next => followAliases table declaration (otherThan unmet e.identity) next
      else
        .error (.unsupported e.library declaration s!"alias cycle through {e.type.name}")
    else
      .ok (.registered e)
termination_by unmet.length
decreasing_by exact length_otherThan _h

def underlying (table : SymbolTable) (declaration : String) (r : ResolvedType) :
    Except Obstacle ResolvedType :=
  let start :=
    match r with
    | .registered e => [e.identity]
    | .primitive _ => []
  table.followAliases declaration (start ++ table.identities) r

end SymbolTable
end GirBind
