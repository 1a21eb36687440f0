import GirBind.Node.Basic
import GirBind.Numeral.Integer

namespace GirBind

/-- A mention of a type by name. An array mentions the type of its elements. -/
structure TypeRef where
  isArray : Bool
  name : Option String
  cType : Option String
  element : Option TypeRef
  length : Option Nat
  fixedSize : Option Nat
  zeroTerminated : Bool

namespace TypeRef

/-- A C type that ends in an asterisk is a pointer. -/
def isPointer (t : TypeRef) : Bool := (t.cType.map fun c => c.toList.getLast? == some '*').getD false

mutual

def ofNode? : Node → Option TypeRef
  | n@⟨kind, _, children, _, _, _⟩ =>
    if kind = .type ∨ kind = .array then
      some {
        isArray := kind == .array
        name := n.name?
        cType := n.cType?
        element := if kind = .array then firstOf? children else none
        length := (n.attr? "length").bind Numeral.index?
        fixedSize := (n.attr? "fixed-size").bind Numeral.index?
        zeroTerminated := n.flag "zero-terminated" false }
    else
      none

def firstOf? : List Node → Option TypeRef
  | [] => none
  | n :: ns => (ofNode? n).or (firstOf? ns)

end

def ofParent? (n : Node) : Option TypeRef := firstOf? n.children

end TypeRef

end GirBind
