import GirBind.Repository.Basic
import GirBind.Signature.Annotation
import GirBind.Signature.TypeRef

namespace GirBind

structure Parameter where
  name : Option String
  type : Option TypeRef
  transfer : Transfer
  nullable : Bool
  isOptional : Bool
  direction : Direction
  callerAllocates : Bool
  /-- It stands for any number of further arguments. -/
  isVariadic : Bool
  /-- The index of the parameter with the user data of this callback. -/
  closure : Option Nat
  /-- The index of the parameter that frees the user data. -/
  destroy : Option Nat
  scope : Option String
  doc : Option String

namespace Parameter

def ofNode (n : Node) : Parameter where
  name := n.name?
  type := TypeRef.ofParent? n
  transfer := .ofAttribute (n.attr? "transfer-ownership")
  nullable := n.flag "nullable" false || n.flag "allow-none" false
  isOptional := n.flag "optional" false
  direction := .ofAttribute (n.attr? "direction")
  callerAllocates := n.flag "caller-allocates" false
  isVariadic := (n.child? .varargs).isSome || n.name? == some "..."
  closure := (n.attr? "closure").bind Numeral.index?
  destroy := (n.attr? "destroy").bind Numeral.index?
  scope := n.attr? "scope"
  doc := n.doc?

def arrayLength (p : Parameter) : Option Nat := p.type.bind TypeRef.length

def isUserData (p : Parameter) : Bool := (p.type.bind TypeRef.name) == some "gpointer"

/-- The indexes that a parameter hides: its user data, the function that frees it, and its
length. -/
def hides (all : List Parameter) (p : Parameter) : List Nat :=
  (p.closure.filter fun i => (all[i]?.map isUserData).getD false).toList ++
    p.destroy.toList ++ p.arrayLength.toList

/-- The indexes of the parameters that the Java signature does not show. -/
def hiddenIndexes (all : List Parameter) : List Nat := all.flatMap (hides all)

end Parameter

inductive CallableKind
  | constructor
  | method
  | function
  | signal
  | callback
deriving DecidableEq

namespace CallableKind

def name : CallableKind → String
  | constructor => "constructor"
  | method => "method"
  | function => "function"
  | signal => "signal"
  | callback => "callback"

def ofKind? : NodeKind → Option CallableKind
  | .constructor => some constructor
  | .method => some method
  | .function => some function
  | .signal => some signal
  | .callback => some callback
  | _ => none

end CallableKind

structure Callable where
  kind : CallableKind
  name : String
  cIdentifier : Option String
  deprecated : Bool
  throws : Bool
  introspectable : Bool
  shadowedBy : Option String
  shadows : Option String
  movedTo : Option String
  platforms : PlatformSet
  doc : Option String
  docDeprecated : Option String
  /-- The parameters without the instance. -/
  parameters : List Parameter
  instanceParameter : Option Parameter
  returnValue : Option Parameter
  detailed : Bool
  action : Bool
  noHooks : Bool
  noRecurse : Bool
  stage : Stage

namespace Callable

def ofNode? (n : Node) : Option Callable :=
  (CallableKind.ofKind? n.kind).map fun kind => {
    kind
    name := n.name
    cIdentifier := n.cIdentifier?
    deprecated := n.deprecated
    throws := n.flag "throws" false
    introspectable := n.introspectable
    shadowedBy := n.attr? "shadowed-by"
    shadows := n.attr? "shadows"
    movedTo := n.attr? "moved-to"
    platforms := n.platforms
    doc := n.doc?
    docDeprecated := n.docDeprecated?
    parameters := ((n.child? .parameters).map fun ps =>
      (ps.childrenOf .parameter).map .ofNode).getD []
    instanceParameter := ((n.child? .parameters).bind (·.child? .instanceParameter)).map .ofNode
    returnValue := (n.child? .returnValue).map .ofNode
    detailed := n.flag "detailed" false
    action := n.flag "action" false
    noHooks := n.flag "no-hooks" false
    noRecurse := n.flag "no-recurse" false
    stage := .ofAttribute (n.attr? "when") }

def returnType? (c : Callable) : Option TypeRef := c.returnValue.bind Parameter.type

end Callable

namespace RegisteredType

/-- What a type declares that can be called, in order of declaration. -/
def callables (t : RegisteredType) : List Callable := t.node.children.filterMap Callable.ofNode?

def aliasTarget? (t : RegisteredType) : Option TypeRef :=
  if t.variant = .aliasType then TypeRef.ofParent? t.node else none

end RegisteredType
end GirBind
