import GirBind.Node.Basic

namespace GirBind

/-- The sorts of declared types. A bitfield is an enumeration. -/
inductive Variant
  | aliasType
  | boxed
  | callback
  | classType
  | enumeration
  | interface
  | record
  | union
deriving DecidableEq

namespace Variant

def name : Variant → String
  | aliasType => "alias"
  | boxed => "boxed"
  | callback => "callback"
  | classType => "class"
  | enumeration => "enumeration"
  | interface => "interface"
  | record => "record"
  | union => "union"

def ofKind? : NodeKind → Option Variant
  | .aliasType => some aliasType
  | .boxed => some boxed
  | .callback => some callback
  | .classType => some classType
  | .enumeration | .bitfield => some enumeration
  | .interface => some interface
  | .record => some record
  | .union => some union
  | _ => none

end Variant

structure RegisteredType where
  variant : Variant
  node : Node

namespace RegisteredType

def ofNode? (n : Node) : Option RegisteredType :=
  (Variant.ofKind? n.kind).map fun v => ⟨v, n⟩

def name (t : RegisteredType) : String := t.node.name

def platforms (t : RegisteredType) : PlatformSet := t.node.platforms

def isBitfield (t : RegisteredType) : Bool := t.node.kind == .bitfield

def glibTypeName? (t : RegisteredType) : Option String := t.node.attr? "glib:type-name"

def getTypeFunction? (t : RegisteredType) : Option String := t.node.attr? "glib:get-type"

def parent? (t : RegisteredType) : Option String :=
  if t.variant = .classType then t.node.attr? "parent" else none

def isAbstract (t : RegisteredType) : Bool := t.node.flag "abstract" false

def isFinal (t : RegisteredType) : Bool := t.node.flag "final" false

def errorDomain? (t : RegisteredType) : Option String :=
  if t.variant = .enumeration then
    (t.node.attr? "glib:error-domain").or (t.node.attr? "error-domain")
  else
    none

def isDisguised (t : RegisteredType) : Bool := t.node.flag "disguised" false

def isOpaque (t : RegisteredType) : Bool := t.node.flag "opaque" false

def isPointer (t : RegisteredType) : Bool := t.node.flag "pointer" false

def isForeign (t : RegisteredType) : Bool := t.node.flag "foreign" false

def structFor? (t : RegisteredType) : Option String := t.node.attr? "glib:is-gtype-struct-for"

def copyFunction? (t : RegisteredType) : Option String := t.node.attr? "copy-function"

def freeFunction? (t : RegisteredType) : Option String := t.node.attr? "free-function"

def fields (t : RegisteredType) : List Node := t.node.childrenOf .field

def methods (t : RegisteredType) : List Node := t.node.childrenOf .method

def members (t : RegisteredType) : List Node := t.node.childrenOf .member

/-- Without any field or union inside there is nothing to lay out. -/
def hasNoLayout (t : RegisteredType) : Bool :=
  t.fields.isEmpty && (t.node.child? .union).isNone

def hasMethod (t : RegisteredType) (name : String) : Bool :=
  t.methods.any (·.name? == some name)

def implements (t : RegisteredType) : List String :=
  (t.node.childrenOf .implements).filterMap Node.name?

def prerequisites (t : RegisteredType) : List String :=
  (t.node.childrenOf .prerequisite).filterMap Node.name?

end RegisteredType

structure Dependency where
  name : String
  version : Option String
deriving DecidableEq

/-- All top-level declarations of one library. The rest holds macros, inline functions and
documentation sections. -/
structure Namespace where
  name : String
  version : String
  attributes : OrderedMap String
  types : OrderedMap RegisteredType
  functions : List Node
  constants : List Node
  other : List Node
  platforms : PlatformSet

namespace Namespace

def function? (ns : Namespace) (name : String) : Option Node :=
  ns.functions.find? (·.name? == some name)

def sharedLibrary? (ns : Namespace) : Option String := ns.attributes.get? "shared-library"

end Namespace

structure Repository where
  includes : List Dependency
  packages : List String
  cIncludes : List String
  library : Namespace
  platforms : PlatformSet

end GirBind
