import GirBind.Node.Kind
import GirBind.OrderedMap
import GirBind.Platform

namespace GirBind

/-- An element of a description. The line is where its start tag stands, and zero for an element
that no document contains. -/
structure Node where
  kind : NodeKind
  attributes : OrderedMap String
  children : List Node
  text : String
  platforms : PlatformSet
  line : Nat

namespace Node

def attr? (n : Node) (key : String) : Option String := n.attributes.get? key

/-- A yes-or-no attribute. Any other value counts as absent. -/
def flag (n : Node) (key : String) (absent : Bool) : Bool :=
  match n.attr? key with
  | some "1" | some "true" => true
  | some "0" | some "false" => false
  | _ => absent

def name? (n : Node) : Option String := n.attr? "name"

def name (n : Node) : String := n.name?.getD ""

def cType? (n : Node) : Option String := n.attr? "c:type"

def cIdentifier? (n : Node) : Option String := n.attr? "c:identifier"

def version? (n : Node) : Option String := n.attr? "version"

def deprecated (n : Node) : Bool := n.flag "deprecated" false

def introspectable (n : Node) : Bool := n.flag "introspectable" true

def childrenOf (n : Node) (kind : NodeKind) : List Node := n.children.filter (·.kind == kind)

def child? (n : Node) (kind : NodeKind) : Option Node := n.children.find? (·.kind == kind)

/-- The documentation text. An empty one counts as absent. -/
def doc? (n : Node) : Option String := ((n.child? .doc).map text).filter (· != "")

def docDeprecated? (n : Node) : Option String :=
  ((n.child? .docDeprecated).map text).filter (· != "")

def withOwnPlatforms (n : Node) (p : PlatformSet) : Node := { n with platforms := p }

mutual

def withPlatforms (p : PlatformSet) : Node → Node
  | ⟨kind, attributes, children, text, _, line⟩ =>
    ⟨kind, attributes, allWithPlatforms p children, text, p, line⟩

def allWithPlatforms (p : PlatformSet) : List Node → List Node
  | [] => []
  | n :: ns => withPlatforms p n :: allWithPlatforms p ns

end

theorem allWithPlatforms_eq_map (p : PlatformSet) (ns : List Node) :
    allWithPlatforms p ns = ns.map (withPlatforms p) := by
  induction ns with
  | nil => rw [allWithPlatforms, List.map_nil]
  | cons n ns ih => rw [allWithPlatforms, List.map_cons, ih]

end Node
end GirBind
