import GirBind.Error
import GirBind.Node.Identity

namespace GirBind

namespace Node

/-- Adds one more description of a member. The first description keeps its place and content,
the platforms add up. -/
def absorb (n : Node) : List Node → List Node
  | [] => [n]
  | m :: ms =>
    if sameMember m n then
      m.withOwnPlatforms (m.platforms ∪ n.platforms) :: ms
    else
      m :: absorb n ms

def unite (first second : List Node) : List Node := second.foldl (fun ms n => absorb n ms) first

/-- Two descriptions of one element in one. Kind, attributes and text are those of the first. -/
def merge (a b : Node) : Node :=
  ⟨a.kind, a.attributes, unite a.children b.children, a.text, a.platforms ∪ b.platforms, 0⟩

def sameFields (a b : Node) : Bool := sameShapes (a.childrenOf .field) (b.childrenOf .field)

def withoutFields (n : Node) : Node := { n with children := n.children.filter (·.kind != .field) }

/-- Two descriptions of one record in one. Fields that differ are all left out, since an offset
would hold on some platforms only. -/
def mergeRecord (a b : Node) : Node :=
  if sameFields a b then merge a b else (merge a b).withoutFields

end Node

def RegisteredType.merge (a b : RegisteredType) : Except Error RegisteredType :=
  if a.variant = b.variant then
    .ok ⟨a.variant,
      if a.variant = .record then a.node.mergeRecord b.node else a.node.merge b.node⟩
  else
    .error (.merge (.variants a.name a.variant a.platforms b.variant b.platforms))

namespace Namespace

def mergeEntry (b types : OrderedMap RegisteredType) (e : String × RegisteredType) :
    Except Error (OrderedMap RegisteredType) :=
  match b.get? e.1 with
  | none => .ok types
  | some t => (e.2.merge t).map (types.insert e.1)

/-- The types of the first namespace, each merged with its counterpart in the second, and then
the types that only the second one has. -/
def mergeTypes (a b : OrderedMap RegisteredType) : Except Error (OrderedMap RegisteredType) := do
  let merged ← a.entries.foldlM (mergeEntry b) a
  return b.entries.foldl (fun types e => types.insertNew e.1 e.2) merged

/-- Two descriptions of one namespace in one. The version is that of the first. -/
def merge (a b : Namespace) : Except Error Namespace :=
  if a.name = b.name then do
    let types ← mergeTypes a.types b.types
    return {
      name := a.name
      version := a.version
      attributes := b.attributes.entries.foldl (fun m e => m.insertNew e.1 e.2) a.attributes
      types
      functions := Node.unite a.functions b.functions
      constants := Node.unite a.constants b.constants
      other := Node.unite a.other b.other
      platforms := a.platforms ∪ b.platforms }
  else
    .error (.merge (.names a.name b.name))

end Namespace

namespace Repository

def uniteValues {α : Type} [BEq α] (first second : List α) : List α :=
  second.foldl (fun l x => if l.contains x then l else l ++ [x]) first

def merge (a b : Repository) : Except Error Repository := do
  let library ← a.library.merge b.library
  return {
    includes := uniteValues a.includes b.includes
    packages := uniteValues a.packages b.packages
    cIncludes := uniteValues a.cIncludes b.cIncludes
    library
    platforms := a.platforms ∪ b.platforms }

/-- Adds one more description. It joins the one with the same namespace name, or comes last. -/
def absorb (r : Repository) : List Repository → Except Error (List Repository)
  | [] => .ok [r]
  | s :: ss =>
    if s.library.name = r.library.name then
      (s.merge r).map (· :: ss)
    else
      (absorb r ss).map (s :: ·)

def mergeAll (rs : List Repository) : Except Error (List Repository) :=
  rs.foldlM (fun merged r => absorb r merged) []

end Repository
end GirBind
