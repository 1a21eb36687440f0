import GirBind.Markup.Position
import GirBind.Repository.Basic

namespace GirBind

inductive RepositoryFault
  | notRepository (found : NodeKind)
  | unnamed (kind : NodeKind)
  | severalNamespaces
  | notAllowed (kind parent : NodeKind)
  | noNamespace
  | duplicateType (name library : String)
deriving DecidableEq

def RepositoryFault.message : RepositoryFault → String
  | notRepository found => s!"Expected <repository>, found <{found.tag}>"
  | unnamed kind => s!"<{kind.tag}> without a name attribute"
  | severalNamespaces => "Multiple <namespace> elements in one repository"
  | notAllowed kind parent => s!"<{kind.tag}> is not allowed in <{parent.tag}>"
  | noNamespace => "Repository has no <namespace>"
  | duplicateType name library => s!"Duplicate type '{name}' in namespace {library}"

def Node.requireName (n : Node) : Except (Located RepositoryFault) String :=
  match n.name? with
  | some name => .ok name
  | none => .error ⟨n.line, .unnamed n.kind⟩

namespace Namespace

def addChild (ns : Namespace) (n : Node) : Except (Located RepositoryFault) Namespace :=
  match RegisteredType.ofNode? n with
  | some type => do
    let name ← n.requireName
    if ns.types.contains name then
      .error ⟨n.line, .duplicateType name ns.name⟩
    else
      return { ns with types := ns.types.insert name type }
  | none =>
    match n.kind with
    | .function => do
      let _ ← n.requireName
      return { ns with functions := ns.functions ++ [n] }
    | .constant => do
      let _ ← n.requireName
      return { ns with constants := ns.constants ++ [n] }
    | .functionMacro | .functionInline | .docsection | .doc | .metadata =>
      .ok { ns with other := ns.other ++ [n] }
    | kind => .error ⟨n.line, .notAllowed kind .library⟩

def header (platforms : PlatformSet) (n : Node) (name : String) : Namespace where
  name
  version := n.version?.getD ""
  attributes := (n.attributes.erase "name").erase "version"
  types := ∅
  functions := []
  constants := []
  other := []
  platforms

def ofNode (platforms : PlatformSet) (n : Node) : Except (Located RepositoryFault) Namespace := do
  let name ← n.requireName
  n.children.foldlM addChild (header platforms n name)

end Namespace

namespace Repository

/-- A description whose namespace may not have come yet. -/
structure Draft where
  includes : List Dependency
  packages : List String
  cIncludes : List String
  library : Option Namespace

def Draft.addChild (platforms : PlatformSet) (r : Draft) (n : Node) :
    Except (Located RepositoryFault) Draft :=
  match n.kind with
  | .dependency => do
    let name ← n.requireName
    return { r with includes := r.includes ++ [⟨name, n.version?⟩] }
  | .package => do
    let name ← n.requireName
    return { r with packages := r.packages ++ [name] }
  | .cInclude => do
    let name ← n.requireName
    return { r with cIncludes := r.cIncludes ++ [name] }
  | .library =>
    if r.library.isSome then
      .error ⟨n.line, .severalNamespaces⟩
    else do
      let ns ← Namespace.ofNode platforms n
      return { r with library := some ns }
  | .doc | .metadata => .ok r
  | kind => .error ⟨n.line, .notAllowed kind .repository⟩

def ofNode (platforms : PlatformSet) (root : Node) :
    Except (Located RepositoryFault) Repository :=
  if root.kind = .repository then do
    let r ← root.children.foldlM (Draft.addChild platforms) ⟨[], [], [], none⟩
    match r.library with
    | some ns => .ok ⟨r.includes, r.packages, r.cIncludes, ns, platforms⟩
    | none => .error ⟨root.line, .noNamespace⟩
  else
    .error ⟨root.line, .notRepository root.kind⟩

end Repository
end GirBind
