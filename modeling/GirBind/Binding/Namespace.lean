import GirBind.Binding.Callable
import GirBind.Floating
import GirBind.Java.Literal

namespace GirBind

def decided {ε : Type u} {α : Type v} (l : List (Except ε α)) : List α :=
  l.filterMap fun
    | .ok a => some a
    | .error _ => none

def refused {ε : Type u} {α : Type v} (l : List (Except ε α)) : List ε :=
  l.filterMap fun
    | .ok _ => none
    | .error e => some e

def SkippedDeclaration.of (name : String) (o : Obstacle) : SkippedDeclaration := ⟨name, o.message⟩

namespace BindingContext

def superType (ctx : BindingContext) (declaration name : String) : Except Obstacle String :=
  match ctx.table.lookup? ctx.library.name name with
  | some e => .ok (ctx.table.qualifiedJavaName e.library e.type.name)
  | none => .error (.unresolved ctx.library.name declaration name)

/-- The rule and Java type of a field. One without a type holds the address of a function. -/
def fieldType (ctx : BindingContext) (declaration : String) (field : Node) :
    Except Obstacle (MarshalRule × String) :=
  match TypeRef.ofParent? field with
  | none => .ok (.pointer, memorySegment)
  | some t => do
    let rule ← ctx.table.marshalRule ctx.library.name declaration t .input false
    let javaType ← ctx.table.javaType ctx.library.name declaration t .input
    return (rule, javaType)

def fieldDecisions (ctx : BindingContext) (t : RegisteredType) : List FieldDecision :=
  t.fields.filterMap fun field => do
    let name ← field.name?
    match ctx.fieldType s!"{t.name}.{name}" field with
    | .ok (rule, javaType) => some ⟨name, Java.memberName name, javaType, rule⟩
    | .error _ => none

def recordDecision (ctx : BindingContext) (t : RegisteredType) : RecordDecision where
  disguised := t.isDisguised
  isOpaque := t.isOpaque || t.hasNoLayout
  pointer := t.isPointer
  foreign := t.isForeign
  structFor := t.structFor?
  copyFunction := t.copyFunction?
  freeFunction := t.freeFunction?
  fields := ctx.fieldDecisions t

def enumMemberDecision (ctx : BindingContext) (n : Node) : EnumMemberDecision where
  name := n.name
  visibleName := Java.constantName n.name
  value := (n.attr? "value").getD "0"
  cIdentifier := n.cIdentifier?
  platforms := n.platforms
  doc := ctx.doc.nodeComment n

def enumerationDecision (ctx : BindingContext) (t : RegisteredType) : EnumerationDecision where
  bitfield := t.isBitfield
  errorDomain := t.errorDomain?
  members := t.members.map ctx.enumMemberDecision

/-- What an alias stands for, which must resolve to the end. -/
def aliasDecision (ctx : BindingContext) (t : RegisteredType) : Except Obstacle AliasDecision :=
  match t.aliasTarget? with
  | none => .error (.unsupported ctx.library.name t.name "alias without a target type")
  | some target => do
    let resolved ← ctx.table.resolveRef ctx.library.name t.name target
    let underlying ← ctx.table.underlying t.name resolved
    let javaType ← ctx.table.javaType ctx.library.name t.name target .input
    return ⟨javaType, underlying.primitive?.isSome⟩

def aliasPart (ctx : BindingContext) (t : RegisteredType) :
    Except Obstacle (Option AliasDecision) :=
  if t.variant = .aliasType then (ctx.aliasDecision t).map some else .ok none

def callbackPart (ctx : BindingContext) (t : RegisteredType) :
    Except Obstacle (Option MemberDecision) :=
  if t.variant = .callback then
    match Callable.ofNode? t.node with
    | some c => (ctx.bindCallable c.name (some t) c).map some
    | none => .ok none
  else
    .ok none

def memberAttempts (ctx : BindingContext) (t : RegisteredType) :
    List (Except SkippedDeclaration MemberDecision) :=
  t.callables.map fun c =>
    let declaration := s!"{t.name}.{c.name}"
    (ctx.bindCallable declaration (some t) c).mapError (.of declaration)

def typeDecision (ctx : BindingContext) (floating : FloatingTable) (t : RegisteredType)
    (parent : Option String) (implements : List String) (aliasType : Option AliasDecision)
    (callback : Option MemberDecision) : TypeDecision where
  name := t.name
  javaName := Java.simpleType t.name
  qualifiedName := ctx.table.qualifiedJavaName ctx.library.name t.name
  variant := t.variant
  cType := t.node.cType?
  platforms := t.platforms
  deprecated := t.node.deprecated
  floating := floating.get? ctx.library.name t.name
  parent
  implements
  getType := t.getTypeFunction?
  record :=
    if t.variant = .record ∨ t.variant = .union then some (ctx.recordDecision t) else none
  enumeration :=
    if t.variant = .enumeration then some (ctx.enumerationDecision t) else none
  aliasType
  callback
  members := decided (ctx.memberAttempts t)
  doc := ctx.doc.typeComment t

/-- The decision about a type, with those of its members that have none. -/
def bindType (ctx : BindingContext) (floating : FloatingTable) (t : RegisteredType) :
    Except Obstacle (TypeDecision × List SkippedDeclaration) := do
  let parent ← t.parent?.mapM (ctx.superType t.name)
  let implements ← (t.implements ++ t.prerequisites).mapM (ctx.superType t.name)
  let aliasType ← ctx.aliasPart t
  let callback ← ctx.callbackPart t
  return (ctx.typeDecision floating t parent implements aliasType callback,
    refused (ctx.memberAttempts t))

def bindConstant (ctx : BindingContext) (n : Node) : Except Obstacle ConstantDecision := do
  let unsupported {α : Type} (reason : String) : Except Obstacle α :=
    .error (.unsupported ctx.library.name n.name reason)
  match TypeRef.ofParent? n with
  | none => unsupported "constant without a type"
  | some t =>
    let resolved ← ctx.table.resolveRef ctx.library.name n.name t
    match (← ctx.table.underlying n.name resolved) with
    | .registered _ => unsupported "constant of a declared type"
    | .primitive p =>
      let raw := (n.attr? "value").getD ""
      match Java.literal? p raw with
      | none => unsupported s!"value '{raw}' is not a valid {p.javaType} literal"
      | some value =>
        return {
          name := n.name
          visibleName := Java.constantName n.name
          javaType := p.javaType
          value
          platforms := n.platforms
          doc := ctx.doc.nodeComment n }

def typeAttempts (ctx : BindingContext) (floating : FloatingTable) :
    List (Except SkippedDeclaration (TypeDecision × List SkippedDeclaration)) :=
  ctx.library.types.values.map fun t => (ctx.bindType floating t).mapError (.of t.name)

def functionAttempts (ctx : BindingContext) : List (Except SkippedDeclaration MemberDecision) :=
  (ctx.library.functions.filterMap Callable.ofNode?).map fun c =>
    (ctx.bindCallable c.name none c).mapError (.of c.name)

def constantAttempts (ctx : BindingContext) : List (Except SkippedDeclaration ConstantDecision) :=
  ctx.library.constants.map fun n => (ctx.bindConstant n).mapError (.of n.name)

/-- What an attempt to bind a type leaves out: some members, or the whole type. -/
def skippedByType :
    Except SkippedDeclaration (TypeDecision × List SkippedDeclaration) → List SkippedDeclaration
  | .ok (_, members) => members
  | .error type => [type]

/-- The decisions about a namespace. A declaration that meets an obstacle is left out. -/
def bindNamespace (ctx : BindingContext) (floating : FloatingTable) : NamespaceDecision :=
  let types := ctx.typeAttempts floating
  let functions := ctx.functionAttempts
  let constants := ctx.constantAttempts
  { name := ctx.library.name
    version := ctx.library.version
    package := ctx.table.package ctx.library.name
    sharedLibrary := ctx.library.sharedLibrary?
    platforms := ctx.library.platforms
    types := (decided types).map Prod.fst
    functions := decided functions
    constants := decided constants
    skipped := types.flatMap skippedByType ++ refused functions ++ refused constants }

end BindingContext

def SymbolTable.bind (table : SymbolTable) (floating : FloatingTable) : List NamespaceDecision :=
  table.namespaces.map fun ns => BindingContext.bindNamespace ⟨table, ns⟩ floating

end GirBind
