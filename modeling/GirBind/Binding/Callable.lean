import GirBind.Binding.Decision
import GirBind.Binding.Marshal
import GirBind.Doc.Javadoc

namespace GirBind

def isInterface (owner : Option RegisteredType) : Bool :=
  (owner.map fun t => t.variant == .interface).getD false

/-- What a callable of a type becomes. Without an owner it belongs to the namespace. An interface
has no constructors. -/
def BindingForm.of (owner : Option RegisteredType) (c : Callable) : BindingForm :=
  match c.kind, owner with
  | .callback, _ => upcall
  | .function, _ | _, none => staticFunction
  | kind, some t =>
    if t.variant = .interface then interfaceMethod
    else if kind = .constructor then
      if c.name = "new" then constructor else factory
    else instanceMethod

def isQualified (target : String) : Bool := target.toList.contains '.'

/-- The first reason that holds against a callable. -/
def Suppression.of? (form : BindingForm) (c : Callable) : Option Suppression :=
  match c.shadowedBy with
  | some target => some (shadowedBy target)
  | none =>
    match c.movedTo.filter isQualified with
    | some target => some (movedTo target)
    | none =>
      if !c.introspectable then some notIntrospectable
      else if form = .constructor ∧ c.deprecated then some deprecatedConstructor
      else none

/-- The name before it is adapted to Java. A move within the type gives a new name, and otherwise a
callable takes the name of the one that it shadows. -/
def Callable.publicName (c : Callable) : String :=
  (c.movedTo.filter fun target => !isQualified target).getD (c.shadows.getD c.name)

/-- The name in Java. What an interface declares must not hide a method of every object. -/
def Callable.visibleName (owner : Option RegisteredType) (form : BindingForm) (c : Callable) :
    String :=
  if c.kind = .signal then
    "on" ++ Java.camelCase true c.publicName
  else if form = .upcall then
    "run"
  else if form = .constructor then
    match owner with
    | some t => Java.simpleType t.name
    | none => Java.memberName c.publicName
  else if isInterface owner then
    Java.escapeObjectMethod (Java.memberName c.publicName)
  else
    Java.memberName c.publicName

structure BindingContext where
  table : SymbolTable
  library : Namespace

namespace BindingContext

def doc (ctx : BindingContext) : Doc.Context := ⟨ctx.table, ctx.library.name⟩

def parameterType (ctx : BindingContext) (declaration : String) (p : Parameter) :
    Except Obstacle String :=
  if p.isVariadic then
    .ok "java.lang.Object..."
  else
    match p.type with
    | some t => ctx.table.javaType ctx.library.name declaration t p.direction
    | none => .ok memorySegment

def parameterDecision (ctx : BindingContext) (declaration : String) (hidden : List Nat)
    (p : Parameter) (index : Nat) : Except Obstacle ParameterDecision :=
  (ctx.parameterType declaration p).map fun javaType => {
    name := if p.isVariadic then "varargs" else Java.memberName (p.name.getD "")
    javaType
    direction := p.direction
    transfer := p.transfer
    nullable := p.nullable
    hidden := hidden.contains index
    isVariadic := p.isVariadic }

def parameterDecisions (ctx : BindingContext) (declaration : String) (ps : List Parameter) :
    Except Obstacle (List ParameterDecision) :=
  ps.zipIdx.mapM fun (p, i) =>
    ctx.parameterDecision declaration (Parameter.hiddenIndexes ps) p i

/-- The Java type of the result. A constructor yields the type that declares it. -/
def returnType (ctx : BindingContext) (declaration : String) (owner : Option RegisteredType)
    (c : Callable) : Except Obstacle String :=
  match c.kind, owner with
  | .constructor, some t => .ok (ctx.table.qualifiedJavaName ctx.library.name t.name)
  | _, _ =>
    match c.returnType? with
    | some t => ctx.table.javaType ctx.library.name declaration t .input
    | none => .ok "void"

structure Signature where
  descriptor : Option Descriptor
  returnType : String
  parameters : List ParameterDecision

def Signature.none : Signature := ⟨.none, "void", []⟩

def signature (ctx : BindingContext) (declaration : String) (owner : Option RegisteredType)
    (c : Callable) : Except Obstacle Signature := do
  let descriptor ← ctx.table.descriptor ctx.library.name declaration c
  let returnType ← ctx.returnType declaration owner c
  let parameters ← ctx.parameterDecisions declaration c.parameters
  return ⟨some descriptor, returnType, parameters⟩

/-- The helper of a constructor. Plain structures are not kept in the instance cache. -/
def constructorHelper (ctx : BindingContext) (owner : RegisteredType) (form : BindingForm)
    (c : Callable) : ConstructorHelper where
  name := "construct" ++ Java.camelCase true c.name
  transfersOwnership := (c.returnValue.map fun r => r.transfer == .full).getD false
  cachesInstance := form == .constructor && owner.variant != .record
  returns := ctx.table.qualifiedJavaName ctx.library.name owner.name

def signalInfo (c : Callable) : SignalInfo where
  callbackType := Java.camelCase true (c.name ++ "_callback")
  emitName := "emit" ++ Java.camelCase true c.name
  detailed := c.detailed
  action := c.action
  noHooks := c.noHooks
  noRecurse := c.noRecurse
  stage := c.stage

def suppression? (owner : Option RegisteredType) (c : Callable) : Option Suppression :=
  Suppression.of? (BindingForm.of owner c) c

def callablePlatforms (ctx : BindingContext) (owner : Option RegisteredType) (c : Callable) :
    PlatformSet :=
  ((owner.map RegisteredType.platforms).getD ctx.library.platforms) ∩ c.platforms

def boundSignature (ctx : BindingContext) (declaration : String) (owner : Option RegisteredType)
    (c : Callable) : Except Obstacle Signature :=
  if (suppression? owner c).isSome then .ok .none else ctx.signature declaration owner c

def memberDecision (ctx : BindingContext) (owner : Option RegisteredType) (c : Callable)
    (sig : Signature) : MemberDecision :=
  let form := BindingForm.of owner c
  let suppressed := suppression? owner c
  let platforms := ctx.callablePlatforms owner c
  { name := c.name
    kind := c.kind
    cIdentifier := c.cIdentifier
    visibleName := c.visibleName owner form
    binding := form
    suppressed
    descriptor := sig.descriptor
    returnType := sig.returnType
    parameters := sig.parameters
    throws := c.throws
    deprecated := c.deprecated
    platforms
    constructor :=
      if c.kind = .constructor ∧ suppressed.isNone then
        owner.map fun t => ctx.constructorHelper t form c
      else
        none
    yieldsOwnership := c.kind == .method && c.name == "unref"
    signal := if c.kind = .signal then some (signalInfo c) else none
    doc := ctx.doc.callableComment c ⟨form == .constructor, platforms, c.kind == .signal⟩ }

def bindCallable (ctx : BindingContext) (declaration : String) (owner : Option RegisteredType)
    (c : Callable) : Except Obstacle MemberDecision :=
  (ctx.boundSignature declaration owner c).map (ctx.memberDecision owner c)

end BindingContext
end GirBind
