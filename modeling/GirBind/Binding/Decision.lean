import GirBind.Binding.Rule
import GirBind.Doc.Render
import GirBind.Signature.Callable

namespace GirBind

inductive BindingForm
  | instanceMethod
  | staticFunction
  /-- a constructor of the class, for the primary constructor -/
  | constructor
  /-- a static method that makes an instance, for any other constructor -/
  | factory
  | interfaceMethod
  /-- the method of a functional interface that native code calls -/
  | upcall
deriving DecidableEq

inductive Suppression
  | shadowedBy (target : String)
  | movedTo (target : String)
  | notIntrospectable
  /-- a newer constructor usually has the same Java signature -/
  | deprecatedConstructor
deriving DecidableEq

structure ConstructorHelper where
  name : String
  transfersOwnership : Bool
  cachesInstance : Bool
  returns : String
deriving DecidableEq

structure SignalInfo where
  callbackType : String
  emitName : String
  detailed : Bool
  action : Bool
  noHooks : Bool
  noRecurse : Bool
  stage : Stage
deriving DecidableEq

structure ParameterDecision where
  name : String
  javaType : String
  direction : Direction
  transfer : Transfer
  nullable : Bool
  /-- The binding supplies the value itself. -/
  hidden : Bool
  isVariadic : Bool
deriving DecidableEq

/-- A method, function, constructor, signal or callback. One that is suppressed has no descriptor,
no parameters and no result. -/
structure MemberDecision where
  name : String
  kind : CallableKind
  cIdentifier : Option String
  visibleName : String
  binding : BindingForm
  suppressed : Option Suppression
  descriptor : Option Descriptor
  returnType : String
  parameters : List ParameterDecision
  throws : Bool
  deprecated : Bool
  platforms : PlatformSet
  constructor : Option ConstructorHelper
  yieldsOwnership : Bool
  signal : Option SignalInfo
  doc : Option Doc.Converted
deriving DecidableEq

structure FieldDecision where
  name : String
  visibleName : String
  javaType : String
  rule : MarshalRule
deriving DecidableEq

structure RecordDecision where
  disguised : Bool
  /-- It is declared so, or there is nothing to lay out. -/
  isOpaque : Bool
  pointer : Bool
  foreign : Bool
  structFor : Option String
  copyFunction : Option String
  freeFunction : Option String
  fields : List FieldDecision
deriving DecidableEq

structure EnumMemberDecision where
  name : String
  visibleName : String
  value : String
  cIdentifier : Option String
  platforms : PlatformSet
  doc : Option Doc.Converted
deriving DecidableEq

structure EnumerationDecision where
  bitfield : Bool
  errorDomain : Option String
  members : List EnumMemberDecision
deriving DecidableEq

structure AliasDecision where
  target : String
  /-- The class holds a primitive value or text. Otherwise it extends its target. -/
  wrapsValue : Bool
deriving DecidableEq

structure TypeDecision where
  name : String
  javaName : String
  qualifiedName : String
  variant : Variant
  cType : Option String
  platforms : PlatformSet
  deprecated : Bool
  /-- Only a class has the flag. -/
  floating : Option Bool
  parent : Option String
  implements : List String
  getType : Option String
  record : Option RecordDecision
  enumeration : Option EnumerationDecision
  aliasType : Option AliasDecision
  /-- The signature of a callback type. -/
  callback : Option MemberDecision
  members : List MemberDecision
  doc : Option Doc.Converted
deriving DecidableEq

structure ConstantDecision where
  name : String
  visibleName : String
  javaType : String
  value : String
  platforms : PlatformSet
  doc : Option Doc.Converted
deriving DecidableEq

structure SkippedDeclaration where
  name : String
  reason : String
deriving DecidableEq

structure NamespaceDecision where
  name : String
  version : String
  package : String
  sharedLibrary : Option String
  platforms : PlatformSet
  types : List TypeDecision
  functions : List MemberDecision
  constants : List ConstantDecision
  skipped : List SkippedDeclaration
deriving DecidableEq

namespace MemberDecision

def platformGuard (d : MemberDecision) : Bool := d.platforms.needsGuard

def isSuppressed (d : MemberDecision) : Bool := d.suppressed.isSome

end MemberDecision

namespace TypeDecision

def platformGuard (d : TypeDecision) : Bool := d.platforms.needsGuard

def docs (d : TypeDecision) : List Doc.Converted :=
  d.doc.toList ++ (d.enumeration.map fun e => e.members.filterMap (·.doc)).getD [] ++
    (d.callback.bind (·.doc)).toList ++ d.members.filterMap (·.doc)

end TypeDecision

namespace NamespaceDecision

/-- The members of each type, the signature of each callback type, and the functions. -/
def callables (d : NamespaceDecision) : List MemberDecision :=
  d.types.flatMap (fun t => t.members ++ t.callback.toList) ++ d.functions

def docs (d : NamespaceDecision) : List Doc.Converted :=
  d.types.flatMap TypeDecision.docs ++ d.functions.filterMap (·.doc) ++
    d.constants.filterMap (·.doc)

def docMisses (d : NamespaceDecision) : Nat := d.docs.foldl (fun n doc => n + doc.misses) 0

end NamespaceDecision
end GirBind
