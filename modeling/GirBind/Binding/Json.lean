import GirBind.Binding.Decision
import GirBind.Json

namespace GirBind

open Json (field?)

def MarshalRule.toJson : MarshalRule → Json
  | void => .string "void"
  | scalar kind => .object [("scalar", .string kind.name)]
  | pointer => .string "pointer"
  | handle => .string "handle"
  | errorSlot => .string "error-slot"

def Descriptor.toJson (d : Descriptor) : Json := .object [
  ("return-rule", d.returnRule.toJson),
  ("parameters", .array (d.parameters.map MarshalRule.toJson)),
  ("varargs", .bool d.isVariadic)]

def BindingForm.name : BindingForm → String
  | instanceMethod => "instance-method"
  | staticFunction => "static-function"
  | constructor => "constructor"
  | factory => "factory"
  | interfaceMethod => "interface-default-method"
  | upcall => "upcall"

def Suppression.toJson : Suppression → Json
  | shadowedBy target =>
    .object [("reason", .string "shadowed-by"), ("target", .string target)]
  | movedTo target => .object [("reason", .string "moved-to"), ("target", .string target)]
  | notIntrospectable => .object [("reason", .string "not-introspectable")]
  | deprecatedConstructor => .object [("reason", .string "deprecated-constructor")]

def ConstructorHelper.toJson (h : ConstructorHelper) : Json := .object [
  ("name", .string h.name),
  ("transfers-ownership", .bool h.transfersOwnership),
  ("caches-instance", .bool h.cachesInstance),
  ("returns", .string h.returns)]

def SignalInfo.toJson (s : SignalInfo) : Json := .object [
  ("callback-type", .string s.callbackType),
  ("emit-name", .string s.emitName),
  ("detailed", .bool s.detailed),
  ("action", .bool s.action),
  ("no-hooks", .bool s.noHooks),
  ("no-recurse", .bool s.noRecurse),
  ("when", .string s.stage.name)]

def ParameterDecision.toJson (p : ParameterDecision) : Json := .object [
  ("name", .string p.name),
  ("java-type", .string p.javaType),
  ("direction", .string p.direction.name),
  ("transfer-ownership", .string p.transfer.name),
  ("nullable", .bool p.nullable),
  ("hidden", .bool p.hidden),
  ("varargs", .bool p.isVariadic)]

def docField (doc : Option Doc.Converted) : List (String × Json) :=
  field? "doc" (fun d => .string d.text) doc

def MemberDecision.toJson (m : MemberDecision) : Json := .object (
  [("name", .string m.name), ("kind", .string m.kind.name)] ++
  field? "c-identifier" .string m.cIdentifier ++
  [("visible-name", .string m.visibleName), ("binding", .string m.binding.name)] ++
  field? "suppressed" Suppression.toJson m.suppressed ++
  field? "descriptor" Descriptor.toJson m.descriptor ++
  [("return-type", .string m.returnType),
    ("parameters", .array (m.parameters.map ParameterDecision.toJson)),
    ("throws", .bool m.throws),
    ("deprecated", .bool m.deprecated),
    ("platforms", .strings m.platforms.names),
    ("platform-guard", .bool m.platformGuard)] ++
  field? "constructor" ConstructorHelper.toJson m.constructor ++
  [("yields-ownership", .bool m.yieldsOwnership)] ++
  field? "signal" SignalInfo.toJson m.signal ++
  docField m.doc)

def FieldDecision.toJson (f : FieldDecision) : Json := .object [
  ("name", .string f.name),
  ("visible-name", .string f.visibleName),
  ("java-type", .string f.javaType),
  ("rule", f.rule.toJson)]

def RecordDecision.toJson (r : RecordDecision) : Json := .object (
  [("disguised", .bool r.disguised),
    ("opaque", .bool r.isOpaque),
    ("pointer", .bool r.pointer),
    ("foreign", .bool r.foreign)] ++
  field? "struct-for" .string r.structFor ++
  field? "copy-function" .string r.copyFunction ++
  field? "free-function" .string r.freeFunction ++
  [("fields", .array (r.fields.map FieldDecision.toJson))])

def EnumMemberDecision.toJson (m : EnumMemberDecision) : Json := .object (
  [("name", .string m.name),
    ("visible-name", .string m.visibleName),
    ("value", .string m.value)] ++
  field? "c-identifier" .string m.cIdentifier ++
  [("platforms", .strings m.platforms.names)] ++
  docField m.doc)

def EnumerationDecision.toJson (e : EnumerationDecision) : Json := .object (
  [("bitfield", .bool e.bitfield)] ++
  field? "error-domain" .string e.errorDomain ++
  [("members", .array (e.members.map EnumMemberDecision.toJson))])

def AliasDecision.toJson (a : AliasDecision) : Json := .object [
  ("target", .string a.target),
  ("wraps-value", .bool a.wrapsValue)]

def TypeDecision.toJson (t : TypeDecision) : Json := .object (
  [("name", .string t.name),
    ("java-name", .string t.javaName),
    ("qualified-name", .string t.qualifiedName),
    ("variant", .string t.variant.name)] ++
  field? "c-type" .string t.cType ++
  [("platforms", .strings t.platforms.names),
    ("platform-guard", .bool t.platformGuard),
    ("deprecated", .bool t.deprecated)] ++
  field? "floating" .bool t.floating ++
  field? "parent" .string t.parent ++
  (if t.implements.isEmpty then [] else [("implements", .strings t.implements)]) ++
  field? "get-type" .string t.getType ++
  field? "record" RecordDecision.toJson t.record ++
  field? "enumeration" EnumerationDecision.toJson t.enumeration ++
  field? "alias" AliasDecision.toJson t.aliasType ++
  field? "callback" MemberDecision.toJson t.callback ++
  [("members", .array (t.members.map MemberDecision.toJson))] ++
  docField t.doc)

def ConstantDecision.toJson (c : ConstantDecision) : Json := .object (
  [("name", .string c.name),
    ("visible-name", .string c.visibleName),
    ("java-type", .string c.javaType),
    ("value", .string c.value),
    ("platforms", .strings c.platforms.names)] ++
  docField c.doc)

def SkippedDeclaration.toJson (s : SkippedDeclaration) : Json := .object [
  ("name", .string s.name),
  ("reason", .string s.reason)]

def NamespaceDecision.toJson (d : NamespaceDecision) : Json := .object (
  [("name", .string d.name),
    ("version", .string d.version),
    ("package", .string d.package)] ++
  field? "shared-library" .string d.sharedLibrary ++
  [("platforms", .strings d.platforms.names),
    ("types", .array (d.types.map TypeDecision.toJson)),
    ("functions", .array (d.functions.map MemberDecision.toJson)),
    ("constants", .array (d.constants.map ConstantDecision.toJson)),
    ("skipped", .array (d.skipped.map SkippedDeclaration.toJson)),
    ("doc-misses", .number d.docMisses)])

def NamespaceDecision.render (pretty : Bool) (d : NamespaceDecision) : String :=
  if pretty then d.toJson.pretty else d.toJson.compact

end GirBind
