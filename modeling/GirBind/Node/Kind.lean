namespace GirBind

inductive NodeKind
  | repository
  | dependency
  | package
  | cInclude
  | library
  | aliasType
  | boxed
  | callback
  | classType
  | interface
  | record
  | union
  | enumeration
  | bitfield
  | member
  | constant
  | field
  | property
  | constructor
  | method
  | virtualMethod
  | function
  | functionMacro
  | functionInline
  | methodInline
  | signal
  | parameters
  | parameter
  | instanceParameter
  | returnValue
  | type
  | array
  | varargs
  | doc
  | docDeprecated
  | docVersion
  | docStability
  | sourcePosition
  | implements
  | prerequisite
  | metadata
  | docsection
deriving DecidableEq

namespace NodeKind

def tag : NodeKind → String
  | repository => "repository"
  | dependency => "include"
  | package => "package"
  | cInclude => "c:include"
  | library => "namespace"
  | aliasType => "alias"
  | boxed => "glib:boxed"
  | callback => "callback"
  | classType => "class"
  | interface => "interface"
  | record => "record"
  | union => "union"
  | enumeration => "enumeration"
  | bitfield => "bitfield"
  | member => "member"
  | constant => "constant"
  | field => "field"
  | property => "property"
  | constructor => "constructor"
  | method => "method"
  | virtualMethod => "virtual-method"
  | function => "function"
  | functionMacro => "function-macro"
  | functionInline => "function-inline"
  | methodInline => "method-inline"
  | signal => "glib:signal"
  | parameters => "parameters"
  | parameter => "parameter"
  | instanceParameter => "instance-parameter"
  | returnValue => "return-value"
  | type => "type"
  | array => "array"
  | varargs => "varargs"
  | doc => "doc"
  | docDeprecated => "doc-deprecated"
  | docVersion => "doc-version"
  | docStability => "doc-stability"
  | sourcePosition => "source-position"
  | implements => "implements"
  | prerequisite => "prerequisite"
  | metadata => "attribute"
  | docsection => "docsection"

/-- The kind of an element name. Two kinds have a short name besides their tag. -/
def ofTag? : String → Option NodeKind
  | "repository" => some repository
  | "include" => some dependency
  | "package" => some package
  | "c:include" => some cInclude
  | "namespace" => some library
  | "alias" => some aliasType
  | "glib:boxed" => some boxed
  | "boxed" => some boxed
  | "callback" => some callback
  | "class" => some classType
  | "interface" => some interface
  | "record" => some record
  | "union" => some union
  | "enumeration" => some enumeration
  | "bitfield" => some bitfield
  | "member" => some member
  | "constant" => some constant
  | "field" => some field
  | "property" => some property
  | "constructor" => some constructor
  | "method" => some method
  | "virtual-method" => some virtualMethod
  | "function" => some function
  | "function-macro" => some functionMacro
  | "function-inline" => some functionInline
  | "method-inline" => some methodInline
  | "glib:signal" => some signal
  | "signal" => some signal
  | "parameters" => some parameters
  | "parameter" => some parameter
  | "instance-parameter" => some instanceParameter
  | "return-value" => some returnValue
  | "type" => some type
  | "array" => some array
  | "varargs" => some varargs
  | "doc" => some doc
  | "doc-deprecated" => some docDeprecated
  | "doc-version" => some docVersion
  | "doc-stability" => some docStability
  | "source-position" => some sourcePosition
  | "implements" => some implements
  | "prerequisite" => some prerequisite
  | "attribute" => some metadata
  | "docsection" => some docsection
  | _ => none

theorem ofTag_tag (k : NodeKind) : ofTag? k.tag = some k := by
  cases k <;> rfl

def holdsText : NodeKind → Bool
  | doc | docDeprecated | docVersion | docStability => true
  | _ => false

/-- At most one per parent, so that two without a name are the same thing. -/
def isSingleton : NodeKind → Bool
  | doc | docDeprecated | docVersion | docStability | sourcePosition | parameters
  | instanceParameter | returnValue | type | array | varargs => true
  | _ => false

/-- The kinds that get a binding. Virtual methods do not. -/
def isCallable : NodeKind → Bool
  | constructor | method | function | signal | callback => true
  | _ => false

end NodeKind
end GirBind
