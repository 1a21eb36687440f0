import GirBind.Binding.Rule
import GirBind.SymbolTable.Resolve

namespace GirBind

def memorySegment : String := "java.lang.foreign.MemorySegment"

namespace SymbolTable

/-- The rule for a value of a type that is no alias. -/
def ruleOf (library declaration : String) (isPointer isReturn : Bool) :
    ResolvedType → Except Obstacle MarshalRule
  | .primitive .void => .ok (if isReturn && !isPointer then .void else .pointer)
  | .primitive .vaList => .error (.unsupported library declaration "va_list has no Java equivalent")
  | .primitive p =>
    match p.scalar? with
    | some kind => .ok (if isPointer then .pointer else .scalar kind)
    | none => .ok .pointer
  | .registered e =>
    match e.type.variant with
    | .enumeration => .ok (if isPointer then .pointer else .scalar .int)
    | .callback => .ok .pointer
    | .classType | .interface | .record | .union | .boxed => .ok .handle
    | .aliasType => .error (.unsupported library declaration "unresolved alias")

/-- The rule for one value. Its type must resolve even if it is passed by address. -/
def marshalRule (table : SymbolTable) (library declaration : String) (t : TypeRef)
    (direction : Direction) (isReturn : Bool) : Except Obstacle MarshalRule := do
  let resolved ← table.resolveRef library declaration t
  if t.isArray || direction != .input then
    return .pointer
  else
    let r ← table.underlying declaration resolved
    ruleOf library declaration t.isPointer isReturn r

mutual

def inputJavaType (table : SymbolTable) (library declaration : String) :
    TypeRef → Except Obstacle String
  | ⟨true, _, _, element, _, _, _⟩ => table.arrayJavaType library declaration element
  | ⟨false, none, _, _, _, _, _⟩ => .ok memorySegment
  | ⟨false, some name, _, _, _, _, _⟩ =>
    (table.resolve library declaration name).map fun
      | .registered e => table.qualifiedJavaName e.library e.type.name
      | .primitive p => p.javaType

def arrayJavaType (table : SymbolTable) (library declaration : String) :
    Option TypeRef → Except Obstacle String
  | some element => (table.inputJavaType library declaration element).map (· ++ "[]")
  | none => .ok memorySegment

end

def boxed : String → String
  | "boolean" => "Boolean"
  | "byte" => "Byte"
  | "short" => "Short"
  | "int" => "Integer"
  | "long" => "Long"
  | "float" => "Float"
  | "double" => "Double"
  | other => other

/-- The Java type of a value. What a call passes back is wrapped. -/
def javaType (table : SymbolTable) (library declaration : String) (t : TypeRef)
    (direction : Direction) : Except Obstacle String :=
  (table.inputJavaType library declaration t).map fun java =>
    if direction = .input then java else s!"Out<{boxed java}>"

def parameterRule (table : SymbolTable) (library declaration : String) (p : Parameter) :
    Except Obstacle MarshalRule :=
  match p.type with
  | some t => table.marshalRule library declaration t p.direction false
  | none =>
    let name := p.name.getD ""
    .error (.unsupported library declaration s!"parameter '{name}' has no type")

def returnRule (table : SymbolTable) (library declaration : String) (c : Callable) :
    Except Obstacle MarshalRule :=
  match c.returnType? with
  | some t => table.marshalRule library declaration t .input true
  | none => .ok .void

/-- The native call. An instance comes first, user data of a signal handler and the place for an
error come last. -/
def descriptor (table : SymbolTable) (library declaration : String) (c : Callable) :
    Except Obstacle Descriptor := do
  let result ← table.returnRule library declaration c
  let fixed := c.parameters.takeWhile fun p => !p.isVariadic
  let rules ← fixed.mapM (table.parameterRule library declaration)
  return {
    returnRule := if c.kind = .constructor then .handle else result
    parameters :=
      (if c.kind = .method ∨ c.kind = .signal then [.handle] else []) ++ rules ++
        (if c.kind = .signal then [.pointer] else []) ++
          (if c.throws then [.errorSlot] else [])
    isVariadic := c.parameters.any Parameter.isVariadic }

end SymbolTable
end GirBind
