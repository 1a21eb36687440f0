import GirBind.Signature.Primitive

namespace GirBind

inductive MarshalRule
  /-- no value at all, which only a result can be -/
  | void
  | scalar (kind : Scalar)
  | pointer
  /-- the address of an instance that a Java object stands for -/
  | handle
  /-- the last argument of a call that can fail -/
  | errorSlot
deriving DecidableEq

namespace MarshalRule

def layout? : MarshalRule → Option String
  | void => none
  | scalar kind => some kind.layout
  | pointer | handle | errorSlot => some "ValueLayout.ADDRESS"

end MarshalRule

/-- The rules of a native call, in order. Variadic arguments have no rule. -/
structure Descriptor where
  returnRule : MarshalRule
  parameters : List MarshalRule
  isVariadic : Bool
deriving DecidableEq

namespace Descriptor

def layouts (d : Descriptor) : List String := d.parameters.filterMap MarshalRule.layout?

def toJava (d : Descriptor) : String :=
  match d.returnRule.layout? with
  | some result => "FunctionDescriptor.of(" ++ ", ".intercalate (result :: d.layouts) ++ ")"
  | none => "FunctionDescriptor.ofVoid(" ++ ", ".intercalate d.layouts ++ ")"

end Descriptor
end GirBind
