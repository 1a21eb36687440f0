namespace GirBind.Markup

inductive Fault
  | unterminated (construct : String)
  | unterminatedStartTag (name : String)
  | unterminatedValue
  | unterminatedReference
  | unknownReference (entity : String)
  | invalidName (name : String)
  | expected (wanted : Char) (found : Option Char)
  | unquotedValue
  | duplicateAttribute (key tag : String)
deriving DecidableEq

def Fault.message : Fault → String
  | unterminated construct => s!"Unterminated {construct}"
  | unterminatedStartTag name => s!"Unterminated start tag <{name}>"
  | unterminatedValue => "Unterminated attribute value"
  | unterminatedReference => "Unterminated entity reference"
  | unknownReference entity => s!"Unknown entity '&{entity};'"
  | invalidName name => s!"Invalid name '{name}'"
  | expected wanted (some found) => s!"Expected '{wanted}', found '{found}'"
  | expected wanted none => s!"Expected '{wanted}', found end of input"
  | unquotedValue => "Expected quoted attribute value"
  | duplicateAttribute key tag => s!"Duplicate attribute '{key}' on <{tag}>"

end GirBind.Markup
