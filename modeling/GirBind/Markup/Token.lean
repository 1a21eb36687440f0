import GirBind.Markup.Position

namespace GirBind.Markup

/-- A lexical unit of a document. Text has its references decoded. -/
inductive Token
  | startTag (name : String) (attributes : List (String × String)) (selfClosing : Bool)
  | endTag (name : String)
  | text (content : String)
  | comment (content : String)
  | declaration (content : String)
  | endOfInput
deriving DecidableEq

def Token.display : Token → String
  | startTag name _ true => s!"<{name}/>"
  | startTag name _ false => s!"<{name}>"
  | endTag name => s!"</{name}>"
  | text _ => "text"
  | comment _ => "comment"
  | declaration _ => "declaration"
  | endOfInput => "EOF"

structure PlacedToken where
  token : Token
  position : Position
deriving DecidableEq

end GirBind.Markup
