import GirBind.Text.Case

namespace GirBind

/-- A name with the namespace that it is looked up in, if it says so. -/
structure QualifiedName where
  library : Option String
  name : String
deriving DecidableEq

/-- The part before the first period is the namespace, unless it is empty. -/
def QualifiedName.ofText (text : String) : QualifiedName :=
  let cs := text.toList
  match cs.takeWhile (· != '.'), cs.dropWhile (· != '.') with
  | library@(_ :: _), _ :: rest => ⟨some (.ofList library), .ofList rest⟩
  | _, _ => ⟨none, text⟩

namespace Java

def keywords : List String := [
  "abstract", "assert", "boolean", "break", "byte", "case", "catch", "char", "class", "const",
  "continue", "default", "do", "double", "else", "enum", "extends", "final", "finally", "float",
  "for", "goto", "if", "implements", "import", "instanceof", "int", "interface", "long", "native",
  "new", "package", "private", "protected", "public", "return", "short", "static", "strictfp",
  "super", "switch", "synchronized", "this", "throw", "throws", "transient", "try", "void",
  "volatile", "while"]

def objectMethods : List String := [
  "equals", "getClass", "hashCode", "notify", "notifyAll", "toString", "wait"]

/-- Drops underscores and hyphens. The character behind one becomes upper case, and so does the
first one if `capital` is set. -/
def camelChars (capital : Bool) : List Char → List Char
  | [] => []
  | c :: cs =>
    if c = '_' ∨ c = '-' then
      camelChars true cs
    else
      (if capital then Text.upperChar c else [c]) ++ camelChars false cs

def camelCase (capital : Bool) (name : String) : String :=
  .ofList (camelChars capital name.toList)

def escapeKeyword (name : String) : String :=
  if keywords.contains name.toLower then name ++ "_" else name

def escapeObjectMethod (name : String) : String :=
  if objectMethods.contains name then name ++ "_" else name

def memberName (name : String) : String := escapeKeyword (camelCase false name)

def simpleType (name : String) : String := camelCase true (QualifiedName.ofText name).name

def prefixDigits (name : String) : String :=
  match name.toList with
  | c :: _ => if c.isDigit then "_" ++ name else name
  | [] => name

def constantName (name : String) : String := prefixDigits (Text.upper name)

end Java
end GirBind
