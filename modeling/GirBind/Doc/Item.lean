namespace GirBind.Doc

/-- What a link names: up to three parts between separators. -/
structure LinkPath where
  text : String
  part1 : Option String
  part2 : Option String
  part3 : Option String
deriving DecidableEq

inductive Item
  | codeBlock (content : String)
  | code (content : String)
  | link (kind : String) (path : LinkPath)
  | identifier (name : String)
  | nativeType (name : String)
  | parameter (name : String)
  | hyperlink (description url : String)
  | image (description url : String)
  | header (level : Nat) (title : String)
  | bullet
  | strong (content : String)
  | tag (content : String)
  | paragraph
deriving DecidableEq

end GirBind.Doc
