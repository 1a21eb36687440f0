import GirBind.Files.Tree

namespace GirBind

/-- What a run needs around it: files, a place to print lines, and a clock. -/
class Host (m : Type → Type) where
  isDirectory (path : String) : m Bool
  /-- The paths of the files below a directory. The entries of one directory come in the order of
  their names, each with everything below it. -/
  filesBelow (directory : String) : m (Except (String × FileFault) (List String))
  read (path : String) : m (Except FileFault ByteArray)
  createDirectories (path : String) : m (Except FileFault Unit)
  write (path : String) (content : ByteArray) : m (Except FileFault Unit)
  printLine (line : String) : m Unit
  /-- Milliseconds since the start. -/
  elapsed : m Nat

def joinPath (directory name : String) : String :=
  if directory.isEmpty || directory.endsWith "/" then directory ++ name
  else directory ++ "/" ++ name

/-- A directory to work in, and what has been printed there. The last line comes first. -/
structure Workspace where
  tree : FileTree
  printed : List String

namespace Workspace

def ofTree (tree : FileTree) : Workspace := ⟨tree, []⟩

def lines (w : Workspace) : List String := w.printed.reverse

/-- Changes the files. A fault leaves them as they are. -/
def update (change : FileTree → Except FileFault FileTree) :
    StateM Workspace (Except FileFault Unit) := do
  let w ← get
  match change w.tree with
  | .ok tree =>
    set { w with tree }
    return .ok ()
  | .error fault => return .error fault

def pathsBelow (directory : String) (t : FileTree) : List String :=
  t.files.map fun f => joinPath directory ("/".intercalate f.1)

instance : Host (StateM Workspace) where
  isDirectory path := return (← get).tree.isDirectory path
  filesBelow directory := do
    match (← get).tree.find directory with
    | .ok t => return .ok (pathsBelow directory t)
    | .error fault => return .error (directory, fault)
  read path := return (← get).tree.read path
  createDirectories path := update (·.createDirectories path)
  write path content := update (·.write path content)
  printLine line := modify fun w => { w with printed := line :: w.printed }
  elapsed := return 0

end Workspace
end GirBind
