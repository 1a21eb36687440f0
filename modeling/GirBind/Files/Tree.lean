import GirBind.Files.Fault

namespace GirBind

/-- A directory with everything below it. The entries of a directory are in the order of their
names. -/
inductive FileTree
  | file (content : ByteArray)
  | directory (entries : List (String × FileTree))

namespace FileTree

def empty : FileTree := directory []

instance : Inhabited FileTree := ⟨empty⟩

def child? (name : String) : List (String × FileTree) → Option FileTree
  | [] => none
  | (n, t) :: es => if n = name then some t else child? name es

/-- Adds an entry in its place. It takes over from an entry of the same name. -/
def putChild (name : String) (t : FileTree) : List (String × FileTree) → List (String × FileTree)
  | [] => [(name, t)]
  | (n, u) :: es =>
    if n = name then (name, t) :: es
    else if name < n then (name, t) :: (n, u) :: es
    else (n, u) :: putChild name t es

def get? : FileTree → List String → Option FileTree
  | t, [] => some t
  | file _, _ :: _ => none
  | directory es, name :: names => (child? name es).bind (get? · names)

def put (new : FileTree) : FileTree → List String → FileTree
  | _, [] => new
  | file content, _ :: _ => file content
  | directory es, name :: names =>
    directory (putChild name (put new ((child? name es).getD empty) names) es)

def nameLimit : Nat := 255

def pathLimit : Nat := 4096

def steps (path : String) : Except FileFault (List String) :=
  if path.contains '\x00' then .error .nulInPath
  else if path.isEmpty || path.startsWith "/" then .error .missing
  else if pathLimit ≤ path.utf8ByteSize then .error .nameTooLong
  else .ok (path.splitOn "/")

/-- Where one step leads from a directory. Nothing and a period lead nowhere else, two periods lead
to the directory above. -/
def follow (t : FileTree) (names : List String) (step : String) :
    Except FileFault (List String) :=
  match t.get? names with
  | some (directory es) =>
    if step = "" ∨ step = "." then .ok names
    else if step = ".." then .ok names.dropLast
    else if nameLimit < step.utf8ByteSize then .error .nameTooLong
    else if (child? step es).isSome then .ok (names ++ [step])
    else .error .missing
  | _ => .error .notDirectory

def find (t : FileTree) (path : String) : Except FileFault FileTree := do
  let names ← (← steps path).foldlM t.follow []
  match t.get? names with
  | some u => return u
  | none => throw .missing

def isDirectory (t : FileTree) (path : String) : Bool :=
  match t.find path with
  | .ok (directory _) => true
  | _ => false

def read (t : FileTree) (path : String) : Except FileFault ByteArray := do
  match ← t.find path with
  | file content => return content
  | directory _ => throw .isDirectory

/-- Writes a file into a directory that is there. An older file of the name is lost. -/
def write (t : FileTree) (path : String) (content : ByteArray) : Except FileFault FileTree := do
  let all ← steps path
  let names ← all.dropLast.foldlM t.follow []
  match t.follow names (all.getLast?.getD "") with
  | .ok target =>
    match t.get? target with
    | some (file _) => return put (file content) t target
    | _ => throw .isDirectory
  | .error .missing => return put (file content) t (names ++ [all.getLast?.getD ""])
  | .error fault => throw fault

def makeStep (place : FileTree × List String) (step : String) :
    Except FileFault (FileTree × List String) :=
  match place.1.follow place.2 step with
  | .ok names => .ok (place.1, names)
  | .error .missing => .ok (put empty place.1 (place.2 ++ [step]), place.2 ++ [step])
  | .error fault => .error fault

def createDirectories (t : FileTree) (path : String) : Except FileFault FileTree :=
  if path.isEmpty then
    .ok t
  else do
    let (u, names) ← ((← steps path).filter (· != "")).foldlM makeStep (t, [])
    match u.get? names with
    | some (directory _) => return u
    | _ => throw .occupied

mutual

/-- All files, each with the names that lead to it. A directory comes where its name does. -/
def files : FileTree → List (List String × ByteArray)
  | file content => [([], content)]
  | directory es => filesOfEntries es

def filesOfEntries : List (String × FileTree) → List (List String × ByteArray)
  | [] => []
  | (name, t) :: es => (files t).map (fun f => (name :: f.1, f.2)) ++ filesOfEntries es

end

end FileTree
end GirBind
