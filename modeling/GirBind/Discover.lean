import GirBind.Run
import GirBind.Source

namespace GirBind

variable {m : Type → Type} [Monad m] [Host m]

def isDocumentName (name : String) : Bool := name.endsWith ".gir" && name != ".gir"

def fileName (path : String) : String := (path.splitOn "/").getLast?.getD path

def readDocument (platforms : PlatformSet) (path : String) : Run m Source := do
  let text ← orFail (fun fault => .fileNotFound (.document path fault)) (readText path)
  return ⟨path, platforms, text⟩

def discover (platforms : PlatformSet) (directory : String) : Run m (List Source) := do
  if ← ExceptT.lift (Host.isDirectory directory) then
    let paths ← orFail
      (fun e => .invalidFormat (.unreadableDirectory directory e.1 e.2))
      (Host.filesBelow directory)
    (paths.filter (isDocumentName ∘ fileName)).mapM (readDocument platforms)
  else
    throw (.fileNotFound (.directory directory))

end GirBind
