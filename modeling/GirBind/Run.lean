import GirBind.Error
import GirBind.Files.Host

namespace GirBind

/-- Work on a host that an error may end. -/
abbrev Run (m : Type → Type) := ExceptT Error m

variable {m : Type → Type} [Monad m] [Host m]

def orFail {ε α : Type} (error : ε → Error) (act : m (Except ε α)) : Run m α := do
  match ← act with
  | .ok a => return a
  | .error e => throw (error e)

def printLine (line : String) : Run m Unit := ExceptT.lift (Host.printLine line)

def readText (path : String) : m (Except FileFault String) := do
  match ← Host.read path with
  | .error fault => return .error fault
  | .ok content =>
    match String.fromUTF8? content with
    | some text => return .ok text
    | none => return .error .notText

end GirBind
