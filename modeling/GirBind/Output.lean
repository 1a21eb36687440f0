import GirBind.Compile
import GirBind.Run

namespace GirBind

variable {m : Type → Type} [Monad m] [Host m]

def NamespaceDecision.path (d : NamespaceDecision) (directory : String) : String :=
  joinPath directory (d.name ++ ".json")

def writeDecision (pretty : Bool) (directory : String) (d : NamespaceDecision) : Run m Unit :=
  orFail .io (Host.write (d.path directory) (d.render pretty).toUTF8)

def compileToDirectory (o : Options) (sources : List Source) (directory : String) :
    Run m Statistics := do
  let (decisions, counts) ← ExceptT.mk (return compileSources o sources)
  orFail .io (Host.createDirectories directory)
  decisions.forM (writeDecision o.pretty directory)
  return counts

end GirBind
