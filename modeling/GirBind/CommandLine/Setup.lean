import GirBind.CommandLine.Arguments
import GirBind.Config.Basic

namespace GirBind.CommandLine

def defaultOutput : String := "build/girc"

def packageMapping (text : String) : Except Error (String × String) :=
  let cs := text.toList
  match cs.dropWhile (· != '=') with
  | _ :: package => .ok (.ofList (cs.takeWhile (· != '=')), .ofList package)
  | [] => .error (.invalidFormat (.packageMapping text))

namespace Given

/-- The options of a run. The command line counts more than the configuration. -/
def options (g : Given) (c : Config) : Except Error Options := do
  let packages ← (g.values .package).mapM packageMapping
  let o := c.applyTo { Options.default with
    debug := g.has .debug
    packages := .ofList packages }
  return { o with
    packagePrefix := (g.value? .packagePrefix).getD o.packagePrefix
    defaultPatches := o.defaultPatches && !g.has .noDefaultPatches
    pretty := o.pretty || g.has .pretty }

def inputs (g : Given) : List (PlatformSet × String) :=
  [(Flag.linux, PlatformSet.linuxOnly), (.windows, .windowsOnly), (.macos, .macosOnly)].filterMap
    fun (flag, platforms) => (g.value? flag).map (platforms, ·)

/-- The directories of documents. The configuration is asked if the command line names none. -/
def inputDirectories (g : Given) (c : Config) : Except Error (List (PlatformSet × String)) := do
  let dirs ← if g.inputs.isEmpty then c.inputDirectories else pure g.inputs
  if dirs.isEmpty then throw (.invalidFormat .noInputs) else return dirs

def outputDirectory (g : Given) (c : Config) : String :=
  ((g.value? .output).orElse fun _ => c.outputDirectory).getD defaultOutput

end Given
end GirBind.CommandLine
