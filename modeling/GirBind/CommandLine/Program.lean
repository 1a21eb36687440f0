import GirBind.CommandLine.Setup
import GirBind.Config.Load
import GirBind.Discover
import GirBind.Json
import GirBind.Output

namespace GirBind.CommandLine

variable {m : Type → Type} [Monad m] [Host m]

def programName : String := "girc"

def programVersion : String := "0.1.0"

def collectDirectory (input : PlatformSet × String) : Run m (List Source) := do
  let found ← discover input.1 input.2
  printLine s!"📂 {found.length} GIR files for {input.1.display} in {input.2}"
  return found

def collect (inputs : List (PlatformSet × String)) : Run m (List Source) :=
  return (← inputs.mapM collectDirectory).flatten

def printLines (lines : List String) : Run m Unit := lines.forM printLine

def plainReport (s : Statistics) (milliseconds : Nat) : List String := [
  "✅ Compilation successful!",
  s!"   Namespaces: {s.namespaces}",
  s!"   Types: {s.types}",
  s!"   Skipped: {s.skipped}",
  s!"   Time: {milliseconds}ms"]

def detailedReport (s : Statistics) (milliseconds : Nat) : List String := [
  "",
  "📊 Detailed Statistics:",
  (Json.object (s.fields ++ [("compile_time_ms", .number milliseconds)])).pretty]

def compile (c : Config) (g : Given) : Run m Unit := do
  let o ← ExceptT.mk (return g.options c)
  let directory := g.outputDirectory c
  let sources ← collect (← ExceptT.mk (return g.inputDirectories c))
  printLine s!"🔨 Compiling {sources.length} documents -> {directory}"
  let start ← ExceptT.lift Host.elapsed
  let counts ← compileToDirectory o sources directory
  let now ← ExceptT.lift Host.elapsed
  printLines (plainReport counts now)
  if g.has .stats then
    printLines (detailedReport counts (now - start))

/-- What became of a namespace, with a line for every declaration that is left out. -/
def namespaceReport (d : NamespaceDecision) : List String :=
  let suppressed := d.callables.countP MemberDecision.isSuppressed
  let counts := s!"{d.types.length} types, {d.functions.length} functions, " ++
    s!"{d.constants.length} constants, {suppressed} suppressed"
  s!"📦 {d.name} {d.version} ({d.package}): {counts}" ::
    d.skipped.map fun e => s!"   ❌ {e.name}: {e.reason}"

def skippedReport (skipped : Nat) : String :=
  if skipped = 0 then "✅ No declarations skipped" else s!"⚠️  {skipped} declarations skipped"

/-- Reports on all documents and writes nothing. -/
def check (c : Config) (g : Given) : Run m Unit := do
  let o ← ExceptT.mk (return g.options c)
  let sources ← collect (← ExceptT.mk (return g.inputDirectories c))
  printLine s!"🔍 Checking {sources.length} documents"
  let (decisions, counts) ← ExceptT.mk (return compileSources o sources)
  printLines (decisions.flatMap namespaceReport)
  printLine (skippedReport counts.skipped)
  printLine s!"   Unresolved documentation links: {counts.docMisses}"

def Invocation.run (i : Invocation) : Run m Unit := do
  let c ← match i.general.value? .config with
    | some path => Config.load path
    | none => pure .empty
  match i.command with
  | some (.compile, g) => compile c g
  | some (.check, g) => check c g
  | none => printLine "No subcommand specified. Use --help for usage information."

inductive Outcome
  | success
  | usage
  | failure (error : Error)

namespace Outcome

def exitCode : Outcome → Nat
  | success => 0
  | usage => 2
  | failure _ => 1

def message? : Outcome → Option String
  | failure (.io fault) => some s!"IO Error: {fault.message}"
  | failure error => some s!"Compilation failed: {error.message}"
  | _ => none

end Outcome

def helpLines : List String := [
  "Usage: girc [-c FILE] [-v] [COMMAND]",
  "",
  "Commands:",
  "  compile  Compile GIR files into binding decision files",
  "  check    Run the compiler without writing output and report skipped declarations"]

def run (args : List String) : m Outcome := do
  match Invocation.read args with
  | .error .help =>
    helpLines.forM Host.printLine
    return .success
  | .error .version =>
    Host.printLine s!"{programName} {programVersion}"
    return .success
  | .error .usage => return .usage
  | .ok i =>
    match ← i.run.run with
    | .ok () => return .success
    | .error e => return .failure e

end GirBind.CommandLine
