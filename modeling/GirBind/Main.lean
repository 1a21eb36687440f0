import GirBind.CommandLine.Program

namespace GirBind

/-- The files of the operating system, and the clock reading at the start. -/
abbrev Terminal := ReaderT Nat IO

def faultOf : IO.Error → FileFault
  | .noFileOrDirectory .. => .missing
  | .alreadyExists .. => .occupied
  | .inappropriateType _ code _ => if code = 21 then .isDirectory else .notDirectory
  | e => .other (toString e)

def attempt {α : Type} (act : IO α) : Terminal (Except FileFault α) := do
  try
    return .ok (← act)
  catch e =>
    return .error (faultOf e)

def isDirectoryPath (path : String) : IO Bool := do
  let here ← IO.currentDir
  if path.isEmpty then return false else (here / path).isDir

partial def walk (directory : String) : IO (Array String) := do
  let here ← IO.currentDir
  let entries ← (here / directory).readDir
  let mut paths := #[]
  for e in entries.qsort fun a b => a.fileName < b.fileName do
    let path := joinPath directory e.fileName
    match (← e.path.symlinkMetadata).type with
    | .dir => paths := paths ++ (← walk path)
    | .file => paths := paths.push path
    | _ => pure ()
  return paths

instance : Host Terminal where
  isDirectory path := isDirectoryPath path
  filesBelow directory := do
    match ← attempt (walk directory) with
    | .ok paths => return .ok paths.toList
    | .error fault => return .error (directory, fault)
  read path := attempt (IO.FS.readBinFile path)
  createDirectories path := attempt (if path.isEmpty then pure () else IO.FS.createDirAll path)
  write path content := attempt (IO.FS.writeBinFile path content)
  printLine line := IO.println line
  elapsed := return (← IO.monoMsNow) - (← read)

end GirBind

open GirBind CommandLine in
def main (args : List String) : IO UInt32 := do
  let outcome ← (run args : Terminal Outcome).run (← IO.monoMsNow)
  match outcome.message? with
  | some message => IO.eprintln message
  | none => if outcome.exitCode != 0 then helpLines.forM IO.eprintln
  return outcome.exitCode.toUInt32
