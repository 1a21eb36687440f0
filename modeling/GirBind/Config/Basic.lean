import GirBind.Compile
import GirBind.Config.Value

namespace GirBind

structure Config where
  packagePrefix : Option String
  packages : OrderedMap String
  defaultPatches : Option Bool
  patches : List Patch
  /-- Directories of documents by the names of their platforms. -/
  inputs : OrderedMap String
  outputDirectory : Option String
  pretty : Bool

namespace Config

def empty : Config := ⟨none, ∅, none, [], ∅, none, false⟩

instance : Inhabited Config := ⟨empty⟩

/-- A table of texts. Of a key that repeats the last value counts. -/
def texts? : Value → Option (OrderedMap String)
  | .table entries => do
    let pairs ← entries.mapM fun (key, v) => v.text?.map (key, ·)
    return .ofList pairs
  | _ => none

/-- The keys of the texts that make a patch, by the name of its kind. -/
def patchKeys? (kind : String) : Option (List String) :=
  match kind with
  | "remove-type" | "remove-function" | "remove-constant" => some ["namespace", "name"]
  | "remove-method" => some ["namespace", "type", "name"]
  | "rename-method" => some ["namespace", "type", "old", "new"]
  | _ => none

def patchOfTexts? : String → List String → Option Patch
  | "remove-type", [library, name] => some (.removeType library name)
  | "remove-function", [library, name] => some (.removeFunction library name)
  | "remove-constant", [library, name] => some (.removeConstant library name)
  | "remove-method", [library, type, name] => some (.removeMethod library type name)
  | "rename-method", [library, type, old, new] => some (.renameMethod library type old new)
  | _, _ => none

def patchKind? : Value → Option (String × Value)
  | .table entries => do
    let kind ← Value.lookup? entries "op" >>= Value.text?
    return (kind, .table entries)
  | .list (kind :: items) => do
    let kind ← kind.text?
    return (kind, .list items)
  | _ => none

def patch? (v : Value) : Option Patch := do
  guard v.isReadable
  let (kind, fields) ← patchKind? v
  let values ← fields.record? (← patchKeys? kind)
  patchOfTexts? kind (← values.mapM Value.text?)

def patches? : Value → Option (List Patch)
  | .list items => items.mapM patch?
  | _ => none

def keys : List String :=
  ["package_prefix", "packages", "default_patches", "patches", "inputs", "output_directory",
    "pretty"]

/-- The settings of a record. One that is null is not set. -/
def ofValue? (v : Value) : Option Config := do
  match ← v.record? keys with
  | [packagePrefix, packages, defaultPatches, patches, inputs, outputDirectory, pretty] =>
    return {
      packagePrefix := ← packagePrefix.optional? Value.text?
      packages := (← packages.optional? texts?).getD ∅
      defaultPatches := ← defaultPatches.optional? Value.bool?
      patches := (← patches.optional? patches?).getD []
      inputs := (← inputs.optional? texts?).getD ∅
      outputDirectory := ← outputDirectory.optional? Value.text?
      pretty := (← pretty.optional? Value.bool?).getD false }
  | _ => none

/-- Fills in options. Packages that the options name already stay as they are. -/
def applyTo (c : Config) (o : Options) : Options :=
  { o with
    packagePrefix := c.packagePrefix.getD o.packagePrefix
    packages := c.packages.entries.foldl (fun m e => m.insertNew e.1 e.2) o.packages
    defaultPatches := c.defaultPatches.getD o.defaultPatches
    patches := o.patches ++ c.patches
    pretty := o.pretty || c.pretty }

def inputDirectory (name directory : String) : Except Error (PlatformSet × String) :=
  match PlatformSet.ofName? name with
  | some platforms => .ok (platforms, directory)
  | none => .error (.invalidFormat (.unknownPlatform name))

def inputDirectories (c : Config) : Except Error (List (PlatformSet × String)) := do
  let dirs ← c.inputs.entries.mapM fun e => inputDirectory e.1 e.2
  return dirs.mergeSort fun a b => a.1.rank ≤ b.1.rank

end Config
end GirBind
