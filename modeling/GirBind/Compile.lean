import GirBind.Binding.Json
import GirBind.Binding.Namespace
import GirBind.Repository.Merge
import GirBind.Repository.Patch
import GirBind.Source

namespace GirBind

structure Options where
  debug : Bool
  packagePrefix : String
  packages : OrderedMap String
  defaultPatches : Bool
  /-- Edits that come after the built-in ones. -/
  patches : List Patch
  pretty : Bool

namespace Options

def default : Options := ⟨false, "org.gnome", ∅, true, [], false⟩

instance : Inhabited Options := ⟨default⟩

def naming (o : Options) : PackageNaming := ⟨o.packagePrefix, o.packages⟩

def allPatches (o : Options) : List Patch :=
  (if o.defaultPatches then Patch.defaults else []) ++ o.patches

end Options

structure Statistics where
  sourceSize : Nat
  documents : Nat
  namespaces : Nat
  types : Nat
  /-- Suppressed ones are among them. -/
  callables : Nat
  suppressed : Nat
  skipped : Nat
  floating : Nat
  patchesApplied : Nat
  docMisses : Nat
deriving DecidableEq

def Statistics.fields (s : Statistics) : List (String × Json) := [
  ("source_size", .number s.sourceSize),
  ("document_count", .number s.documents),
  ("namespace_count", .number s.namespaces),
  ("type_count", .number s.types),
  ("callable_count", .number s.callables),
  ("suppressed_count", .number s.suppressed),
  ("skipped_count", .number s.skipped),
  ("floating_count", .number s.floating),
  ("patches_applied", .number s.patchesApplied),
  ("doc_misses", .number s.docMisses)]

def Statistics.toJson (s : Statistics) : Json := .object s.fields

def readAll (sources : List Source) : Except Error (List Repository) :=
  sources.mapM Source.repository

/-- One edited description for each namespace, and the number of edits that took effect. -/
def buildRepositories (o : Options) (sources : List Source) :
    Except Error (List Repository × Nat) := do
  let merged ← readAll sources >>= Repository.mergeAll
  return Patch.applyAll o.allPatches merged

def Statistics.ofDecisions (floating : Nat) (decisions : List NamespaceDecision) : Statistics where
  sourceSize := 0
  documents := 0
  namespaces := decisions.length
  types := (decisions.flatMap (·.types)).length
  callables := (decisions.flatMap (·.callables)).length
  suppressed := (decisions.flatMap (·.callables)).countP (·.isSuppressed)
  skipped := (decisions.flatMap (·.skipped)).length
  floating
  patchesApplied := 0
  docMisses := decisions.foldl (fun n d => n + d.docMisses) 0

/-- The decisions about descriptions of different namespaces, and their counts. -/
def compileRepositories (o : Options) (repositories : List Repository) :
    List NamespaceDecision × Statistics :=
  let table := SymbolTable.build repositories o.naming
  let floating := FloatingTable.build table
  let decisions := table.bind floating
  (decisions, .ofDecisions floating.count decisions)

def compileSources (o : Options) (sources : List Source) :
    Except Error (List NamespaceDecision × Statistics) := do
  let (repositories, applied) ← buildRepositories o sources
  let (decisions, counts) := compileRepositories o repositories
  return (decisions, { counts with
    sourceSize := sources.foldl (fun n s => n + s.content.utf8ByteSize) 0
    documents := sources.length
    patchesApplied := applied })

end GirBind
