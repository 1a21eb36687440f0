import GirBind.Files.Fault
import GirBind.Markup.Fault
import GirBind.Node.OfTokens
import GirBind.Repository.OfNode

namespace GirBind

/-- Why one declaration gets no binding. -/
inductive Obstacle
  | unresolved (library declaration typeName : String)
  | unsupported (library declaration reason : String)
deriving DecidableEq

def Obstacle.message : Obstacle → String
  | unresolved library declaration typeName =>
    s!"Unresolved type '{typeName}' in {library}.{declaration}"
  | unsupported library declaration reason =>
    s!"Unsupported construct in {library}.{declaration}: {reason}"

inductive SchemaFault
  | markup (fault : Markup.Fault)
  | tree (fault : TreeFault)
  | repository (fault : RepositoryFault)
deriving DecidableEq

def SchemaFault.message : SchemaFault → String
  | markup fault => fault.message
  | tree fault => fault.message
  | repository fault => fault.message

inductive MergeFault
  | names (first second : String)
  | variants (name : String) (first : Variant) (firstPlatforms : PlatformSet)
      (second : Variant) (secondPlatforms : PlatformSet)
deriving DecidableEq

def MergeFault.message : MergeFault → String
  | names first second => s!"Cannot merge namespace {first} with {second}"
  | variants name first firstPlatforms second secondPlatforms =>
    s!"'{name}' is a {first.name} on {firstPlatforms.display} but a {second.name} on " ++
      secondPlatforms.display

inductive SetupFault
  | malformedConfig (format : String)
  | unknownConfigFormat
  | unknownPlatform (name : String)
  | packageMapping (text : String)
  | noInputs
  | unreadableDirectory (directory path : String) (fault : FileFault)
deriving DecidableEq

def SetupFault.message : SetupFault → String
  | malformedConfig format => s!"Invalid {format} config"
  | unknownConfigFormat => "Config file must be .json or .toml format"
  | unknownPlatform name => s!"Unknown platform '{name}' in config inputs"
  | packageMapping text => s!"Invalid package mapping: {text}. Use NS=PACKAGE format."
  | noInputs => "No input directories. Use --linux, --windows or --macos."
  | unreadableDirectory directory path fault =>
    s!"Cannot read {directory}: IO error for operation on {path}: {fault.message}"

inductive MissingFile
  | directory (path : String)
  | document (path : String) (fault : FileFault)
  | config (path : String) (fault : FileFault)
deriving DecidableEq

def MissingFile.message : MissingFile → String
  | directory path => path
  | document path fault => s!"{path}: {fault.message}"
  | config path fault => s!"Config file {path}: {fault.message}"

inductive Error
  | io (fault : FileFault)
  | schema (file : String) (fault : Located SchemaFault)
  | declaration (obstacle : Obstacle)
  | merge (fault : MergeFault)
  | fileNotFound (file : MissingFile)
  | invalidFormat (fault : SetupFault)
deriving DecidableEq

namespace Error

def message : Error → String
  | io fault => s!"IO error: {fault.message}"
  | schema file ⟨line, fault⟩ => s!"Schema error in {file} at line {line}: {fault.message}"
  | declaration obstacle => obstacle.message
  | merge fault => s!"Merge error: {fault.message}"
  | fileNotFound file => s!"File not found: {file.message}"
  | invalidFormat fault => s!"Invalid format: {fault.message}"

/-- An obstacle costs one declaration. Any other error ends the whole run. -/
def isFatal : Error → Bool
  | declaration _ => false
  | _ => true

end Error
end GirBind
