import GirBind.Config.Basic
import GirBind.Config.Json
import GirBind.Config.Toml.Document
import GirBind.Run

namespace GirBind.Config

variable {m : Type → Type} [Monad m] [Host m]

structure Format where
  name : String
  read? : String → Option Value

def Format.json : Format := ⟨"JSON", Json.ofText?⟩

def Format.toml : Format := ⟨"TOML", Toml.ofText?⟩

def Format.ofPath? (path : String) : Option Format :=
  if path.endsWith ".json" then some .json
  else if path.endsWith ".toml" then some .toml
  else none

def Format.config (f : Format) (text : String) : Except Error Config :=
  match f.read? text >>= ofValue? with
  | some c => .ok c
  | none => .error (.invalidFormat (.malformedConfig f.name))

def ofFile (path text : String) : Except Error Config :=
  match Format.ofPath? path with
  | some f => f.config text
  | none => .error (.invalidFormat .unknownConfigFormat)

def load (path : String) : Run m Config := do
  let text ← orFail (fun fault => .fileNotFound (.config path fault)) (readText path)
  ExceptT.mk (return ofFile path text)

end GirBind.Config
