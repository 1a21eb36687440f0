import GirBind.Repository.Basic

namespace GirBind

inductive Patch
  | removeType (library name : String)
  | removeFunction (library name : String)
  | removeMethod (library type name : String)
  | renameMethod (library type old new : String)
  | removeConstant (library name : String)
deriving DecidableEq

namespace Patch

def library : Patch → String
  | removeType library _ | removeFunction library _ | removeMethod library _ _
  | renameMethod library _ _ _ | removeConstant library _ => library

def isMethod (name : String) (n : Node) : Bool := n.kind == .method && n.name? == some name

def renameFirst (old new : String) : List Node → List Node
  | [] => []
  | n :: ns =>
    if isMethod old n then
      { n with attributes := n.attributes.insert "name" new } :: ns
    else
      n :: renameFirst old new ns

def editMembers (ns : Namespace) (type : String) (edit : List Node → List Node) : Namespace :=
  { ns with
    types := ns.types.modify type fun t =>
      { t with node := { t.node with children := edit t.node.children } } }

def membersOf (ns : Namespace) (type : String) : List Node :=
  ((ns.types.get? type).map (·.node.children)).getD []

/-- The declaration that the patch is about is there. -/
def isEffective (p : Patch) (ns : Namespace) : Bool :=
  ns.name == p.library &&
    match p with
    | removeType _ name => ns.types.contains name
    | removeFunction _ name => ns.functions.any (·.name? == some name)
    | removeMethod _ type name => (membersOf ns type).any (isMethod name)
    | renameMethod _ type old _ => (membersOf ns type).any (isMethod old)
    | removeConstant _ name => ns.constants.any (·.name? == some name)

/-- The edited namespace. One with another name stays as it is. -/
def edit (p : Patch) (ns : Namespace) : Namespace :=
  if ns.name = p.library then
    match p with
    | removeType _ name => { ns with types := ns.types.erase name }
    | removeFunction _ name =>
      { ns with functions := ns.functions.filter (·.name? != some name) }
    | removeMethod _ type name => editMembers ns type (·.filter fun n => !isMethod name n)
    | renameMethod _ type old new => editMembers ns type (renameFirst old new)
    | removeConstant _ name =>
      { ns with constants := ns.constants.filter (·.name? != some name) }
  else
    ns

def apply (p : Patch) (ns : Namespace) : Namespace × Bool := (p.edit ns, p.isEffective ns)

def applyEach (p : Patch) : List Repository → List Repository × Nat
  | [] => ([], 0)
  | r :: rs =>
    let (library, effective) := p.apply r.library
    let (rest, count) := applyEach p rs
    ({ r with library } :: rest, if effective then count + 1 else count)

def applyAll : List Patch → List Repository → List Repository × Nat
  | [], rs => (rs, 0)
  | p :: ps, rs =>
    let (edited, count) := p.applyEach rs
    let (final, more) := applyAll ps edited
    (final, count + more)

/-- Declarations of the GNOME platform libraries that cannot be bound. -/
def defaults : List Patch := [
  -- declared, but missing from usual builds
  removeType "Gsk" "BroadwayRenderer",
  removeType "Gsk" "BroadwayRendererClass",
  -- take a list of variadic arguments
  removeType "GObject" "VaClosureMarshal",
  removeType "GObject" "SignalCVaMarshaller",
  removeFunction "GObject" "signal_set_va_marshaller",
  -- a parameter that no native call can pass
  removeFunction "GLib" "assertion_message_cmpnum",
  -- differ from a method of the parent in the return type
  renameMethod "Gtk" "PrintUnixDialog" "get_settings" "get_print_settings",
  renameMethod "Gio" "BufferedInputStream" "read_byte" "read_int",
  renameMethod "Gtk" "MenuButton" "get_direction" "get_arrow_direction",
  renameMethod "GObject" "TypeModule" "use" "use_type_module",
  renameMethod "Adw" "ActionRow" "activate" "activate_row",
  renameMethod "Adw" "SplitButton" "get_direction" "get_arrow_direction",
  -- makes an instance, but is declared as a method of an interface
  removeMethod "Gio" "AsyncInitable" "new_finish",
  -- take two callbacks
  removeFunction "GObject" "signal_new_valist",
  removeFunction "GObject" "signal_newv",
  -- not described in full
  removeFunction "cairo" "image_surface_create",
  removeFunction "GLib" "clear_error",
  -- its type has no instances
  removeConstant "HarfBuzz" "LANGUAGE_INVALID"]

end Patch
end GirBind
