import GirBind.CommandLine.Flag

namespace GirBind.CommandLine

inductive Stop
  | help
  | version
  | usage
deriving DecidableEq

/-- Flags with their values, in order. The value of a switch is empty. -/
structure Given where
  flags : List (Flag × String)

namespace Given

def none : Given := ⟨[]⟩

def has (g : Given) (f : Flag) : Bool := g.flags.any fun e => e.1 == f

def values (g : Given) (f : Flag) : List String :=
  (g.flags.filter fun e => e.1 == f).map Prod.snd

def value? (g : Given) (f : Flag) : Option String := (g.values f).head?

def add (g : Given) (f : Flag) (value : String) : Except Stop Given :=
  if g.has f && !f.mayRepeat then .error .usage else .ok ⟨g.flags ++ [(f, value)]⟩

/-- Adds a switch. Two switches leave nothing to run. -/
def switch (g : Given) (f : Flag) : Except Stop Given :=
  match f with
  | .help => .error .help
  | .version => .error .version
  | _ => g.add f ""

end Given

/-- What has been read: flags, and perhaps one more that waits for its value. -/
structure Reading where
  given : Given
  waiting : Option Flag

def readLong (flags : List Flag) (g : Given) (body : List Char) : Except Stop Reading :=
  let name := body.takeWhile (· != '=')
  match flags.find? (·.long.toList == name), body.dropWhile (· != '=') with
  | none, _ => .error .usage
  | some f, [] => if f.takesValue then .ok ⟨g, f⟩ else (g.switch f).map (⟨·, none⟩)
  | some f, _ :: value =>
    if f.takesValue then (g.add f (.ofList value)).map (⟨·, none⟩) else .error .usage

/-- Switches by their letters. A flag with a value may come last, with the value right behind it or
behind an equals sign. -/
def readShort (flags : List Flag) (g : Given) : List Char → Except Stop Reading
  | [] => .ok ⟨g, none⟩
  | c :: cs =>
    match flags.find? (·.short? == some c) with
    | none => .error .usage
    | some f =>
      if f.takesValue then
        match cs with
        | [] => .ok ⟨g, f⟩
        | '=' :: value => (g.add f (.ofList value)).map (⟨·, none⟩)
        | value => (g.add f (.ofList value)).map (⟨·, none⟩)
      else do
        readShort flags (← g.switch f) cs

def isPlain (arg : String) : Bool := !arg.startsWith "-" || arg == "-"

def readArgument (flags : List Flag) (g : Given) (arg : String) : Except Stop Reading :=
  if arg.startsWith "--" then readLong flags g (arg.toList.drop 2)
  else readShort flags g (arg.toList.drop 1)

/-- The flags in front of the first argument that is none, and the arguments from there on. Two
hyphens end the flags. Nothing may come behind them. -/
def readFlags (flags : List Flag) (g : Given) : List String → Except Stop (Given × List String)
  | [] => .ok (g, [])
  | arg :: args =>
    if isPlain arg then
      .ok (g, arg :: args)
    else if arg = "--" then
      if args.isEmpty then .ok (g, []) else .error .usage
    else do
      let r ← readArgument flags g arg
      match r.waiting with
      | none => readFlags flags r.given args
      | some f =>
        match args with
        | [] => .error .usage
        | value :: rest =>
          if isPlain value then readFlags flags (← r.given.add f value) rest else .error .usage

def Command.read (c : Command) (args : List String) : Except Stop Given :=
  match readFlags c.flags .none args with
  | .ok (g, []) => .ok g
  | .ok (_, _ :: _) => .error .usage
  | .error stop => .error stop

def readHelp : List String → Stop
  | [] => .help
  | [topic] => if topic = "help" ∨ (Command.ofName? topic).isSome then .help else .usage
  | _ => .usage

structure Invocation where
  general : Given
  command : Option (Command × Given)

namespace Invocation

def readCommand : List String → Except Stop (Option (Command × Given))
  | [] => .ok none
  | name :: args =>
    if name = "help" then
      .error (readHelp args)
    else
      match Command.ofName? name with
      | some c => (c.read args).map fun g => some (c, g)
      | none => .error .usage

def read (args : List String) : Except Stop Invocation :=
  match readFlags generalFlags .none args with
  | .ok (g, rest) => (readCommand rest).map fun command => ⟨g, command⟩
  | .error stop => .error stop

end Invocation
end GirBind.CommandLine
