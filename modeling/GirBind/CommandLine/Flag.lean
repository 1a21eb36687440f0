namespace GirBind.CommandLine

inductive Flag
  | config
  | verbose
  | help
  | version
  | linux
  | windows
  | macos
  | debug
  | packagePrefix
  | package
  | noDefaultPatches
  | output
  | pretty
  | stats
deriving DecidableEq

namespace Flag

def long : Flag → String
  | config => "config"
  | verbose => "verbose"
  | help => "help"
  | version => "version"
  | linux => "linux"
  | windows => "windows"
  | macos => "macos"
  | debug => "debug"
  | packagePrefix => "package-prefix"
  | package => "package"
  | noDefaultPatches => "no-default-patches"
  | output => "output"
  | pretty => "pretty"
  | stats => "stats"

def short? : Flag → Option Char
  | config => some 'c'
  | verbose => some 'v'
  | help => some 'h'
  | version => some 'V'
  | debug => some 'd'
  | output => some 'o'
  | _ => none

def takesValue : Flag → Bool
  | config | linux | windows | macos | packagePrefix | package | output => true
  | _ => false

/-- Most flags must not be given twice. -/
def mayRepeat : Flag → Bool
  | verbose | package => true
  | _ => false

end Flag

inductive Command
  | compile
  | check
deriving DecidableEq

def Command.ofName? (name : String) : Option Command :=
  match name with
  | "compile" => some .compile
  | "check" => some .check
  | _ => none

def generalFlags : List Flag := [.config, .verbose, .help, .version]

def commonFlags : List Flag :=
  [.linux, .windows, .macos, .debug, .packagePrefix, .package, .noDefaultPatches, .help]

def Command.flags : Command → List Flag
  | compile => commonFlags ++ [.output, .pretty, .stats]
  | check => commonFlags

end GirBind.CommandLine
