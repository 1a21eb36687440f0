namespace GirBind

inductive Transfer
  | none
  | container
  | full
deriving DecidableEq

namespace Transfer

/-- Nothing is handed over unless the annotation says so. -/
def ofAttribute : Option String → Transfer
  | some "full" => full
  | some "container" => container
  | _ => none

def name : Transfer → String
  | none => "none"
  | container => "container"
  | full => "full"

end Transfer

inductive Direction
  | input
  | output
  | inOut
deriving DecidableEq

namespace Direction

def ofAttribute : Option String → Direction
  | some "out" => output
  | some "inout" => inOut
  | _ => input

def name : Direction → String
  | input => "in"
  | output => "out"
  | inOut => "in-out"

end Direction

inductive Stage
  | first
  | last
  | cleanup
deriving DecidableEq

namespace Stage

def ofAttribute : Option String → Stage
  | some "first" => first
  | some "cleanup" => cleanup
  | _ => last

def name : Stage → String
  | first => "first"
  | last => "last"
  | cleanup => "cleanup"

end Stage
end GirBind
