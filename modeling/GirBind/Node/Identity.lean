import GirBind.Node.Basic

namespace GirBind.Node

mutual

/-- Equality up to platforms, lines and the order of attributes. -/
def sameShape : Node → Node → Bool
  | ⟨k, a, cs, t, _, _⟩, ⟨k', a', cs', t', _, _⟩ =>
    k == k' && a.sameEntries a' && t == t' && sameShapes cs cs'

def sameShapes : List Node → List Node → Bool
  | [], [] => true
  | x :: xs, y :: ys => sameShape x y && sameShapes xs ys
  | _, _ => false

end

mutual

/-- Equality up to lines and the order of attributes. -/
def equal : Node → Node → Bool
  | ⟨k, a, cs, t, p, _⟩, ⟨k', a', cs', t', p', _⟩ =>
    k == k' && a.sameEntries a' && t == t' && p == p' && equals cs cs'

def equals : List Node → List Node → Bool
  | [], [] => true
  | x :: xs, y :: ys => equal x y && equals xs ys
  | _, _ => false

end

/-- Two children of one parent describe the same member: they have the same kind and name, or no
name and a kind that occurs once, or no name and the same shape. -/
def sameMember (m n : Node) : Bool :=
  m.kind == n.kind &&
    match m.name?, n.name? with
    | some a, some b => a == b
    | none, none => m.kind.isSingleton || sameShape m n
    | _, _ => false

end GirBind.Node
