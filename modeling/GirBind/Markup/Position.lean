namespace GirBind

namespace Markup

/-- A place in a text. Lines and columns count from one. -/
structure Position where
  line : Nat
  column : Nat
deriving DecidableEq

namespace Position

def start : Position := ⟨1, 1⟩

def advance (p : Position) (c : Char) : Position :=
  if c = '\n' then ⟨p.line + 1, 1⟩ else ⟨p.line, p.column + 1⟩

def after (p : Position) (cs : List Char) : Position := cs.foldl advance p

@[simp] theorem after_nil (p : Position) : p.after [] = p := rfl

theorem after_cons (p : Position) (c : Char) (cs : List Char) :
    p.after (c :: cs) = (p.advance c).after cs := rfl

theorem after_append (p : Position) (a b : List Char) :
    p.after (a ++ b) = (p.after a).after b := List.foldl_append

end Position
end Markup

structure Located (α : Type u) where
  line : Nat
  fault : α
deriving DecidableEq

def Located.map {α : Type u} {β : Type v} (f : α → β) (l : Located α) : Located β :=
  ⟨l.line, f l.fault⟩

end GirBind
