import GirBind.Markup.Position
import GirBind.Text.Lines

namespace GirBind.Markup

structure Cursor where
  rest : List Char
  position : Position
deriving DecidableEq

namespace Cursor

def ofText (text : String) : Cursor := ⟨text.toList, .start⟩

/-- The second cursor stands behind a piece of the text before the first. -/
def Reaches (c d : Cursor) : Prop :=
  ∃ read, c.rest = read ++ d.rest ∧ d.position = c.position.after read

theorem Reaches.refl (c : Cursor) : c.Reaches c := ⟨[], rfl, rfl⟩

theorem Reaches.trans {c d e : Cursor} (h : c.Reaches d) (k : d.Reaches e) : c.Reaches e := by
  obtain ⟨r, hr, hp⟩ := h
  obtain ⟨s, hs, hq⟩ := k
  refine ⟨r ++ s, ?_, ?_⟩
  · rw [hr, hs, List.append_assoc]
  · rw [hq, hp, Position.after_append]

theorem Reaches.length_le {c d : Cursor} (h : c.Reaches d) : d.rest.length ≤ c.rest.length := by
  obtain ⟨r, hr, _⟩ := h
  rw [hr, List.length_append]
  exact Nat.le_add_left _ _

def skip (c : Cursor) (n : Nat) : Cursor :=
  ⟨c.rest.drop n, c.position.after (c.rest.take n)⟩

theorem reaches_skip (c : Cursor) (n : Nat) : c.Reaches (c.skip n) :=
  ⟨c.rest.take n, (List.take_append_drop n c.rest).symm, rfl⟩

theorem length_skip (c : Cursor) (n : Nat) : (c.skip n).rest.length = c.rest.length - n :=
  List.length_drop

def takeWhile (p : Char → Bool) (c : Cursor) : List Char × Cursor :=
  (c.rest.takeWhile p, ⟨c.rest.dropWhile p, c.position.after (c.rest.takeWhile p)⟩)

theorem reaches_takeWhile (p : Char → Bool) (c : Cursor) : c.Reaches (c.takeWhile p).2 :=
  ⟨c.rest.takeWhile p, List.takeWhile_append_dropWhile.symm, rfl⟩

def skipWhile (p : Char → Bool) (c : Cursor) : Cursor := (c.takeWhile p).2

theorem reaches_skipWhile (p : Char → Bool) (c : Cursor) : c.Reaches (c.skipWhile p) :=
  reaches_takeWhile p c

def takeBefore? (close : List Char) (c : Cursor) : Option (List Char × Cursor) :=
  (Text.before? close c.rest).map fun text => (text, c.skip (text.length + close.length))

theorem reaches_takeBefore {close : List Char} {c d : Cursor} {text : List Char}
    (h : c.takeBefore? close = some (text, d)) : c.Reaches d := by
  obtain ⟨t, _, he⟩ := Option.map_eq_some_iff.1 h
  cases he
  exact c.reaches_skip _

end Cursor
end GirBind.Markup
