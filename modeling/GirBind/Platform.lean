namespace GirBind

/-- A set of platforms. Union and intersection act platform by platform. -/
structure PlatformSet where
  linux : Bool
  windows : Bool
  macos : Bool
deriving DecidableEq

namespace PlatformSet

def empty : PlatformSet := ⟨false, false, false⟩
def all : PlatformSet := ⟨true, true, true⟩
def linuxOnly : PlatformSet := ⟨true, false, false⟩
def windowsOnly : PlatformSet := ⟨false, true, false⟩
def macosOnly : PlatformSet := ⟨false, false, true⟩

instance : Union PlatformSet where
  union p q := ⟨p.linux || q.linux, p.windows || q.windows, p.macos || q.macos⟩

instance : Inter PlatformSet where
  inter p q := ⟨p.linux && q.linux, p.windows && q.windows, p.macos && q.macos⟩

theorem union_def (p q : PlatformSet) :
    p ∪ q = ⟨p.linux || q.linux, p.windows || q.windows, p.macos || q.macos⟩ := rfl

theorem inter_def (p q : PlatformSet) :
    p ∩ q = ⟨p.linux && q.linux, p.windows && q.windows, p.macos && q.macos⟩ := rfl

theorem union_assoc (p q r : PlatformSet) : p ∪ q ∪ r = p ∪ (q ∪ r) := by
  simp only [union_def, Bool.or_assoc]

theorem union_comm (p q : PlatformSet) : p ∪ q = q ∪ p := by
  simp only [union_def, Bool.or_comm]

@[simp] theorem union_self (p : PlatformSet) : p ∪ p = p := by
  simp only [union_def, Bool.or_self]

@[simp] theorem empty_union (p : PlatformSet) : empty ∪ p = p := by
  simp only [union_def, empty, Bool.false_or]

def names (p : PlatformSet) : List String :=
  (if p.linux then ["linux"] else []) ++
    (if p.windows then ["windows"] else []) ++
      (if p.macos then ["macos"] else [])

def display (p : PlatformSet) : String := ", ".intercalate p.names

def needsGuard (p : PlatformSet) : Bool := p != all

/-- The sort key of a set: Linux counts one, Windows two and macOS four. -/
def rank (p : PlatformSet) : Nat :=
  (if p.linux then 1 else 0) + (if p.windows then 2 else 0) + (if p.macos then 4 else 0)

/-- The set with the given name. ASCII case does not matter. -/
def ofName? (name : String) : Option PlatformSet :=
  match name.toLower with
  | "linux" => some linuxOnly
  | "windows" => some windowsOnly
  | "macos" => some macosOnly
  | "all" => some all
  | _ => none

end PlatformSet
end GirBind
