namespace GirBind

/-- A finite map from text that keeps its entries in the order of first insertion. -/
structure OrderedMap (α : Type u) where
  entries : List (String × α)
  nodup_keys : (entries.map Prod.fst).Nodup

namespace OrderedMap

variable {α : Type u} {β : Type v}

theorem ext_entries {m n : OrderedMap α} (h : m.entries = n.entries) : m = n := by
  cases m
  cases n
  cases h
  rfl

instance [DecidableEq α] : DecidableEq (OrderedMap α) := fun m n =>
  if h : m.entries = n.entries then
    isTrue (ext_entries h)
  else
    isFalse fun e => h (congrArg entries e)

def empty : OrderedMap α := ⟨[], .nil⟩

instance : EmptyCollection (OrderedMap α) := ⟨empty⟩

instance : Inhabited (OrderedMap α) := ⟨empty⟩

def keys (m : OrderedMap α) : List String := m.entries.map Prod.fst

def values (m : OrderedMap α) : List α := m.entries.map Prod.snd

def size (m : OrderedMap α) : Nat := m.entries.length

def get? (m : OrderedMap α) (key : String) : Option α :=
  (m.entries.find? fun e => e.1 == key).map Prod.snd

def contains (m : OrderedMap α) (key : String) : Bool :=
  m.entries.any fun e => e.1 == key

theorem contains_eq_false {m : OrderedMap α} {key : String} (h : m.contains key = false) :
    key ∉ m.keys := by
  intro hk
  obtain ⟨e, he, rfl⟩ := List.mem_map.1 hk
  have : m.contains e.1 = true := List.any_eq_true.2 ⟨e, he, beq_self_eq_true _⟩
  rw [h] at this
  cases this

def modify (m : OrderedMap α) (key : String) (f : α → α) : OrderedMap α where
  entries := m.entries.map fun e => if e.1 == key then (e.1, f e.2) else e
  nodup_keys := by
    have h : (Prod.fst ∘ fun e : String × α => if e.1 == key then (e.1, f e.2) else e) = Prod.fst := by
      funext e
      dsimp only [Function.comp]
      split <;> rfl
    rw [List.map_map, h]
    exact m.nodup_keys

/-- A known key keeps its place and gets the new value, a new key comes last. -/
def insert (m : OrderedMap α) (key : String) (value : α) : OrderedMap α :=
  if h : m.contains key then
    m.modify key fun _ => value
  else
    { entries := m.entries ++ [(key, value)]
      nodup_keys := by
        have hk := contains_eq_false (Bool.eq_false_iff.2 h)
        rw [List.map_append, List.nodup_append]
        refine ⟨m.nodup_keys, List.pairwise_singleton _ _, ?_⟩
        intro a ha b hb hab
        rw [List.map_singleton, List.mem_singleton] at hb
        rw [hab, hb] at ha
        exact hk ha }

def insertNew (m : OrderedMap α) (key : String) (value : α) : OrderedMap α :=
  if m.contains key then m else m.insert key value

def erase (m : OrderedMap α) (key : String) : OrderedMap α where
  entries := m.entries.filter fun e => e.1 != key
  nodup_keys := m.nodup_keys.sublist (List.filter_sublist.map Prod.fst)

def map (m : OrderedMap α) (f : α → β) : OrderedMap β where
  entries := m.entries.map fun e => (e.1, f e.2)
  nodup_keys := by
    rw [List.map_map]
    exact m.nodup_keys

/-- The last value given for a key counts, the first place counts. -/
def ofList (l : List (String × α)) : OrderedMap α :=
  l.foldl (fun m e => m.insert e.1 e.2) empty

def sameEntries [BEq α] (m n : OrderedMap α) : Bool :=
  m.size == n.size && m.entries.all fun e => n.get? e.1 == some e.2

end OrderedMap
end GirBind
