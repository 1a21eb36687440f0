import Mathlib.Data.List.TakeWhile
import GirBind.Floating
import GirBind.Proofs.Agreement.Outcome
import GirBind.Proofs.Sketch

namespace GirBind

open Attempt (Finds Persists)

def TypeEntry.sketch (e : TypeEntry) : TypeEntry := { e with type := e.type.sketch }

namespace TypeEntry

variable {e e' : TypeEntry}

theorem name_congr (h : e.sketch = e'.sketch) :
    e.library = e'.library ∧ e.type.name = e'.type.name := by
  have hlibrary : e.sketch.library = e'.sketch.library := congrArg TypeEntry.library h
  have hname : e.sketch.type.name = e'.sketch.type.name := congrArg (·.type.name) h
  exact ⟨hlibrary, hname⟩

theorem identity_congr (h : e.sketch = e'.sketch) : e.identity = e'.identity :=
  Prod.ext (name_congr h).1 (name_congr h).2

theorem variant_congr (h : e.sketch = e'.sketch) : e.type.variant = e'.type.variant :=
  (congrArg (·.type.variant) h : e.sketch.type.variant = e'.sketch.type.variant)

theorem aliasTarget?_congr (h : e.sketch = e'.sketch) :
    e.type.aliasTarget? = e'.type.aliasTarget? := by
  rw [← e.type.aliasTarget?_mapMembers Node.hides_sketch,
    ← e'.type.aliasTarget?_mapMembers Node.hides_sketch]
  exact congrArg (·.type.aliasTarget?) h

end TypeEntry

theorem Primitive.ofName?_of_mem_period {name : String} (h : '.' ∈ name.toList) :
    ofName? name = none := by
  have hlower : '.' ∈ name.toLower.toList := by
    change '.' ∈ (name.map Char.toLower).toList
    rw [String.toList_map]
    exact List.mem_map_of_mem (f := Char.toLower) h
  unfold ofName?
  split
  all_goals first
    | rfl
    | rename_i heq
      rw [heq] at hlower
      exact absurd hlower (by decide)

theorem QualifiedName.ofText_of_no_period {text : String} (h : '.' ∉ text.toList) :
    ofText text = ⟨none, text⟩ := by
  have hnone : text.toList.dropWhile (· != '.') = [] := by
    rw [List.dropWhile_eq_nil_iff]
    intro c hc
    rw [bne_iff_ne]
    rintro rfl
    exact h hc
  rw [ofText, hnone]
  cases text.toList.takeWhile (· != '.') with
  | nil => rfl
  | cons c cs => rfl

namespace SymbolTable

def Knows (table : SymbolTable) (library : String) : Prop := (table.namespace? library).isSome

def IsFiled (table : SymbolTable) : Prop :=
  ∀ name ns, table.namespace? name = some ns → ns.name = name

/-- A second table has the same namespaces up to what is read of them. If it may have more, then a
failure of the first one can be made up for. -/
structure Agrees (recovers : Prop) (table table' : SymbolTable) : Prop where
  naming : table.naming = table'.naming
  finds : ∀ name, Finds recovers (fun ns ns' : Namespace => ns.sketch = ns'.sketch)
    (table.namespace? name) (table'.namespace? name)
  filed : table.IsFiled

/-- The same types as two tables have them, the first one's in a namespace that it knows. -/
inductive Alike (table : SymbolTable) : ResolvedType → ResolvedType → Prop
  | registered {e e' : TypeEntry} (h : e.sketch = e'.sketch) (hk : table.Knows e.library) :
    Alike table (.registered e) (.registered e')
  | primitive (p : Primitive) : Alike table (.primitive p) (.primitive p)

theorem Alike.primitive? {table : SymbolTable} {r r' : ResolvedType} (h : table.Alike r r') :
    r.primitive? = r'.primitive? := by
  cases h with
  | registered => rfl
  | primitive p => rfl

namespace Agrees

variable {recovers : Prop} {table table' : SymbolTable} {current declaration : String}

theorem package (h : table.Agrees recovers table') (library : String) :
    table.package library = table'.package library := by
  rw [SymbolTable.package, SymbolTable.package, h.naming]

theorem qualifiedJavaName (h : table.Agrees recovers table') (library type : String) :
    table.qualifiedJavaName library type = table'.qualifiedJavaName library type := by
  rw [SymbolTable.qualifiedJavaName, SymbolTable.qualifiedJavaName, h.package]

theorem knows_of_lookup? (h : table.Agrees recovers table') {name : String} {e : TypeEntry}
    (he : table.lookup? current name = some e) : table.Knows e.library := by
  obtain ⟨ns, hns, ht⟩ := Option.bind_eq_some_iff.1 he
  obtain ⟨t, -, rfl⟩ := Option.map_eq_some_iff.1 ht
  change (table.namespace? ns.name).isSome = true
  rw [h.filed _ ns hns, hns, Option.isSome_some]

/-- A lookup can be made up for only by a namespace that the first table lacks. -/
theorem lookup? (h : table.Agrees recovers table') (current name : String) :
    Finds (recovers ∧
        table.namespace? ((QualifiedName.ofText name).library.getD current) = none)
      (fun e e' => e.sketch = e'.sketch)
      (table.lookup? current name) (table'.lookup? current name) := by
  have hns := h.finds ((QualifiedName.ofText name).library.getD current)
  unfold SymbolTable.lookup?
  dsimp only
  revert hns
  generalize table.namespace? ((QualifiedName.ofText name).library.getD current) = x
  generalize table'.namespace? ((QualifiedName.ofText name).library.getD current) = y
  intro hns
  cases hns with
  | @found ns ns' hns =>
    have htypes : (ns.types.get? (QualifiedName.ofText name).name).map RegisteredType.sketch =
        (ns'.types.get? (QualifiedName.ofText name).name).map RegisteredType.sketch := by
      rw [← Namespace.get?_types_sketch, ← Namespace.get?_types_sketch, hns]
    have hname : ns.sketch.name = ns'.sketch.name := congrArg Namespace.name hns
    rw [Option.bind_some, Option.bind_some]
    cases ht : ns.types.get? (QualifiedName.ofText name).name with
    | none =>
      rw [ht, Option.map_none, eq_comm, Option.map_eq_none_iff] at htypes
      rw [htypes]
      exact .missed
    | some t =>
      rw [ht, Option.map_some, eq_comm, Option.map_eq_some_iff] at htypes
      obtain ⟨t', ht', hsketch⟩ := htypes
      rw [ht']
      exact .found (congrArg₂ TypeEntry.mk hname hsketch.symm)
  | missed => exact .missed
  | recovered hr ns' =>
    rw [Option.bind_none, Option.bind_some]
    cases ns'.types.get? (QualifiedName.ofText name).name with
    | none => exact .missed
    | some t => exact .recovered ⟨hr, rfl⟩ _

theorem resolve (h : table.Agrees recovers table') (hk : table.Knows current) (name : String) :
    Persists recovers table.Alike (table.resolve current declaration name)
      (table'.resolve current declaration name) := by
  have hlookup := h.lookup? current name
  have hknows {e : TypeEntry} (he : table.lookup? current name = some e) :
      table.Knows e.library := h.knows_of_lookup? he
  unfold SymbolTable.resolve
  revert hlookup hknows
  generalize table.lookup? current name = x
  generalize table'.lookup? current name = y
  intro hlookup hknows
  cases hlookup with
  | found he => exact .ok (.registered he (hknows rfl))
  | missed =>
    cases Primitive.ofName? name with
    | some p => exact .ok (.primitive p)
    | none => exact .failed _
  | recovered hr e =>
    have hdot : '.' ∈ name.toList := by
      by_contra hnot
      rw [QualifiedName.ofText_of_no_period hnot] at hr
      have hnone : table.namespace? current = none := hr.2
      rw [Knows, hnone] at hk
      cases hk
    rw [Primitive.ofName?_of_mem_period hdot]
    exact .recovered hr.1 _ _

theorem resolveRef (h : table.Agrees recovers table') (hk : table.Knows current) (t : TypeRef) :
    Persists recovers table.Alike (table.resolveRef current declaration t)
      (table'.resolveRef current declaration t) := by
  unfold SymbolTable.resolveRef
  split
  case isTrue =>
    split
    case h_1 name _ => exact (h.resolve hk name).map fun _ _ _ => .primitive .pointer
    case h_2 => exact .ok (.primitive .pointer)
  case isFalse =>
    split
    case h_1 name _ => exact h.resolve hk name
    case h_2 => exact .ok (.primitive .pointer)

end Agrees

/-- What the second list has and the first one lacks can be made up for. -/
def Covers (recovers : Prop) (l l' : List (String × String)) : Prop :=
  ∀ i, (i ∈ l ↔ i ∈ l') ∨ recovers ∧ i ∉ l

theorem Covers.otherThan {recovers : Prop} {l l' : List (String × String)}
    (h : Covers recovers l l') (j : String × String) :
    Covers recovers (otherThan l j) (otherThan l' j) := by
  intro i
  simp only [SymbolTable.otherThan, List.mem_filter, bne_iff_ne]
  rcases h i with hi | ⟨hr, hi⟩
  · rw [hi]
    exact .inl Iff.rfl
  · exact .inr ⟨hr, fun hmem => hi hmem.1⟩

theorem Covers.append {recovers : Prop} {l l' : List (String × String)} (h : Covers recovers l l')
    (start : List (String × String)) : Covers recovers (start ++ l) (start ++ l') := by
  intro i
  simp only [List.mem_append]
  by_cases hstart : i ∈ start
  · exact .inl ⟨fun _ => .inl hstart, fun _ => .inl hstart⟩
  · rcases h i with hi | ⟨hr, hi⟩
    · rw [hi]
      exact .inl Iff.rfl
    · exact .inr ⟨hr, fun hmem => hmem.elim hstart hi⟩

theorem mem_identities_iff {table : SymbolTable} {i : String × String} :
    i ∈ table.identities ↔ ∃ name ns, table.namespace? name = some ns ∧
      i ∈ ns.types.values.map fun t => (ns.name, t.name) := by
  rw [identities, List.mem_flatMap]
  constructor
  · rintro ⟨ns, hns, hi⟩
    obtain ⟨⟨name, ns⟩, hentry, rfl⟩ := List.mem_map.1 hns
    exact ⟨name, ns, OrderedMap.get?_eq_some_iff.2 hentry, hi⟩
  · rintro ⟨name, ns, hns, hi⟩
    exact ⟨ns, OrderedMap.mem_values_of_get? hns, hi⟩

theorem identities_sketch (ns : Namespace) :
    (ns.sketch.types.values.map fun t => (ns.sketch.name, t.name)) =
      ns.types.values.map fun t => (ns.name, t.name) := by
  rw [Namespace.values_types_sketch, List.map_map]
  rfl

namespace Agrees

variable {recovers : Prop} {table table' : SymbolTable} {current declaration : String}

theorem covers (h : table.Agrees recovers table') :
    Covers recovers table.identities table'.identities := by
  have hforward {i : String × String} (hi : i ∈ table.identities) : i ∈ table'.identities := by
    obtain ⟨name, ns, hns, hi⟩ := mem_identities_iff.1 hi
    have hfinds := h.finds name
    rw [hns] at hfinds
    generalize hy : table'.namespace? name = y at hfinds
    cases hfinds with
    | @found _ ns' hsame =>
      rw [← identities_sketch, hsame, identities_sketch] at hi
      exact mem_identities_iff.2 ⟨name, ns', hy, hi⟩
  have hbackward (hnot : ¬ recovers) {i : String × String} (hi : i ∈ table'.identities) :
      i ∈ table.identities := by
    obtain ⟨name, ns', hns', hi⟩ := mem_identities_iff.1 hi
    have hfinds := h.finds name
    rw [hns'] at hfinds
    generalize hx : table.namespace? name = x at hfinds
    cases hfinds with
    | @found ns _ hsame =>
      rw [← identities_sketch, ← hsame, identities_sketch] at hi
      exact mem_identities_iff.2 ⟨name, ns, hx, hi⟩
    | recovered hr => exact absurd hr hnot
  intro i
  by_cases hi : i ∈ table.identities
  · exact .inl ⟨fun _ => hforward hi, fun _ => hi⟩
  · by_cases hr : recovers
    · exact .inr ⟨hr, hi⟩
    · exact .inl ⟨hforward, hbackward hr⟩

/-- Aliases lead to the same type, unless the first table ends the chain too early. -/
theorem followAliases (h : table.Agrees recovers table') {unmet unmet' : List (String × String)}
    (hunmet : Covers recovers unmet unmet') {r r' : ResolvedType} (hr : table.Alike r r') :
    Persists recovers table.Alike (table.followAliases declaration unmet r)
      (table'.followAliases declaration unmet' r') := by
  cases hr with
  | primitive p =>
    rw [SymbolTable.followAliases, SymbolTable.followAliases]
    exact .ok (.primitive p)
  | @registered e e' he hk =>
    rw [SymbolTable.followAliases, SymbolTable.followAliases, ← TypeEntry.variant_congr he,
      ← TypeEntry.identity_congr he, ← TypeEntry.aliasTarget?_congr he,
      ← (TypeEntry.name_congr he).1, ← (TypeEntry.name_congr he).2]
    split
    case isFalse => exact .ok (.registered he hk)
    case isTrue =>
      by_cases hmem : e.identity ∈ unmet
      · have hmem' : e.identity ∈ unmet' := by
          rcases hunmet e.identity with hi | ⟨-, hi⟩
          · exact hi.1 hmem
          · exact absurd hmem hi
        rw [dif_pos hmem, dif_pos hmem']
        cases e.type.aliasTarget? with
        | none => exact .failed _
        | some target =>
          have hnext : Persists recovers table.Alike
              (table.resolveRef e.library declaration target)
              (table'.resolveRef e.library declaration target) := h.resolveRef hk target
          dsimp only
          revert hnext
          generalize table.resolveRef e.library declaration target = x
          generalize table'.resolveRef e.library declaration target = y
          intro hnext
          cases hnext with
          | ok hnext => exact h.followAliases (hunmet.otherThan e.identity) hnext
          | failed o => exact .failed o
          | recovered hrec o y => exact .recovered hrec o _
      · rw [dif_neg hmem]
        rcases hunmet e.identity with hi | ⟨hrec, -⟩
        · rw [dif_neg fun hmem' => hmem (hi.2 hmem')]
          exact .failed _
        · exact .recovered hrec _ _
termination_by unmet.length
decreasing_by exact length_otherThan hmem

theorem underlying (h : table.Agrees recovers table') {r r' : ResolvedType}
    (hr : table.Alike r r') :
    Persists recovers table.Alike (table.underlying declaration r)
      (table'.underlying declaration r') := by
  cases hr with
  | primitive p => exact h.followAliases (h.covers.append []) (.primitive p)
  | @registered e e' he hk =>
    have hstart : table'.underlying declaration (.registered e') =
        table'.followAliases declaration ([e.identity] ++ table'.identities) (.registered e') := by
      rw [TypeEntry.identity_congr he]
      rfl
    rw [hstart]
    exact h.followAliases (h.covers.append [e.identity]) (.registered he hk)

end Agrees
end SymbolTable
end GirBind
