import GirBind.Proofs.Agreement.Table

namespace GirBind

open Attempt (Finds)

namespace TypeEntry

variable {e e' : TypeEntry}

theorem parent?_congr (h : e.sketch = e'.sketch) : e.type.parent? = e'.type.parent? :=
  (congrArg (·.type.parent?) h : e.sketch.type.parent? = e'.sketch.type.parent?)

theorem isRoot_congr (h : e.sketch = e'.sketch) (name cType : String) :
    isRoot name cType e = isRoot name cType e' :=
  (congrArg (isRoot name cType) h : isRoot name cType e.sketch = isRoot name cType e'.sketch)

theorem hasMethod_congr (h : e.sketch = e'.sketch) (name : String) :
    e.type.hasMethod name = e'.type.hasMethod name := by
  rw [← e.type.hasMethod_mapMembers Node.hides_sketch,
    ← e'.type.hasMethod_mapMembers Node.hides_sketch]
  exact congrArg (·.type.hasMethod name) h

end TypeEntry

namespace SymbolTable.Agrees

variable {table table' : SymbolTable}

theorem descendsUnowned (h : table.Agrees False table') {unmet unmet' : List (String × String)}
    (hunmet : Covers False unmet unmet') {e e' : TypeEntry} (he : e.sketch = e'.sketch) :
    table.descendsUnowned unmet e = table'.descendsUnowned unmet' e' := by
  rw [SymbolTable.descendsUnowned, SymbolTable.descendsUnowned, ← TypeEntry.parent?_congr he,
    ← TypeEntry.identity_congr he, ← (TypeEntry.name_congr he).1]
  cases e.type.parent? with
  | none => rfl
  | some parent =>
    have hmem' : e.identity ∈ unmet ↔ e.identity ∈ unmet' :=
      (hunmet e.identity).resolve_right fun hr => hr.1
    by_cases hmem : e.identity ∈ unmet
    · have hlookup := h.lookup? e.library parent
      dsimp only
      rw [dif_pos hmem, dif_pos (hmem'.1 hmem)]
      revert hlookup
      generalize table.lookup? e.library parent = x
      generalize table'.lookup? e.library parent = y
      intro hlookup
      cases hlookup with
      | missed => rfl
      | recovered hr => exact hr.1.elim
      | @found p p' hp =>
        refine congrArg₂ (· || ·) (TypeEntry.isRoot_congr hp _ _) ?_
        exact h.descendsUnowned (hunmet.otherThan e.identity) hp
    · dsimp only
      rw [dif_neg hmem, dif_neg fun hu => hmem (hmem'.2 hu)]
termination_by unmet.length
decreasing_by exact length_otherThan hmem

theorem isFloating (h : table.Agrees False table') {e e' : TypeEntry}
    (he : e.sketch = e'.sketch) :
    table.isFloating e = table'.isFloating e' := by
  have hdescends := h.descendsUnowned (h.covers.append [e.identity]) he
  rw [SymbolTable.isFloating, SymbolTable.isFloating, ← TypeEntry.variant_congr he,
    ← TypeEntry.hasMethod_congr he, ← TypeEntry.identity_congr he, TypeEntry.isObjectRoot,
    TypeEntry.isInitiallyUnowned, TypeEntry.isRoot_congr he, TypeEntry.isRoot_congr he]
  exact congrArg (fun b => (_ && !b && _)) hdescends

end SymbolTable.Agrees

namespace FloatingTable

variable {table table' : SymbolTable}

theorem ofNamespace_agrees (h : table.Agrees False table') {ns ns' : Namespace}
    (hns : ns.sketch = ns'.sketch) : ofNamespace table ns = ofNamespace table' ns' := by
  have hname : ns.sketch.name = ns'.sketch.name := congrArg (·.name) hns
  change ns.name = ns'.name at hname
  have hvalues : ns.types.values.map RegisteredType.sketch =
      ns'.types.values.map RegisteredType.sketch := by
    rw [← Namespace.values_types_sketch, ← Namespace.values_types_sketch, hns]
  rw [ofNamespace, ofNamespace, hname]
  revert hvalues
  generalize ns.types.values = l
  generalize ns'.types.values = l'
  intro hvalues
  induction l generalizing l' with
  | nil =>
    rw [List.map_nil, eq_comm, List.map_eq_nil_iff] at hvalues
    rw [hvalues]
    rfl
  | cons t l ih =>
    rw [List.map_cons, eq_comm, List.map_eq_cons_iff] at hvalues
    obtain ⟨t', l', rfl, ht, hl⟩ := hvalues
    have he : TypeEntry.sketch ⟨ns'.name, t⟩ = TypeEntry.sketch ⟨ns'.name, t'⟩ :=
      congrArg (TypeEntry.mk ns'.name) ht.symm
    have hvariant : t.variant = t'.variant := TypeEntry.variant_congr he
    have htype : t.name = t'.name := (TypeEntry.name_congr he).2
    rw [List.filter_cons, List.filter_cons, hvariant]
    split
    case isTrue => rw [List.map_cons, List.map_cons, ih l' hl.symm, htype, h.isFloating he]
    case isFalse => exact ih l' hl.symm

theorem find?_ofNamespace_other {ns : Namespace} {library type : String} (h : ns.name ≠ library) :
    ((ofNamespace table ns).find? fun e => e.1 == (library, type)) = none := by
  rw [List.find?_eq_none]
  intro e he hkey
  obtain ⟨t, -, rfl⟩ := List.mem_map.1 he
  rw [beq_iff_eq] at hkey
  exact h (congrArg Prod.fst hkey)

theorem find?_flatMap_ofNamespace {l : List (String × Namespace)} (hd : (l.map Prod.fst).Nodup)
    (hl : ∀ e ∈ l, e.2.name = e.1) (library type : String) :
    (((l.map Prod.snd).flatMap (ofNamespace table)).find? fun e => e.1 == (library, type)) =
      (l.find? fun e => e.1 == library).bind fun e =>
        (ofNamespace table e.2).find? fun e => e.1 == (library, type) := by
  induction l with
  | nil => rfl
  | cons e l ih =>
    obtain ⟨he, hd⟩ := List.nodup_cons.1 hd
    obtain ⟨hname, hl⟩ := List.forall_mem_cons.1 hl
    rw [List.map_cons, List.flatMap_cons, List.find?_append, ih hd hl]
    cases hkey : e.1 == library with
    | true =>
      have hnone : (l.find? fun e => e.1 == library) = none := by
        rw [List.find?_eq_none]
        intro f hf hfkey
        rw [beq_iff_eq] at hkey hfkey
        exact he (List.mem_map.2 ⟨f, hf, hfkey.trans hkey.symm⟩)
      simp only [hnone, Option.bind_none, Option.or_none, List.find?_cons, hkey, Option.bind_some]
    | false =>
      have hother : e.2.name ≠ library := fun h => by
        rw [hname] at h
        rw [h, beq_self_eq_true] at hkey
        cases hkey
      simp only [find?_ofNamespace_other hother, Option.none_or, List.find?_cons, hkey]

theorem get?_build (h : table.IsFiled) (library type : String) :
    (build table).get? library type = (table.namespace? library).bind fun ns =>
      ((ofNamespace table ns).find? fun e => e.1 == (library, type)).map Prod.snd := by
  have hentries : ∀ e ∈ table.libraries.entries, e.2.name = e.1 := fun e he =>
    h e.1 e.2 (OrderedMap.get?_eq_some_iff.2 he)
  refine (congrArg (Option.map Prod.snd)
    (find?_flatMap_ofNamespace table.libraries.nodup_keys hentries library type)).trans ?_
  rw [SymbolTable.namespace?, OrderedMap.get?, Option.map_bind, Option.bind_map]
  rfl

theorem get?_agrees (h : table.Agrees False table') (hfiled : table'.IsFiled)
    (library type : String) :
    (build table).get? library type = (build table').get? library type := by
  rw [get?_build h.filed, get?_build hfiled]
  have hns := h.finds library
  revert hns
  generalize table.namespace? library = x
  generalize table'.namespace? library = y
  intro hns
  cases hns with
  | missed => rfl
  | recovered hr => exact hr.elim
  | found hns => rw [Option.bind_some, Option.bind_some, ofNamespace_agrees h hns]

end FloatingTable
end GirBind
