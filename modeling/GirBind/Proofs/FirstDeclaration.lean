import GirBind.Proofs.Gathering.Success
import GirBind.Proofs.Reordering

namespace GirBind

/-- What stands first of all that stands somewhere, or nothing if nothing stands anywhere. A place
is the list of its positions from the outermost list to the innermost one, and of two places the
one that is smaller at the first difference comes first. -/
def IsFirst {α : Type u} (stands : List Nat → α → Prop) : Option α → Prop
  | none => ∀ p a, ¬ stands p a
  | some a => ∃ p, stands p a ∧ ∀ q b, stands q b → ¬ List.Lex (· < ·) q p

namespace IsFirst

variable {ι : Type u} {α : Type v}

theorem congr {stands stands' : List Nat → α → Prop} {o : Option α} (h : IsFirst stands o)
    (hiff : ∀ p a, stands' p a ↔ stands p a) : IsFirst stands' o := by
  cases o with
  | none =>
    intro p a hstands
    exact h p a ((hiff p a).1 hstands)
  | some a =>
    obtain ⟨p, hp, hleast⟩ := h
    refine ⟨p, (hiff p a).2 hp, ?_⟩
    intro q b hstands
    exact hleast q b ((hiff q b).1 hstands)

theorem self (o : Option α) : IsFirst (fun p a => p = [] ∧ o = some a) o := by
  cases o with
  | none =>
    rintro p a ⟨-, ha⟩
    cases ha
  | some a =>
    refine ⟨[], ⟨rfl, rfl⟩, ?_⟩
    intro q b _ hlex
    cases hlex

theorem findSome? {l : List ι} {f : ι → Option α} {stands : ι → List Nat → α → Prop}
    (h : ∀ i ∈ l, IsFirst (stands i) (f i)) :
    IsFirst (fun p a => ∃ k i q, p = k :: q ∧ l[k]? = some i ∧ stands i q a) (l.findSome? f) := by
  cases hfind : l.findSome? f with
  | none =>
    rintro p a ⟨k, i, q, rfl, hk, hstands⟩
    have hi := List.mem_of_getElem? hk
    have hfirst := h i hi
    rw [List.findSome?_eq_none_iff.1 hfind i hi] at hfirst
    exact hfirst q a hstands
  | some a =>
    obtain ⟨before, i, after, rfl, hi, hbefore⟩ := List.findSome?_eq_some_iff.1 hfind
    have hfirst := h i (List.mem_append_right _ List.mem_cons_self)
    rw [hi] at hfirst
    obtain ⟨q, hq, hleast⟩ := hfirst
    have hplace : (before ++ i :: after)[before.length]? = some i := by
      rw [List.getElem?_append_right (Nat.le_refl _), Nat.sub_self, List.getElem?_cons_zero]
    refine ⟨before.length :: q, ⟨_, i, q, rfl, hplace, hq⟩, ?_⟩
    rintro _ b ⟨k, j, q', rfl, hk, hstands⟩ hlex
    cases hlex with
    | cons hlex =>
      obtain rfl : i = j := Option.some.inj (hplace.symm.trans hk)
      exact hleast q' b hstands hlex
    | rel hlt =>
      rw [List.getElem?_append_left hlt] at hk
      have hj := List.mem_of_getElem? hk
      have hnone := h j (List.mem_append_left _ hj)
      rw [hbefore j hj] at hnone
      exact hnone q' b hstands

end IsFirst

def firstOf {α : Type u} (key : String) (l : List (String × α)) : Option α :=
  (l.find? (·.1 == key)).map Prod.snd

section FirstOf

variable {ι : Type u} {α : Type v} (key : String)

theorem firstOf_append (l m : List (String × α)) :
    firstOf key (l ++ m) = (firstOf key l).or (firstOf key m) := by
  rw [firstOf, List.find?_append, Option.map_or]
  rfl

theorem firstOf_flatMap (f : ι → List (String × α)) (l : List ι) :
    firstOf key (l.flatMap f) = l.findSome? fun i => firstOf key (f i) := by
  rw [firstOf, List.find?_flatMap, List.map_findSome?]
  rfl

theorem firstOf_filterMap (f : ι → Option (String × α)) (l : List ι) :
    firstOf key (l.filterMap f) = l.findSome? fun i => firstOf key (f i).toList := by
  rw [← firstOf_flatMap, List.filterMap_eq_flatMap_toList]

theorem firstOf_toList_eq_some_iff {o : Option (String × α)} {a : α} :
    firstOf key o.toList = some a ↔ o = some (key, a) := by
  cases o with
  | none => simp only [firstOf, Option.toList_none, List.find?_nil, Option.map_none, reduceCtorEq]
  | some e =>
    obtain ⟨name, b⟩ := e
    simp only [firstOf, Option.toList_some, List.find?_singleton, beq_iff_eq, Option.some.injEq,
      Prod.mk.injEq]
    split
    case isTrue hname => simp only [hname, Option.map_some, Option.some.injEq, true_and]
    case isFalse hname => simp only [hname, Option.map_none, reduceCtorEq, false_and]

theorem isFirst_firstOf_filterMap (f : ι → Option (String × α)) (l : List ι) :
    IsFirst (fun p a => ∃ k i, p = [k] ∧ l[k]? = some i ∧ f i = some (key, a))
      (firstOf key (l.filterMap f)) := by
  rw [firstOf_filterMap]
  apply (IsFirst.findSome? fun i _ => IsFirst.self (firstOf key (f i).toList)).congr
  intro p a
  simp only [firstOf_toList_eq_some_iff]
  constructor
  · rintro ⟨k, i, rfl, hk, hi⟩
    exact ⟨k, i, [], rfl, hk, rfl, hi⟩
  · rintro ⟨k, i, q, rfl, hk, rfl, hi⟩
    exact ⟨k, i, rfl, hk, hi⟩

end FirstOf

/-- What stands in a namespace of one of the descriptions, with the position of that description
in front of its place. -/
def StandsInOneOf {α : Type u} (rs : List Repository) (stands : Namespace → List Nat → α → Prop)
    (p : List Nat) (a : α) : Prop :=
  ∃ k r q, p = k :: q ∧ rs[k]? = some r ∧ stands r.library q a

namespace Symbol

/-- What a native identifier stands for in a namespace. Functions come first, then constants, which
go by their C type, then what each type declares. -/
inductive StandsAt (ns : Namespace) (identifier : String) : List Nat → Symbol → Prop
  | function {i : Nat} {n : Node} {name : String} (hn : ns.functions[i]? = some n)
      (hidentifier : n.cIdentifier? = some identifier) (hname : n.name? = some name) :
      StandsAt ns identifier [0, i] ⟨ns.name, none, name, n⟩
  | constant {i : Nat} {n : Node} {name : String} (hn : ns.constants[i]? = some n)
      (hidentifier : n.cType? = some identifier) (hname : n.name? = some name) :
      StandsAt ns identifier [1, i] ⟨ns.name, none, name, n⟩
  | member {i j : Nat} {type : String} {t : RegisteredType} {n : Node} {name : String}
      (ht : ns.types.entries[i]? = some (type, t)) (hn : t.node.children[j]? = some n)
      (hkind : n.kind ∈ [.constructor, .method, .function, .member])
      (hidentifier : n.cIdentifier? = some identifier) (hname : n.name? = some name) :
      StandsAt ns identifier [2, i, j] ⟨ns.name, some type, name, n⟩

theorem entry?_eq_some_iff {library : String} {owner carried : Option String} {n : Node}
    {identifier : String} {y : Symbol} : entry? library owner carried n = some (identifier, y) ↔
      carried = some identifier ∧ ∃ name, n.name? = some name ∧ y = ⟨library, owner, name, n⟩ := by
  unfold entry?
  cases carried with
  | none => simp only [reduceCtorEq, false_and]
  | some other =>
    cases n.name? with
    | none => simp only [reduceCtorEq, false_and, exists_false, and_false]
    | some name =>
      simp only [Option.some.injEq, Prod.mk.injEq, exists_eq_left', eq_comm (a := y)]

theorem isIndexed_iff {k : NodeKind} :
    isIndexed k = true ↔ k ∈ [NodeKind.constructor, .method, .function, .member] := by
  cases k with
  | _ => decide

theorem ofType_eq (library key : String) (t : RegisteredType) :
    ofType library key t = t.node.children.filterMap fun n =>
      if isIndexed n.kind then entry? library (some key) n.cIdentifier? n else none :=
  List.filterMap_filter

def part (ns : Namespace) : Nat → List (String × Symbol)
  | 0 => ns.functions.filterMap fun n => entry? ns.name none n.cIdentifier? n
  | 1 => ns.constants.filterMap fun n => entry? ns.name none n.cType? n
  | _ => ns.types.entries.flatMap fun e => ofType ns.name e.1 e.2

theorem ofNamespace_eq (ns : Namespace) :
    ofNamespace ns = (List.range 3).flatMap (part ns) := by
  rw [ofNamespace, List.append_assoc]
  exact congrArg (_ ++ ·) (congrArg (_ ++ ·) (List.append_nil _).symm)

theorem isFirst_part (ns : Namespace) (identifier : String) {k : Nat} (hk : k ∈ List.range 3) :
    IsFirst (fun q y => StandsAt ns identifier (k :: q) y) (firstOf identifier (part ns k)) := by
  have hcases : k = 0 ∨ k = 1 ∨ k = 2 := by
    have := List.mem_range.1 hk
    omega
  rcases hcases with rfl | rfl | rfl
  · apply (isFirst_firstOf_filterMap identifier _ ns.functions).congr
    intro q y
    simp only [entry?_eq_some_iff]
    constructor
    · intro h
      cases h with
      | function hn hidentifier hname => exact ⟨_, _, rfl, hn, hidentifier, _, hname, rfl⟩
    · rintro ⟨i, n, rfl, hn, hidentifier, name, hname, rfl⟩
      exact .function hn hidentifier hname
  · apply (isFirst_firstOf_filterMap identifier _ ns.constants).congr
    intro q y
    simp only [entry?_eq_some_iff]
    constructor
    · intro h
      cases h with
      | constant hn hidentifier hname => exact ⟨_, _, rfl, hn, hidentifier, _, hname, rfl⟩
    · rintro ⟨i, n, rfl, hn, hidentifier, name, hname, rfl⟩
      exact .constant hn hidentifier hname
  · have hpart : part ns 2 = ns.types.entries.flatMap fun e => ofType ns.name e.1 e.2 := rfl
    rw [hpart, firstOf_flatMap]
    simp only [ofType_eq]
    apply (IsFirst.findSome? fun e _ => isFirst_firstOf_filterMap identifier _ _).congr
    intro q y
    simp only [Option.ite_none_right_eq_some, entry?_eq_some_iff, isIndexed_iff]
    constructor
    · intro h
      cases h with
      | member ht hn hkind hidentifier hname =>
        exact ⟨_, _, _, rfl, ht, _, _, rfl, hn, hkind, hidentifier, _, hname, rfl⟩
    · rintro ⟨i, ⟨type, t⟩, q, rfl, ht, j, n, rfl, hn, hkind, hidentifier, name, hname, rfl⟩
      exact .member ht hn hkind hidentifier hname

theorem isFirst_ofNamespace (ns : Namespace) (identifier : String) :
    IsFirst (StandsAt ns identifier) (firstOf identifier (ofNamespace ns)) := by
  rw [ofNamespace_eq, firstOf_flatMap]
  apply (IsFirst.findSome? fun k hk => isFirst_part ns identifier hk).congr
  intro p y
  constructor
  · intro h
    cases h with
    | function hn hidentifier hname =>
      exact ⟨0, 0, _, rfl, rfl, .function hn hidentifier hname⟩
    | constant hn hidentifier hname =>
      exact ⟨1, 1, _, rfl, rfl, .constant hn hidentifier hname⟩
    | member ht hn hkind hidentifier hname =>
      exact ⟨2, 2, _, rfl, rfl, .member ht hn hkind hidentifier hname⟩
  · rintro ⟨k, k', q, rfl, hk, hstands⟩
    obtain ⟨_, rfl⟩ := List.getElem?_eq_some_iff.1 hk
    rwa [List.getElem_range] at hstands

end Symbol

/-- What a native type name stands for in a namespace. A type without a C type goes by its
registered name. -/
inductive TypeEntry.StandsAt (ns : Namespace) (name : String) : List Nat → TypeEntry → Prop
  | cType {i : Nat} {t : RegisteredType} (ht : ns.types.values[i]? = some t)
      (hname : t.node.cType? = some name) : StandsAt ns name [i] ⟨ns.name, t⟩
  | registered {i : Nat} {t : RegisteredType} (ht : ns.types.values[i]? = some t)
      (hnone : t.node.cType? = none) (hname : t.glibTypeName? = some name) :
      StandsAt ns name [i] ⟨ns.name, t⟩

theorem TypeEntry.isFirst_ofNamespace (ns : Namespace) (name : String) :
    IsFirst (StandsAt ns name) (firstOf name (ofNamespace ns)) := by
  apply (isFirst_firstOf_filterMap name _ ns.types.values).congr
  intro p e
  simp only [Option.map_eq_some_iff, Option.or_eq_some_iff, Prod.mk.injEq]
  constructor
  · intro h
    cases h with
    | cType ht hname => exact ⟨_, _, rfl, ht, _, .inl hname, rfl, rfl⟩
    | registered ht hnone hname => exact ⟨_, _, rfl, ht, _, .inr ⟨hnone, hname⟩, rfl, rfl⟩
  · rintro ⟨i, t, rfl, ht, _, hname | ⟨hnone, hname⟩, rfl, rfl⟩
    · exact .cType ht hname
    · exact .registered ht hnone hname

namespace OrderedMap

variable {α : Type u}

theorem keys_foldl_insert (m : OrderedMap α) (l : List (String × α)) :
    (l.foldl (fun m e => m.insert e.1 e.2) m).keys = (m.keys ++ l.map Prod.fst).eraseDups := by
  induction l generalizing m with
  | nil =>
    rw [List.map_nil, List.append_nil]
    exact (Gathering.eraseDups_of_nodup m.nodup_keys).symm
  | cons e l ih =>
    rw [List.foldl_cons, ih, List.map_cons]
    by_cases h : m.contains e.1 = true
    · rw [keys_insert_of_contains h, Gathering.eraseDups_append_cons (contains_iff.1 h)]
    · rw [keys_insert_of_not_contains h, List.append_assoc, List.singleton_append]

theorem keys_ofList (l : List (String × α)) : (ofList l).keys = (l.map Prod.fst).eraseDups :=
  keys_foldl_insert empty l

theorem get?_insert_eq (m : OrderedMap α) (e : String × α) (key : String) :
    (m.insert e.1 e.2).get? key = (firstOf key [e]).or (m.get? key) := by
  by_cases h : e.1 = key
  · rw [← h, get?_insert, firstOf, List.find?_singleton, if_pos (beq_self_eq_true e.1)]
    rfl
  · rw [get?_insert_of_ne h, firstOf, List.find?_singleton, if_neg fun hkey => h (beq_iff_eq.1 hkey)]
    rfl

theorem get?_foldl_insert (m : OrderedMap α) (l : List (String × α)) (key : String) :
    (l.foldl (fun m e => m.insert e.1 e.2) m).get? key =
      (firstOf key l.reverse).or (m.get? key) := by
  induction l generalizing m with
  | nil => rfl
  | cons e l ih =>
    rw [List.foldl_cons, ih, get?_insert_eq, List.reverse_cons, firstOf_append, Option.or_assoc]

theorem get?_ofList (l : List (String × α)) (key : String) :
    (ofList l).get? key = firstOf key l.reverse :=
  (get?_foldl_insert empty l key).trans (Option.or_none)

end OrderedMap

namespace SymbolTable

variable (rs : List Repository) (naming : PackageNaming)

theorem libraries_foldl_add (table : SymbolTable) :
    (rs.foldl (fun table r => table.add r.library) table).libraries =
      (rs.map fun r => (r.library.name, r.library)).foldl (fun m e => m.insert e.1 e.2)
        table.libraries := by
  induction rs generalizing table with
  | nil => rfl
  | cons r rs ih => exact ih (table.add r.library)

theorem libraries_build :
    (build rs naming).libraries = .ofList (rs.map fun r => (r.library.name, r.library)) :=
  libraries_foldl_add rs (empty naming)

theorem names_namespaces_build :
    (build rs naming).namespaces.map Namespace.name = (rs.map (·.library.name)).eraseDups := by
  have hkeys : (build rs naming).namespaces.map Namespace.name = (build rs naming).libraries.keys :=
    OrderedMap.map_values_eq_keys fun e he =>
      isFiled_build rs naming e.1 e.2 (OrderedMap.get?_eq_some_iff.2 he)
  rw [hkeys, libraries_build, OrderedMap.keys_ofList, List.map_map]
  rfl

theorem namespace?_build (name : String) : (build rs naming).namespace? name =
    (rs.map Repository.library).reverse.find? (·.name == name) := by
  rw [namespace?, libraries_build, OrderedMap.get?_ofList, firstOf, ← List.map_reverse,
    ← List.map_reverse, List.find?_map, List.find?_map, Option.map_map]
  rfl

theorem isFirst_flatMap {α : Type} {entries : Namespace → List (String × α)} {key : String}
    {stands : Namespace → List Nat → α → Prop}
    (h : ∀ ns, IsFirst (stands ns) (firstOf key (entries ns))) :
    IsFirst (StandsInOneOf rs stands) (firstOf key (rs.flatMap fun r => entries r.library)) := by
  rw [firstOf_flatMap]
  exact IsFirst.findSome? fun r _ => h r.library

/-- Native names lead to the first declaration that carries them, and to none only if there is none.
Namespaces are listed under each of their names once, in the order of first occurrence, and of
those with one name the last one counts. -/
theorem isFirst_of_build :
    (∀ identifier, IsFirst (StandsInOneOf rs fun ns => Symbol.StandsAt ns identifier)
      ((build rs naming).symbol? identifier)) ∧
    (∀ name, IsFirst (StandsInOneOf rs fun ns => TypeEntry.StandsAt ns name)
      ((build rs naming).nativeType? name)) ∧
    (build rs naming).namespaces.map Namespace.name = (rs.map (·.library.name)).eraseDups ∧
    ∀ name, (build rs naming).namespace? name =
      (rs.map Repository.library).reverse.find? (·.name == name) := by
  refine ⟨?_, ?_, names_namespaces_build rs naming, namespace?_build rs naming⟩
  · intro identifier
    rw [symbol?_build]
    exact isFirst_flatMap rs fun ns => Symbol.isFirst_ofNamespace ns identifier
  · intro name
    rw [nativeType?_build]
    exact isFirst_flatMap rs fun ns => TypeEntry.isFirst_ofNamespace ns name

end SymbolTable

end GirBind
