import Mathlib
import GirBind.Compile
import GirBind.Proofs.Patching

namespace GirBind

namespace Patch

def targets (p : Patch) (ns : Namespace) : Nat :=
  if ns.name = p.library then
    match p with
    | removeType _ name => if ns.types.contains name then 1 else 0
    | removeFunction _ name => ns.functions.countP (·.name? == some name)
    | removeMethod _ type name | renameMethod _ type name _ =>
      (membersOf ns type).countP (isMethod name)
    | removeConstant _ name => ns.constants.countP (·.name? == some name)
  else
    0

/-- How many of the declarations that it is about a patch leaves as they are called. -/
def leaves : Patch → Nat → Nat
  | renameMethod _ _ old new, n => if old = new then n else n - 1
  | _, _ => 0

def isIdle : Patch → Bool
  | renameMethod _ _ old new => old == new
  | _ => false

section Members

variable {old new : String} {n : Node} {ms : List Node}

theorem filter_not_eq_self_iff {q : Node → Bool} :
    (ms.filter fun n => !q n) = ms ↔ ms.countP q = 0 := by
  rw [List.filter_eq_self, List.countP_eq_zero]
  simp only [Bool.not_eq_true', Bool.not_eq_true]

theorem countP_filter_not (q : Node → Bool) (ms : List Node) :
    (ms.filter fun n => !q n).countP q = 0 := by
  rw [List.countP_eq_zero]
  intro n hn
  rw [Bool.not_eq_true, ← Bool.not_eq_true']
  exact (List.mem_filter.1 hn).2

theorem isMethod_insert_name (h : isMethod old n = true) (name : String) :
    isMethod name { n with attributes := n.attributes.insert "name" new } = (new == name) := by
  rw [isMethod, Bool.and_eq_true] at h
  rw [isMethod, h.1, Bool.true_and]
  change ((n.attributes.insert "name" new).get? "name" == some name) = _
  rw [OrderedMap.get?_insert]
  rfl

theorem insert_name_eq_self_iff (h : isMethod old n = true) :
    { n with attributes := n.attributes.insert "name" new } = n ↔ old = new := by
  rw [isMethod, Bool.and_eq_true, beq_iff_eq, beq_iff_eq] at h
  have hname : n.attributes.get? "name" = some old := h.2
  obtain ⟨kind, attributes, children, text, platforms, line⟩ := n
  simp only [Node.mk.injEq, true_and, and_true, OrderedMap.insert_eq_self_iff] at hname ⊢
  rw [hname, Option.some.injEq]

theorem renameFirst_eq_self_iff :
    renameFirst old new ms = ms ↔ ms.countP (isMethod old) = 0 ∨ old = new := by
  induction ms with
  | nil => exact iff_of_true rfl (.inl rfl)
  | cons n ms ih =>
    rw [renameFirst]
    split
    case isTrue h =>
      rw [List.cons.injEq, insert_name_eq_self_iff h, List.countP_cons_of_pos h]
      simp only [and_true, Nat.add_eq_zero_iff, Nat.one_ne_zero, and_false, false_or]
    case isFalse h =>
      rw [List.cons.injEq, ih, List.countP_cons_of_neg h]
      exact and_iff_right rfl

theorem countP_renameFirst (old new : String) (ms : List Node) :
    (renameFirst old new ms).countP (isMethod old) =
      if old = new then ms.countP (isMethod old) else ms.countP (isMethod old) - 1 := by
  induction ms with
  | nil => exact (ite_self _).symm
  | cons n ms ih =>
    rw [renameFirst]
    split
    case isTrue h =>
      rw [List.countP_cons, isMethod_insert_name h, List.countP_cons_of_pos h]
      simp only [beq_iff_eq, eq_comm (a := new)]
      split
      case isTrue => rfl
      case isFalse => rfl
    case isFalse h => rw [List.countP_cons_of_neg h, List.countP_cons_of_neg h, ih]

end Members

section Types

variable {f : List Node → List Node}

theorem membersOf_editMembers (ns : Namespace) (type : String) (hf : f [] = []) :
    membersOf (editMembers ns type f) type = f (membersOf ns type) := by
  rw [membersOf, editMembers, OrderedMap.get?_modify, membersOf]
  cases ns.types.get? type with
  | none => exact hf.symm
  | some t => rfl

theorem editMembers_eq_self_iff {ns : Namespace} {type : String} (hf : f [] = []) :
    editMembers ns type f = ns ↔ f (membersOf ns type) = membersOf ns type := by
  constructor
  · intro h
    rw [← membersOf_editMembers ns type hf, h]
  · intro h
    have htypes : ns.types.modify type (fun t =>
        { t with node := { t.node with children := f t.node.children } }) = ns.types := by
      rw [OrderedMap.modify_eq_self_iff]
      rw [membersOf] at h
      cases ht : ns.types.get? type with
      | none => rfl
      | some t =>
        rw [ht] at h
        have hchildren : f t.node.children = t.node.children := h
        rw [Option.map_some, hchildren]
        obtain ⟨v, n⟩ := t
        cases n
        rfl
    rw [editMembers, htypes]

end Types

theorem isEffective_iff (p : Patch) (ns : Namespace) :
    p.isEffective ns = true ↔ 0 < p.targets ns := by
  unfold isEffective targets
  by_cases hname : ns.name = p.library
  · rw [if_pos hname, beq_iff_eq.2 hname, Bool.true_and]
    cases p with
    | removeType library name =>
      simp only []
      split
      case isTrue h => exact iff_of_true h Nat.one_pos
      case isFalse h => exact iff_of_false h (Nat.lt_irrefl 0)
    | _ => simp only [List.any_eq_true, List.countP_pos_iff]
  · rw [if_neg hname, beq_eq_false_iff_ne.2 hname, Bool.false_and]
    exact iff_of_false Bool.false_ne_true (Nat.lt_irrefl 0)

/-- An edit changes what it is about, unless it gives a method its own name. -/
theorem edit_eq_self_iff (p : Patch) (ns : Namespace) :
    p.edit ns = ns ↔ p.targets ns = 0 ∨ p.isIdle = true := by
  unfold edit targets
  by_cases hname : ns.name = p.library
  · rw [if_pos hname, if_pos hname]
    cases p with
    | removeType library name =>
      have herase : ({ ns with types := ns.types.erase name } = ns) ↔
          ns.types.erase name = ns.types :=
        ⟨congrArg Namespace.types, fun h => by rw [h]⟩
      simp only [herase, OrderedMap.erase_eq_self_iff, isIdle]
      split
      case isTrue h => simp [h]
      case isFalse h => simp [h]
    | removeFunction library name =>
      have hfilter : ({ ns with functions := ns.functions.filter (·.name? != some name) } = ns) ↔
          ns.functions.filter (fun n => !(n.name? == some name)) = ns.functions :=
        ⟨congrArg Namespace.functions, fun h => congrArg (fun l => { ns with functions := l }) h⟩
      rw [hfilter, filter_not_eq_self_iff]
      exact (or_iff_left Bool.false_ne_true).symm
    | removeMethod library type name =>
      rw [editMembers_eq_self_iff List.filter_nil, filter_not_eq_self_iff]
      exact (or_iff_left Bool.false_ne_true).symm
    | renameMethod library type old new =>
      rw [editMembers_eq_self_iff rfl, renameFirst_eq_self_iff, isIdle, beq_iff_eq]
    | removeConstant library name =>
      have hfilter : ({ ns with constants := ns.constants.filter (·.name? != some name) } = ns) ↔
          ns.constants.filter (fun n => !(n.name? == some name)) = ns.constants :=
        ⟨congrArg Namespace.constants, fun h => congrArg (fun l => { ns with constants := l }) h⟩
      rw [hfilter, filter_not_eq_self_iff]
      exact (or_iff_left Bool.false_ne_true).symm
  · rw [if_neg hname, if_neg hname]
    exact iff_of_true rfl (.inl rfl)

theorem targets_edit (p : Patch) (ns : Namespace) :
    p.targets (p.edit ns) = p.leaves (p.targets ns) := by
  have hedit := p.name_edit ns
  by_cases hname : ns.name = p.library
  · unfold targets
    rw [hedit, if_pos hname, if_pos hname]
    unfold edit
    rw [if_pos hname]
    cases p with
    | removeType library name => exact if_neg (OrderedMap.not_contains_erase ns.types name)
    | removeFunction library name => exact countP_filter_not _ ns.functions
    | removeMethod library type name =>
      simp only [membersOf_editMembers ns type List.filter_nil, leaves, countP_filter_not]
    | renameMethod library type old new =>
      have hnil : renameFirst old new [] = [] := rfl
      simp only [membersOf_editMembers ns type hnil, leaves, countP_renameFirst]
    | removeConstant library name => exact countP_filter_not _ ns.constants
  · unfold targets
    rw [hedit, if_neg hname, if_neg hname]
    cases p with
    | renameMethod library type old new => exact (ite_self _).symm
    | _ => rfl

instance (p : Patch) (ns : Namespace) : Decidable (p.edit ns = ns) :=
  decidable_of_iff _ (p.edit_eq_self_iff ns).symm

/-- How many edits of a namespace meet a condition, each on the namespace as those before it leave
it. -/
def tally (c : Patch → Namespace → Bool) : List Patch → Namespace → Nat
  | [], _ => 0
  | p :: ps, ns => (if c p ns then 1 else 0) + tally c ps (p.edit ns)

def isChange (p : Patch) (ns : Namespace) : Bool := !decide (p.edit ns = ns)

def isIdleEffect (p : Patch) (ns : Namespace) : Bool := p.isIdle && p.isEffective ns

theorem isChange_iff (p : Patch) (ns : Namespace) :
    p.isChange ns = true ↔ p.isEffective ns = true ∧ p.isIdle = false := by
  rw [isChange, Bool.not_eq_true', decide_eq_false_iff_not, edit_eq_self_iff, not_or,
    isEffective_iff, Nat.pos_iff_ne_zero, Bool.not_eq_true]

theorem tally_isEffective (ps : List Patch) (ns : Namespace) :
    tally isEffective ps ns = tally isChange ps ns + tally isIdleEffect ps ns := by
  induction ps generalizing ns with
  | nil => rfl
  | cons p ps ih =>
    have hsplit : (if p.isEffective ns then 1 else 0) =
        (if p.isChange ns then 1 else 0) + (if p.isIdleEffect ns then 1 else 0) := by
      rw [isIdleEffect]
      simp only [isChange_iff]
      cases heffective : p.isEffective ns with
      | true =>
        cases p.isIdle with
        | true => rfl
        | false => rfl
      | false => simp
    rw [tally, tally, tally, ih, hsplit]
    omega

theorem applyAll_snd (ps : List Patch) (rs : List Repository) :
    (applyAll ps rs).2 = (rs.map fun r => tally isEffective ps r.library).sum := by
  induction ps generalizing rs with
  | nil => simp [applyAll, tally]
  | cons p ps ih =>
    have hcount (l : List Repository) : l.countP (fun r => p.isEffective r.library) =
        (l.map fun r => if p.isEffective r.library then 1 else 0).sum := by
      induction l with
      | nil => rfl
      | cons r l ih => rw [List.countP_cons, List.map_cons, List.sum_cons, ih, Nat.add_comm]
    simp only [applyAll, applyEach_eq, ih, tally, List.map_map, List.sum_map_add, hcount]
    rfl

/-- What a patch reports, and what it leaves to do when it is applied once more. -/
theorem apply_twice (p : Patch) (ns : Namespace) :
    ((p.apply ns).2 = true ↔ (p.apply ns).1 ≠ ns ∨ p.isIdle = true ∧ 0 < p.targets ns) ∧
      p.targets (p.apply ns).1 = p.leaves (p.targets ns) ∧
      ((p.apply (p.apply ns).1).2 = true ↔ 0 < p.leaves (p.targets ns)) ∧
      ((p.apply (p.apply ns).1).1 ≠ (p.apply ns).1 ↔
        0 < p.leaves (p.targets ns) ∧ p.isIdle = false) ∧
      (∀ (ps : List Patch) (rs : List Repository), (applyAll ps rs).2 = (rs.map fun r =>
        tally isChange ps r.library + tally isIdleEffect ps r.library).sum) ∧
      ∀ (o : Options) (sources : List Source),
        (compileSources o sources).map (·.2.patchesApplied) =
          (readAll sources >>= Repository.mergeAll).map fun merged => (merged.map fun r =>
            tally isChange o.allPatches r.library + tally isIdleEffect o.allPatches r.library).sum := by
  have hchange (ns : Namespace) : p.edit ns ≠ ns ↔ 0 < p.targets ns ∧ p.isIdle = false := by
    rw [Ne, edit_eq_self_iff, not_or, Nat.pos_iff_ne_zero, Bool.not_eq_true]
  have hcount (ps : List Patch) (rs : List Repository) : (applyAll ps rs).2 = (rs.map fun r =>
      tally isChange ps r.library + tally isIdleEffect ps r.library).sum := by
    simp only [applyAll_snd, tally_isEffective]
  refine ⟨?_, p.targets_edit ns, ?_, ?_, hcount, ?_⟩
  · change p.isEffective ns = true ↔ p.edit ns ≠ ns ∨ _
    rw [isEffective_iff, hchange]
    cases p.isIdle with
    | true => simp
    | false => simp
  · rw [← targets_edit]
    exact p.isEffective_iff (p.edit ns)
  · rw [← targets_edit]
    exact hchange (p.edit ns)
  · intro o sources
    rw [compileSources, buildRepositories]
    cases readAll sources >>= Repository.mergeAll with
    | error e => rfl
    | ok merged => exact congrArg Except.ok (hcount o.allPatches merged)

def libraryOf (methods : List String) : Namespace where
  name := "X"
  version := ""
  attributes := ∅
  types := .ofList [("A", ⟨.classType, ⟨.classType, .ofList [("name", "A")],
    methods.map fun name => ⟨.method, .ofList [("name", name)], [], "", .all, 1⟩, "", .all, 1⟩⟩)]
  functions := []
  constants := []
  other := []
  platforms := .all

/-- A new name that is the old one is reported as a change, and a second method of the old name is
left for the next run. -/
theorem exists_idle_report :
    (¬ ∀ (p : Patch) (ns : Namespace), (p.apply ns).2 = true ↔ (p.apply ns).1 ≠ ns) ∧
      ¬ ∀ (p : Patch) (ns : Namespace), p.isIdle = false →
        p.apply (p.apply ns).1 = ((p.apply ns).1, false) := by
  constructor
  · intro hall
    exact (hall (.renameMethod "X" "A" "f" "f") (libraryOf ["f"])).1 rfl rfl
  · intro hall
    have hagain := congrArg Prod.snd
      (hall (.renameMethod "X" "A" "f" "g") (libraryOf ["f", "f"]) rfl)
    cases hagain

end Patch
end GirBind
