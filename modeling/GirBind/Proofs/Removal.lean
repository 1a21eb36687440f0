import GirBind.Proofs.Patching

namespace GirBind

namespace OrderedMap

variable {α : Type u}

def sift (q : String → Bool) (f : String → α → α) (m : OrderedMap α) : OrderedMap α where
  entries := (m.entries.filter fun e => q e.1).map fun e => (e.1, f e.1 e.2)
  nodup_keys := by
    rw [List.map_map]
    exact m.nodup_keys.sublist (List.filter_sublist.map Prod.fst)

theorem entries_sift (q : String → Bool) (f : String → α → α) (m : OrderedMap α) :
    (m.sift q f).entries = (m.entries.filter fun e => q e.1).map fun e => (e.1, f e.1 e.2) := rfl

theorem sift_sift (q r : String → Bool) (f g : String → α → α) (m : OrderedMap α) :
    (m.sift q f).sift r g = m.sift (fun key => r key && q key) fun key a => g key (f key a) := by
  apply ext_entries
  simp only [entries_sift, List.filter_map, List.filter_filter, List.map_map, Function.comp_def]

theorem sift_all (m : OrderedMap α) : m.sift (fun _ => true) (fun _ a => a) = m := by
  apply ext_entries
  rw [entries_sift, List.filter_true]
  exact List.map_id m.entries

theorem erase_eq_sift (m : OrderedMap α) (key : String) :
    m.erase key = m.sift (fun k => !(k == key)) fun _ a => a := by
  apply ext_entries
  exact (List.map_id _).symm

theorem modify_eq_sift (m : OrderedMap α) (key : String) (f : α → α) :
    m.modify key f = m.sift (fun _ => true) fun k a => if k == key then f a else a := by
  apply ext_entries
  rw [entries_modify, entries_sift, List.filter_true]
  apply List.map_congr_left
  intro e _
  split
  case isTrue => rfl
  case isFalse => rfl

end OrderedMap

inductive Removable
  | type (key : String)
  | function (n : Node)
  | constant (n : Node)
  | member (type : String) (n : Node)

def Node.keeping (q : Node → Bool) (n : Node) : Node := { n with children := n.children.filter q }

def RegisteredType.keeping (q : Node → Bool) (t : RegisteredType) : RegisteredType :=
  { t with node := t.node.keeping q }

def Namespace.keeping (q : Removable → Bool) (ns : Namespace) : Namespace :=
  { ns with
    types := ns.types.sift (fun key => q (.type key)) fun key t =>
      t.keeping fun n => q (.member key n)
    functions := ns.functions.filter fun n => q (.function n)
    constants := ns.constants.filter fun n => q (.constant n) }

/-- A condition on declarations that does not tell the same members apart, and that every field
meets. -/
structure Removable.Fair (q : Removable → Bool) : Prop where
  function : ∀ {m n : Node}, Node.sameMember m n = true → q (.function m) = q (.function n)
  constant : ∀ {m n : Node}, Node.sameMember m n = true → q (.constant m) = q (.constant n)
  member : ∀ (key : String) {m n : Node}, Node.sameMember m n = true →
    q (.member key m) = q (.member key n)
  field : ∀ (key : String) {n : Node}, n.kind = .field → q (.member key n) = true

namespace Node

variable {q : Node → Bool}

theorem childrenOf_field_keeping (hfield : ∀ {n : Node}, n.kind = .field → q n = true) (n : Node) :
    (n.keeping q).childrenOf .field = n.childrenOf .field := by
  rw [childrenOf, keeping, List.filter_filter]
  apply List.filter_congr
  intro m _
  cases hm : m.kind == .field with
  | false => rfl
  | true => rw [hfield (eq_of_beq hm), Bool.and_self]

/-- Members other than fields may be left out before a merge or after it. -/
theorem mergeAs_keeping (hsame : ∀ {m n}, sameMember m n = true → q m = q n)
    (hfield : ∀ {n : Node}, n.kind = .field → q n = true) (v : Variant) (a b : Node) :
    (a.keeping q).mergeAs v (b.keeping q) = (a.mergeAs v b).keeping q := by
  have hmerge : (a.keeping q).merge (b.keeping q) = (a.merge b).keeping q := by
    simp only [merge, keeping, filter_unite_of_same hsame]
  have hwithout (n : Node) : (n.keeping q).withoutFields = n.withoutFields.keeping q := by
    simp only [withoutFields, keeping, List.filter_filter, Bool.and_comm]
  have hfields : sameFields (a.keeping q) (b.keeping q) = sameFields a b := by
    rw [sameFields, childrenOf_field_keeping hfield, childrenOf_field_keeping hfield]
    rfl
  rw [mergeAs, mergeAs, mergeRecord, mergeRecord, hfields, hmerge, hwithout]
  split
  case isTrue =>
    split
    case isTrue => rfl
    case isFalse => rfl
  case isFalse => rfl

end Node

namespace RegisteredType

theorem keeping_keeping (q r : Node → Bool) (t : RegisteredType) :
    (t.keeping q).keeping r = t.keeping fun m => r m && q m := by
  simp only [keeping, Node.keeping, List.filter_filter]

theorem keeping_all (t : RegisteredType) : t.keeping (fun _ => true) = t := by
  obtain ⟨v, n⟩ := t
  cases n
  simp only [keeping, Node.keeping, List.filter_true]

theorem merge_keeping {q : Node → Bool}
    (hsame : ∀ {m n}, Node.sameMember m n = true → q m = q n)
    (hfield : ∀ {n : Node}, n.kind = .field → q n = true) (a b : RegisteredType) :
    ((a.keeping q).merge (b.keeping q)).toOption = (a.merge b).toOption.map (keeping q) := by
  rw [merge_toOption, merge_toOption]
  change (if a.variant = b.variant then _ else _) = _
  split
  case isTrue =>
    exact congrArg (fun n => some (RegisteredType.mk a.variant n))
      (Node.mergeAs_keeping hsame hfield a.variant a.node b.node)
  case isFalse => rfl

end RegisteredType

namespace Namespace

variable {q : Removable → Bool}

theorem keeping_keeping (q r : Removable → Bool) (ns : Namespace) :
    (ns.keeping q).keeping r = ns.keeping fun d => r d && q d := by
  simp only [keeping, OrderedMap.sift_sift, List.filter_filter, RegisteredType.keeping_keeping]

theorem keeping_all (ns : Namespace) : ns.keeping (fun _ => true) = ns := by
  simp only [keeping, RegisteredType.keeping_all, OrderedMap.sift_all, List.filter_true]

theorem sifts_types (hq : Removable.Fair q) : RegisteredType.gathering.Sifts fun e =>
    (Option.guard (fun e => q (.type e.1)) e).map fun e =>
      (e.1, e.2.keeping fun n => q (.member e.1 n)) where
  same h e := by
    obtain ⟨e', he, rfl⟩ := Option.map_eq_some_iff.1 h
    rw [(Option.guard_eq_some_iff.1 he).1]
    rfl
  drop h hnone := by
    rw [Option.map_eq_none_iff, Option.guard_eq_none_iff] at hnone ⊢
    rw [← eq_of_beq h, hnone]
  join := by
    intro e f d e' f' hsame hd he hf
    obtain ⟨e₁, he₁, rfl⟩ := Option.map_eq_some_iff.1 he
    obtain ⟨f₁, hf₁, rfl⟩ := Option.map_eq_some_iff.1 hf
    obtain ⟨rfl, hkept⟩ := Option.guard_eq_some_iff.1 he₁
    obtain ⟨rfl, -⟩ := Option.guard_eq_some_iff.1 hf₁
    obtain ⟨t, ht, rfl⟩ := Option.map_eq_some_iff.1 hd
    have hmerge := RegisteredType.merge_keeping (hq.member e.1) (hq.field e.1) e.2 f.2
    rw [ht] at hmerge
    have hguard : Option.guard (fun e => q (.type e.1)) (e.1, t) = some (e.1, t) :=
      Option.guard_eq_some_iff.2 ⟨rfl, hkept⟩
    refine ⟨_, congrArg (Option.map _) hguard, ?_⟩
    change Option.map _ (Except.toOption _) = _
    rw [← eq_of_beq hsame, hmerge]
    rfl

theorem entries_sift_keeping (q : Removable → Bool) (m : OrderedMap RegisteredType) :
    (m.sift (fun key => q (.type key)) fun key t =>
      t.keeping fun n => q (.member key n)).entries =
    m.entries.filterMap fun e => (Option.guard (fun e => q (.type e.1)) e).map fun e =>
      (e.1, e.2.keeping fun n => q (.member e.1 n)) := by
  rw [← List.map_filterMap, List.filterMap_eq_filter]
  rfl

theorem merge_keeping (hq : Removable.Fair q) {a b ns : Namespace}
    (h : (a.merge b).toOption = some ns) :
    ((a.keeping q).merge (b.keeping q)).toOption = some (ns.keeping q) := by
  rw [merge_toOption] at h ⊢
  change (if a.name = b.name then _ else _) = _
  split at h
  case isTrue hname =>
    obtain ⟨types, htypes, rfl⟩ := Option.map_eq_some_iff.1 h
    have hentries := congrArg (Option.map OrderedMap.entries) htypes
    rw [mergeTypes_entries] at hentries
    have hsifted := (sifts_types hq).addAll hentries
    simp only [← entries_sift_keeping] at hsifted
    rw [← mergeTypes_entries] at hsifted
    obtain ⟨types', htypes', hsame⟩ := Option.map_eq_some_iff.1 hsifted
    rw [if_pos hname]
    apply Option.map_eq_some_iff.2
    refine ⟨types', htypes', ?_⟩
    rw [OrderedMap.ext_entries hsame]
    simp only [mergeWith, keeping, Node.filter_unite_of_same hq.function,
      Node.filter_unite_of_same hq.constant]
  case isFalse => cases h

end Namespace

namespace Patch

def isRemoval : Patch → Bool
  | renameMethod _ _ _ _ => false
  | _ => true

def removes : Patch → Removable → Bool
  | removeType _ name, .type key => key == name
  | removeFunction _ name, .function n => n.name? == some name
  | removeMethod _ type name, .member key n => key == type && isMethod name n
  | removeConstant _ name, .constant n => n.name? == some name
  | _, _ => false

def spares (name : String) (d : Removable) (p : Patch) : Bool :=
  !(name == p.library && p.removes d)

theorem editMembers_eq_keeping (ns : Namespace) (type : String) (q : Node → Bool) :
    editMembers ns type (·.filter q) =
      { ns with types := ns.types.sift (fun _ => true) fun key t =>
        t.keeping fun n => !(key == type && !q n) } := by
  have hvalues : (fun (key : String) (t : RegisteredType) =>
      if key == type then t.keeping q else t) =
      fun key t => t.keeping fun n => !(key == type && !q n) := by
    funext key t
    cases key == type with
    | true => simp only [if_true, Bool.true_and, Bool.not_not]
    | false =>
      rw [if_neg Bool.false_ne_true]
      exact t.keeping_all.symm
  rw [editMembers, OrderedMap.modify_eq_sift]
  exact congrArg (fun f => { ns with types := ns.types.sift (fun _ => true) f }) hvalues

theorem edit_eq_keeping {p : Patch} (hp : p.isRemoval = true) (ns : Namespace) :
    p.edit ns = ns.keeping fun d => p.spares ns.name d := by
  unfold edit
  split
  case isTrue hname =>
    have hspares : (fun d => p.spares ns.name d) = fun d => !p.removes d := by
      funext d
      rw [spares, beq_iff_eq.2 hname, Bool.true_and]
    rw [hspares]
    cases p with
    | removeType library name =>
      simp only [OrderedMap.erase_eq_sift, Namespace.keeping, removes, Bool.not_false,
        RegisteredType.keeping_all, List.filter_true]
    | removeFunction library name =>
      simp only [Namespace.keeping, removes, Bool.not_false, RegisteredType.keeping_all,
        OrderedMap.sift_all, List.filter_true, bne]
    | removeMethod library type name =>
      simp only [editMembers_eq_keeping, Namespace.keeping, removes, Bool.not_false, Bool.not_not,
        List.filter_true]
    | renameMethod library type old new => cases hp
    | removeConstant library name =>
      simp only [Namespace.keeping, removes, Bool.not_false, RegisteredType.keeping_all,
        OrderedMap.sift_all, List.filter_true, bne]
  case isFalse hname =>
    have hspares : (fun d => p.spares ns.name d) = fun _ => true := by
      funext d
      rw [spares, beq_eq_false_iff_ne.2 hname, Bool.false_and, Bool.not_false]
    rw [hspares, ns.keeping_all]

/-- Removals keep what each of them spares, in whatever order they come. -/
theorem editAll_eq_keeping {ps : List Patch} (hps : ∀ p ∈ ps, p.isRemoval = true)
    (ns : Namespace) : editAll ps ns = ns.keeping fun d => ps.all (spares ns.name d) := by
  induction ps generalizing ns with
  | nil => exact ns.keeping_all.symm
  | cons p ps ih =>
    obtain ⟨hp, hps⟩ := List.forall_mem_cons.1 hps
    change editAll ps (p.edit ns) = _
    rw [ih hps, name_edit, edit_eq_keeping hp, Namespace.keeping_keeping]
    simp only [List.all_cons, Bool.and_comm]

theorem removes_congr (p : Patch) {m n : Node} (h : Node.sameMember m n = true) :
    p.removes (.function m) = p.removes (.function n) ∧
      p.removes (.constant m) = p.removes (.constant n) ∧
      ∀ key, p.removes (.member key m) = p.removes (.member key n) := by
  obtain ⟨hkind, hname, -⟩ := Node.sameMember_iff.1 h
  cases p with
  | _ => simp only [removes, isMethod, hkind, hname, implies_true, and_self]

theorem fair_spares (ps : List Patch) (name : String) :
    Removable.Fair fun d => ps.all (spares name d) where
  function h := by
    congr 1
    funext p
    rw [spares, spares, (p.removes_congr h).1]
  constant h := by
    congr 1
    funext p
    rw [spares, spares, (p.removes_congr h).2.1]
  member key _ _ h := by
    congr 1
    funext p
    rw [spares, spares, (p.removes_congr h).2.2 key]
  field key n hn := by
    apply List.all_eq_true.2
    intro p _
    have hkept : p.removes (.member key n) = false := by
      cases p with
      | removeMethod library type name =>
        have hmethod : isMethod name n = false := by
          rw [isMethod, hn]
          rfl
        rw [removes, hmethod, Bool.and_false]
      | _ => rfl
    rw [spares, hkept, Bool.and_false, Bool.not_false]

end Patch

namespace Repository

/-- What is removed from libraries by name, kind and name of the library may be removed before they
are merged or afterwards. -/
theorem mergeAll_keeping {q : String → Removable → Bool} (hq : ∀ name, Removable.Fair (q name))
    {rs merged : List Repository} (h : mergeAll rs = .ok merged) :
    mergeAll (rs.map fun r => { r with library := r.library.keeping (q r.library.name) }) =
      .ok (merged.map fun r => { r with library := r.library.keeping (q r.library.name) }) := by
  have hsifts : gathering.Sifts fun r =>
      some { r with library := r.library.keeping (q r.library.name) } := by
    refine ⟨?_, ?_, ?_⟩
    · intro r r' hr s
      cases hr
      rfl
    · intro r s _ hr
      cases hr
    · intro r s t r' s' hsame ht hr hs
      cases hr
      cases hs
      refine ⟨_, rfl, ?_⟩
      change Except.toOption _ = _
      rw [show gathering.join r s = (r.merge s).toOption from rfl, merge_toOption] at ht
      obtain ⟨ns, hns, rfl⟩ := Option.map_eq_some_iff.1 ht
      have hname : s.library.name = r.library.name := (eq_of_beq hsame).symm
      have hjoined : ns.name = r.library.name := Namespace.name_of_merge hns
      rw [merge_toOption, hname, Namespace.merge_keeping (hq _) hns, Option.map_some]
      simp only [mergeWith, hjoined]
  rw [← Attempt.toOption_eq_some_iff, mergeAll_toOption] at h ⊢
  have hsifted := hsifts.addAll h
  simp only [List.filterMap_nil, ← Function.comp_def some, List.filterMap_eq_map] at hsifted
  exact hsifted

/-- Removals may come before a merge or after it, in any order. -/
theorem mergeAll_removals {ps qs : List Patch} (hps : ∀ p ∈ ps, p.isRemoval = true)
    (hqs : qs.Perm ps) {rs merged : List Repository} (h : mergeAll rs = .ok merged) :
    mergeAll (Patch.applyAll ps rs).1 = .ok (Patch.applyAll qs merged).1 := by
  have hperm (name : String) (d : Removable) :
      qs.all (Patch.spares name d) = ps.all (Patch.spares name d) := hqs.all_eq
  have hqs' : ∀ p ∈ qs, p.isRemoval = true := fun p hp => hps p (hqs.mem_iff.1 hp)
  rw [Patch.applyAll_fst, Patch.applyAll_fst]
  simp only [Patch.editAll_eq_keeping hps, Patch.editAll_eq_keeping hqs', hperm]
  exact mergeAll_keeping (Patch.fair_spares ps) h

def ofDialog (methods : List String) (p : PlatformSet) : Repository where
  includes := []
  packages := []
  cIncludes := []
  library := {
    name := "Gtk"
    version := "4.0"
    attributes := ∅
    types := .ofList [("Dialog",
      ⟨.classType, ⟨.classType, .ofList [("name", "Dialog")],
        methods.map fun name => ⟨.method, .ofList [("name", name)], [], "", p, 3⟩, "", p, 2⟩⟩)]
    functions := [⟨.function, .ofList [("name", "init")], [], "", p, 5⟩]
    constants := []
    other := []
    platforms := p }
  platforms := p

def dialogRemovals : List Patch := [
  .removeMethod "Gtk" "Dialog" "run", .removeFunction "Gtk" "init",
  .removeMethod "Gtk" "Dialog" "print", .removeType "Gtk" "Assistant"]

theorem mergeAll_removals_of_dialogs : ∃ merged,
    mergeAll [ofDialog ["run", "close"] .linuxOnly, ofDialog ["print", "run"] .windowsOnly] =
      .ok merged ∧
    mergeAll (Patch.applyAll dialogRemovals
      [ofDialog ["run", "close"] .linuxOnly, ofDialog ["print", "run"] .windowsOnly]).1 =
      .ok (Patch.applyAll dialogRemovals.reverse merged).1 :=
  ⟨_, rfl, mergeAll_removals (by decide) dialogRemovals.reverse_perm rfl⟩

end Repository
end GirBind
