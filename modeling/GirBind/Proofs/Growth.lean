import GirBind.Proofs.Accounting
import GirBind.Proofs.Closure
import GirBind.Proofs.Reordering

namespace GirBind

open Attempt (Finds Persists)

/-- What two runs decide and what they leave out, declaration by declaration in one order. -/
inductive JointLedger {δ : Type u}
    (Entry : List δ → List SkippedDeclaration → List δ → List SkippedDeclaration → Prop) :
    List δ → List SkippedDeclaration → List δ → List SkippedDeclaration → Prop
  | nil : JointLedger Entry [] [] [] []
  | cons {first rest first' rest' : List δ} {left more left' more' : List SkippedDeclaration}
    (h : Entry first left first' left') (hrest : JointLedger Entry rest more rest' more') :
    JointLedger Entry (first ++ rest) (left ++ more) (first' ++ rest') (left' ++ more')

/-- A declaration that is decided stays so, and one that is skipped may come to be decided. -/
inductive Progress {δ : Type u} (Same : δ → δ → Prop) (label : δ → String) :
    List δ → List SkippedDeclaration → List δ → List SkippedDeclaration → Prop
  | kept {d d' : δ} (h : Same d d') : Progress Same label [d] [] [d'] []
  | recovered (reason : String) (d' : δ) : Progress Same label [] [⟨label d', reason⟩] [d'] []
  | skipped (name reason reason' : String) :
    Progress Same label [] [⟨name, reason⟩] [] [⟨name, reason'⟩]

def MemberDecision.SameUpToDoc (d d' : MemberDecision) : Prop := d.mapDoc .blank = d'.mapDoc .blank

def ConstantDecision.SameUpToDoc (d d' : ConstantDecision) : Prop :=
  d.mapDoc .blank = d'.mapDoc .blank

structure TypeDecision.Keeps (d' d : TypeDecision) : Prop where
  name : d'.name = d.name
  qualifiedName : d'.qualifiedName = d.qualifiedName
  variant : d'.variant = d.variant
  platforms : d'.platforms = d.platforms
  parent : d'.parent = d.parent
  implements : d'.implements = d.implements
  aliasType : d'.aliasType = d.aliasType
  enumeration : d'.enumeration.map (·.mapDocs .blank) = d.enumeration.map (·.mapDocs .blank)
  callback : d'.callback.map (·.mapDoc .blank) = d.callback.map (·.mapDoc .blank)
  fields : ∀ r ∈ d.record, ∃ r' ∈ d'.record, r.fields.Sublist r'.fields

/-- A type that is decided stays so with its members, and one that is skipped may come to be
decided. -/
inductive TypeProgress :
    List TypeDecision → List SkippedDeclaration → List TypeDecision → List SkippedDeclaration → Prop
  | kept {d d' : TypeDecision} {left left' : List SkippedDeclaration} (h : d'.Keeps d)
    (hmembers : JointLedger
      (Progress MemberDecision.SameUpToDoc fun m => s!"{d.name}.{m.name}")
      d.members left d'.members left') :
    TypeProgress [d] left [d'] left'
  | recovered (reason : String) (d' : TypeDecision) (left' : List SkippedDeclaration) :
    TypeProgress [] [⟨d'.name, reason⟩] [d'] left'
  | skipped (name reason reason' : String) :
    TypeProgress [] [⟨name, reason⟩] [] [⟨name, reason'⟩]

/-- The decisions about a namespace have all that earlier ones have, and leave out nothing that
those do not leave out. -/
structure NamespaceDecision.Keeps (d' d : NamespaceDecision) : Prop where
  name : d'.name = d.name
  version : d'.version = d.version
  package : d'.package = d.package
  sharedLibrary : d'.sharedLibrary = d.sharedLibrary
  platforms : d'.platforms = d.platforms
  declarations : ∃ types functions constants types' functions' constants',
    JointLedger TypeProgress d.types types d'.types types' ∧
    JointLedger (Progress MemberDecision.SameUpToDoc MemberDecision.name)
      d.functions functions d'.functions functions' ∧
    JointLedger (Progress ConstantDecision.SameUpToDoc ConstantDecision.name)
      d.constants constants d'.constants constants' ∧
    d.skipped = types ++ functions ++ constants ∧
    d'.skipped = types' ++ functions' ++ constants'

section

variable {δ : Type u} {ι : Type v}
  {Entry : List δ → List SkippedDeclaration → List δ → List SkippedDeclaration → Prop}

theorem jointLedger_flatMap {l : List ι} {ds ds' : ι → List δ}
    {left left' : ι → List SkippedDeclaration}
    (h : ∀ i ∈ l, Entry (ds i) (left i) (ds' i) (left' i)) :
    JointLedger Entry (l.flatMap ds) (l.flatMap left) (l.flatMap ds') (l.flatMap left') := by
  induction l with
  | nil => exact .nil
  | cons i l ih =>
    obtain ⟨hi, hl⟩ := List.forall_mem_cons.1 h
    simp only [List.flatMap_cons]
    exact .cons hi (ih hl)

theorem decided_map_eq_flatMap (f : ι → Except SkippedDeclaration δ) (l : List ι) :
    decided (l.map f) = l.flatMap fun i => decided [f i] := by
  induction l with
  | nil => rfl
  | cons i l ih => rw [List.map_cons, decided_cons, ih, List.flatMap_cons]

theorem refused_map_eq_flatMap (f : ι → Except SkippedDeclaration δ) (l : List ι) :
    refused (l.map f) = l.flatMap fun i => refused [f i] := by
  induction l with
  | nil => rfl
  | cons i l ih => rw [List.map_cons, refused_cons, ih, List.flatMap_cons]

theorem jointLedger_of_attempts {l : List ι} {f g : ι → Except SkippedDeclaration δ}
    (h : ∀ i ∈ l, Entry (decided [f i]) (refused [f i]) (decided [g i]) (refused [g i])) :
    JointLedger Entry (decided (l.map f)) (refused (l.map f)) (decided (l.map g))
      (refused (l.map g)) := by
  simp only [decided_map_eq_flatMap, refused_map_eq_flatMap]
  exact jointLedger_flatMap h

theorem progress_of_persists {Same : δ → δ → Prop} {label : δ → String} {name : String}
    {x y : Except Obstacle δ} (h : Persists True Same x y) (hy : ∀ d, y = .ok d → label d = name) :
    Progress Same label (decided [x.mapError (SkippedDeclaration.of name)])
      (refused [x.mapError (SkippedDeclaration.of name)])
      (decided [y.mapError (SkippedDeclaration.of name)])
      (refused [y.mapError (SkippedDeclaration.of name)]) := by
  cases h with
  | ok h => exact .kept h
  | failed o => exact .skipped name _ _
  | recovered _ o y =>
    cases y with
    | error o' => exact .skipped name _ _
    | ok d =>
      obtain rfl := hy d rfl
      exact .recovered _ d

end

theorem filterMap_sublist {α : Type u} {β : Type v} {g g' : α → Option β}
    (h : ∀ a b, g a = some b → g' a = some b) (l : List α) :
    (l.filterMap g).Sublist (l.filterMap g') := by
  induction l with
  | nil => exact .slnil
  | cons a l ih =>
    cases hg : g a with
    | none =>
      rw [List.filterMap_cons_none hg]
      cases hg' : g' a with
      | none => rwa [List.filterMap_cons_none hg']
      | some b =>
        rw [List.filterMap_cons_some hg']
        exact ih.cons b
    | some b =>
      rw [List.filterMap_cons_some hg, List.filterMap_cons_some (h a b hg)]
      exact ih.cons_cons b

namespace BindingContext

variable {table table' : SymbolTable} {ns : Namespace}

theorem fieldDecisions_sublist (h : table.Agrees True table') (hk : table.Knows ns.name)
    (t : RegisteredType) :
    (fieldDecisions ⟨table, ns⟩ t).Sublist (fieldDecisions ⟨table', ns⟩ t) := by
  apply filterMap_sublist
  intro field d hd
  obtain ⟨name, hname, hd⟩ := Option.bind_eq_some_iff.1 hd
  refine Option.bind_eq_some_iff.2 ⟨name, hname, ?_⟩
  have hfield : Persists True Eq (fieldType ⟨table, ns⟩ s!"{t.name}.{name}" field)
      (fieldType ⟨table', ns⟩ s!"{t.name}.{name}" field) := fieldType_agrees h hk field
  revert hd hfield
  generalize fieldType ⟨table, ns⟩ s!"{t.name}.{name}" field = x
  generalize fieldType ⟨table', ns⟩ s!"{t.name}.{name}" field = y
  intro hd hfield
  cases hfield with
  | ok h => exact h ▸ hd
  | failed o => cases hd
  | recovered _ o y => cases hd

theorem typeProgress_of_persists {name : String}
    {x y : Except Obstacle (TypeDecision × List SkippedDeclaration)}
    (h : Persists True (fun x y => TypeProgress [x.1] x.2 [y.1] y.2) x y)
    (hy : ∀ d left, y = .ok (d, left) → d.name = name) :
    TypeProgress ((decided [x.mapError (SkippedDeclaration.of name)]).map Prod.fst)
      (skippedByType (x.mapError (SkippedDeclaration.of name)))
      ((decided [y.mapError (SkippedDeclaration.of name)]).map Prod.fst)
      (skippedByType (y.mapError (SkippedDeclaration.of name))) := by
  cases h with
  | ok h => exact h
  | failed o => exact .skipped name _ _
  | recovered _ o y =>
    cases y with
    | error o' => exact .skipped name _ _
    | ok result =>
      obtain ⟨d, left⟩ := result
      obtain rfl := hy d left rfl
      exact .recovered _ d left

theorem memberAttempts_progress (h : table.Agrees True table') (hk : table.Knows ns.name)
    (t : RegisteredType) :
    JointLedger (Progress MemberDecision.SameUpToDoc fun m => s!"{t.name}.{m.name}")
      (decided (memberAttempts ⟨table, ns⟩ t)) (refused (memberAttempts ⟨table, ns⟩ t))
      (decided (memberAttempts ⟨table', ns⟩ t)) (refused (memberAttempts ⟨table', ns⟩ t)) := by
  apply jointLedger_of_attempts
  intro c _
  refine progress_of_persists
    (bindCallable_agrees h hk (Doc.Context.agrees_blank _ _) (some t) c) fun d hd => ?_
  obtain ⟨sig, -, rfl⟩ := bindCallable_eq_ok_iff.1 hd
  rfl

theorem BoundAlike.progress (h : table.Agrees True table') (hk : table.Knows ns.name)
    {floating floating' : FloatingTable} {t : RegisteredType}
    {x y : TypeDecision × List SkippedDeclaration}
    (hxy : BoundAlike .blank table table' ns floating floating' t x y) :
    TypeProgress [x.1] x.2 [y.1] y.2 := by
  cases hxy with
  | intro parent implements aliasType hcallback =>
    refine .kept ⟨rfl, (h.qualifiedJavaName _ _).symm, rfl, rfl, rfl, rfl, rfl, ?_, hcallback.symm,
      ?_⟩ (memberAttempts_progress h hk t)
    · change Option.map _ (if _ then some (enumerationDecision ⟨table', ns⟩ t) else none) =
        Option.map _ (if _ then some (enumerationDecision ⟨table, ns⟩ t) else none)
      split
      case isTrue =>
        exact congrArg some (enumerationDecision_agrees
          (Doc.Context.agrees_blank ⟨table', ns.name⟩ ⟨table, ns.name⟩) t)
      case isFalse => rfl
    · intro r hr
      change (if _ then some (recordDecision ⟨table, ns⟩ t) else none) = some r at hr
      split at hr
      case isTrue hv =>
        cases hr
        exact ⟨recordDecision ⟨table', ns⟩ t, if_pos hv, fieldDecisions_sublist h hk t⟩
      case isFalse => cases hr

theorem typeAttempts_progress (h : table.Agrees True table') (hk : table.Knows ns.name)
    (floating floating' : FloatingTable) :
    JointLedger TypeProgress ((decided (typeAttempts ⟨table, ns⟩ floating)).map Prod.fst)
      ((typeAttempts ⟨table, ns⟩ floating).flatMap skippedByType)
      ((decided (typeAttempts ⟨table', ns⟩ floating')).map Prod.fst)
      ((typeAttempts ⟨table', ns⟩ floating').flatMap skippedByType) := by
  simp only [typeAttempts, decided_map_eq_flatMap, List.map_flatMap, List.flatMap_map]
  refine jointLedger_flatMap fun t _ => typeProgress_of_persists ?_ fun d left hd => ?_
  · exact (bindType_agrees h hk (Doc.Context.agrees_blank _ _) floating floating' t).mono
      fun x y hxy => hxy.progress h hk
  · obtain ⟨_, _, _, _, -, -, -, -, rfl, -⟩ := bindType_eq_ok_iff.1 hd
    rfl

theorem bindNamespace_keeps (h : table.Agrees True table') (hk : table.Knows ns.name)
    (floating floating' : FloatingTable) :
    (bindNamespace ⟨table', ns⟩ floating').Keeps (bindNamespace ⟨table, ns⟩ floating) where
  name := rfl
  version := rfl
  package := (h.package ns.name).symm
  sharedLibrary := rfl
  platforms := rfl
  declarations := by
    refine ⟨_, _, _, _, _, _, typeAttempts_progress h hk floating floating', ?_, ?_, rfl, rfl⟩
    · apply jointLedger_of_attempts
      intro c _
      refine progress_of_persists
        (bindCallable_agrees h hk (Doc.Context.agrees_blank _ _) none c) fun d hd => ?_
      obtain ⟨sig, -, rfl⟩ := bindCallable_eq_ok_iff.1 hd
      rfl
    · apply jointLedger_of_attempts
      intro n _
      exact progress_of_persists (bindConstant_agrees h hk (Doc.Context.agrees_blank _ _) n)
        fun d hd => (bindConstant_eq_ok hd).1

end BindingContext

variable {rs ss : List Repository}

theorem Repository.nodup_names_left (h : ((rs ++ ss).map (·.library.name)).Nodup) :
    (rs.map (·.library.name)).Nodup := by
  rw [List.map_append] at h
  exact h.of_append_left

theorem SymbolTable.agrees_append (hnames : ((rs ++ ss).map (·.library.name)).Nodup)
    (naming : PackageNaming) : (build rs naming).Agrees True (build (rs ++ ss) naming) := by
  have hleft := Repository.nodup_names_left hnames
  refine ⟨(naming_build rs naming).trans (naming_build _ naming).symm, fun name => ?_,
    isFiled_build rs naming⟩
  have hentries : (build (rs ++ ss) naming).libraries.entries =
      (build rs naming).libraries.entries ++ ss.map fun r => (r.library.name, r.library) := by
    rw [entries_build hnames, entries_build hleft, List.map_append]
  rw [namespace?, namespace?, OrderedMap.get?, OrderedMap.get?, hentries, List.find?_append,
    Option.map_or]
  cases (build rs naming).libraries.entries.find? (·.1 == name) with
  | some e => exact .found rfl
  | none =>
    rw [Option.map_none, Option.none_or]
    cases (ss.map fun r => (r.library.name, r.library)).find? (·.1 == name) with
    | none => exact .missed
    | some e => exact .recovered trivial _

/-- More namespaces make a run decide more: every decision stays, and nothing that was decided comes
to be left out. -/
theorem compileRepositories_keeps (o : Options)
    (hnames : ((rs ++ ss).map (·.library.name)).Nodup) :
    ∃ kept added, (compileRepositories o (rs ++ ss)).1 = kept ++ added ∧
      List.Forall₂ NamespaceDecision.Keeps kept (compileRepositories o rs).1 := by
  have hleft := Repository.nodup_names_left hnames
  have hagrees := SymbolTable.agrees_append hnames o.naming
  refine ⟨_, _, (SymbolTable.bind_build hnames o.naming _).trans List.map_append, ?_⟩
  change List.Forall₂ _ _ (SymbolTable.bind _ _)
  rw [SymbolTable.bind_build hleft, List.forall₂_map_left_iff, List.forall₂_map_right_iff,
    List.forall₂_same]
  intro r hr
  exact BindingContext.bindNamespace_keeps hagrees
    (SymbolTable.knows_of_mem_build hleft o.naming hr) _ _

def heirs : List Repository := [.ofClasses "X" [("A", "Y.B"), ("C", "A")]]

def ancestors : List Repository := [.ofClasses "Y" [("B", "X.C")]]

theorem compileRepositories_keeps_heirs : ∃ kept added,
    (compileRepositories .default (heirs ++ ancestors)).1 = kept ++ added ∧
      List.Forall₂ NamespaceDecision.Keeps kept (compileRepositories .default heirs).1 ∧
      (compileRepositories .default heirs).1.map (·.types.map TypeDecision.name) = [["C"]] ∧
      kept.map (·.types.map TypeDecision.name) = [["A", "C"]] := by
  have hnames : ((heirs ++ ancestors).map (·.library.name)).Nodup := by decide
  have hfirst : (compileRepositories .default heirs).1.map (·.types.map TypeDecision.name) =
      [["C"]] := by
    decide +kernel
  have hsecond : (compileRepositories .default (heirs ++ ancestors)).1.map
      (·.types.map TypeDecision.name) = [["A", "C"], ["B"]] := by
    decide +kernel
  obtain ⟨kept, added, happend, hkeeps⟩ := compileRepositories_keeps .default hnames
  refine ⟨kept, added, happend, hkeeps, hfirst, ?_⟩
  have hlength : kept.length = 1 :=
    hkeeps.length_eq.trans (List.length_map _ ▸ congrArg List.length hfirst)
  obtain ⟨d, rfl⟩ := List.length_eq_one_iff.1 hlength
  rw [happend] at hsecond
  exact congrArg (·.take 1) hsecond

end GirBind
