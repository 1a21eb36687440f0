import Mathlib.Data.Set.Card
import Mathlib.Logic.Relation
import GirBind.Floating
import GirBind.Proofs.DeclaredTypes

namespace GirBind

open Relation (ReflTransGen TransGen)

/-- The type goes by the name in the object library, or by the C type. -/
def TypeEntry.GoesBy (e : TypeEntry) (name cType : String) : Prop :=
  (e.library = "GObject" ∧ e.type.name = name) ∨ e.type.node.cType? = some cType

theorem TypeEntry.isRoot_iff {e : TypeEntry} {name cType : String} :
    e.isRoot name cType = true ↔ e.GoesBy name cType := by
  rw [isRoot, Bool.or_eq_true, Bool.and_eq_true, beq_iff_eq, beq_iff_eq, beq_iff_eq]
  rfl

def TypeEntry.IsUnownedRoot (e : TypeEntry) : Prop := e.GoesBy "InitiallyUnowned" "GInitiallyUnowned"

namespace SymbolTable

variable {table : SymbolTable} {e p q : TypeEntry} {unmet : List (String × String)}

/-- The parent of a class is looked up in the namespace of the class. -/
def Extends (table : SymbolTable) (e p : TypeEntry) : Prop :=
  ∃ name, e.type.parent? = some name ∧ table.lookup? e.library name = some p

theorem Extends.unique (hp : table.Extends e p) (hq : table.Extends e q) : p = q := by
  obtain ⟨name, hname, hp⟩ := hp
  obtain ⟨name', hname', hq⟩ := hq
  cases hname.symm.trans hname'
  exact Option.some.inj (hp.symm.trans hq)

/-- The class claims references of its own, and no ancestor does so for it. -/
structure IsFloatingClass (table : SymbolTable) (e : TypeEntry) : Prop where
  isClass : e.type.variant = .classType
  notObject : ¬ e.GoesBy "Object" "GObject"
  notUnowned : ¬ e.IsUnownedRoot
  ancestors : ∀ p, TransGen table.Extends e p → ¬ p.IsUnownedRoot
  sinks : ∃ n ∈ e.type.node.children, n.kind = .method ∧ n.name? = some "ref_sink"

theorem descendsUnowned_iff : table.descendsUnowned unmet e = true ↔
    e.identity ∈ unmet ∧ ∃ p, table.Extends e p ∧
      (p.IsUnownedRoot ∨ table.descendsUnowned (otherThan unmet e.identity) p = true) := by
  rw [descendsUnowned]
  cases hname : e.type.parent? with
  | none =>
    constructor
    · intro h
      cases h
    · rintro ⟨-, p, ⟨name, hname', -⟩, -⟩
      cases hname.symm.trans hname'
  | some name =>
    dsimp only
    by_cases hmem : e.identity ∈ unmet
    case neg =>
      rw [dif_neg hmem]
      constructor
      · intro h
        cases h
      · rintro ⟨h, -⟩
        exact (hmem h).elim
    case pos =>
      rw [dif_pos hmem]
      cases hlookup : table.lookup? e.library name with
      | none =>
        constructor
        · intro h
          cases h
        · rintro ⟨-, p, ⟨name', hname', hp⟩, -⟩
          cases hname.symm.trans hname'
          cases hlookup.symm.trans hp
      | some p =>
        have hparent : table.Extends e p := ⟨name, hname, hlookup⟩
        dsimp only
        rw [Bool.or_eq_true, TypeEntry.isInitiallyUnowned, TypeEntry.isRoot_iff]
        constructor
        · intro h
          exact ⟨hmem, p, hparent, h⟩
        · rintro ⟨-, q, hq, h⟩
          cases hparent.unique hq
          exact h

theorem exists_unowned_of_descendsUnowned {unmet : List (String × String)} {e : TypeEntry}
    (h : table.descendsUnowned unmet e = true) :
    ∃ p, TransGen table.Extends e p ∧ p.IsUnownedRoot := by
  obtain ⟨hmem, p, hparent, hp | hp⟩ := descendsUnowned_iff.1 h
  · exact ⟨p, .single hparent, hp⟩
  · obtain ⟨q, hq, hroot⟩ := exists_unowned_of_descendsUnowned hp
    exact ⟨q, .head hparent hq, hroot⟩
termination_by unmet.length
decreasing_by exact length_otherThan hmem

/-- From what has been met, the way up leads to what has been met or is being met now, and never to
the root. -/
def ClosedUpTo (table : SymbolTable) (unmet : List (String × String)) (e : TypeEntry) : Prop :=
  ∀ v, table.Declares v → v.identity ∉ unmet → ∀ p, table.Extends v p →
    ¬ p.IsUnownedRoot ∧ (p.identity ∉ unmet ∨ p = e)

theorem Extends.declares (h : table.Extends e p) : table.Declares p := by
  obtain ⟨name, -, hp⟩ := h
  exact declares_of_lookup? hp

/-- A revisit shows nothing new, since all that lies above has been met. -/
theorem ClosedUpTo.not_unowned_of_met (hclosed : table.ClosedUpTo unmet e)
    (he : table.Declares e) (hmet : e.identity ∉ unmet) (h : TransGen table.Extends e p) :
    ¬ p.IsUnownedRoot := by
  have hall (q : TypeEntry) (hq : ReflTransGen table.Extends e q) :
      table.Declares q ∧ q.identity ∉ unmet := by
    induction hq with
    | refl => exact ⟨he, hmet⟩
    | tail _ hstep ih =>
      refine ⟨hstep.declares, ?_⟩
      rcases (hclosed _ ih.1 ih.2 _ hstep).2 with hmet' | rfl
      · exact hmet'
      · exact hmet
  obtain ⟨q, hq, hstep⟩ := TransGen.tail'_iff.1 h
  obtain ⟨hdeclares, hmet'⟩ := hall q hq
  exact (hclosed q hdeclares hmet' p hstep).1

theorem ClosedUpTo.step (hapart : table.TellsApart) (hclosed : table.ClosedUpTo unmet e)
    (he : table.Declares e) (hparent : table.Extends e p) (hp : ¬ p.IsUnownedRoot) :
    table.ClosedUpTo (otherThan unmet e.identity) p := by
  intro v hv hmet q hq
  by_cases hold : v.identity ∈ unmet
  case neg =>
    obtain ⟨hroot, hmet' | rfl⟩ := hclosed v hv hold q hq
    · exact ⟨hroot, .inl (not_mem_otherThan.2 (.inl hmet'))⟩
    · exact ⟨hroot, .inl (not_mem_otherThan.2 (.inr rfl))⟩
  case pos =>
    have hsame : v.identity = e.identity := (not_mem_otherThan.1 hmet).resolve_left (not_not.2 hold)
    cases hapart v e hv he hsame
    cases hparent.unique hq
    exact ⟨hp, .inr rfl⟩

theorem not_unowned_of_not_descendsUnowned (hapart : table.TellsApart)
    {unmet : List (String × String)} {e : TypeEntry} (he : table.Declares e)
    (hclosed : table.ClosedUpTo unmet e) (h : ¬ table.descendsUnowned unmet e = true) :
    ∀ q, TransGen table.Extends e q → ¬ q.IsUnownedRoot := by
  intro q hq
  by_cases hmem : e.identity ∈ unmet
  case neg => exact hclosed.not_unowned_of_met he hmem hq
  case pos =>
    obtain ⟨p, hparent, hrest⟩ := TransGen.head'_iff.1 hq
    have hp : ¬ p.IsUnownedRoot := fun hroot =>
      h (descendsUnowned_iff.2 ⟨hmem, p, hparent, .inl hroot⟩)
    have hup : ¬ table.descendsUnowned (otherThan unmet e.identity) p = true := fun hp =>
      h (descendsUnowned_iff.2 ⟨hmem, p, hparent, .inr hp⟩)
    rcases Relation.reflTransGen_iff_eq_or_transGen.1 hrest with rfl | hrest
    · exact hp
    · exact not_unowned_of_not_descendsUnowned hapart hparent.declares
        (hclosed.step hapart he hparent hp) hup q hrest
termination_by unmet.length
decreasing_by exact length_otherThan hmem

theorem isFloating_iff (hapart : table.TellsApart) (he : table.Declares e) :
    table.isFloating e = true ↔ table.IsFloatingClass e := by
  have hancestors : table.descendsUnowned (e.identity :: table.identities) e = false ↔
      ∀ p, TransGen table.Extends e p → ¬ p.IsUnownedRoot := by
    rw [← Bool.not_eq_true]
    constructor
    · apply not_unowned_of_not_descendsUnowned hapart he
      intro v hv hmet
      exact (hmet (List.mem_cons_of_mem _ hv.identity_mem)).elim
    · intro hall h
      obtain ⟨p, hp, hroot⟩ := exists_unowned_of_descendsUnowned h
      exact hall p hp hroot
  have hobject : e.isObjectRoot = false ↔ ¬ e.GoesBy "Object" "GObject" := by
    rw [← Bool.not_eq_true, TypeEntry.isObjectRoot, TypeEntry.isRoot_iff]
  have hunowned : e.isInitiallyUnowned = false ↔ ¬ e.IsUnownedRoot := by
    rw [← Bool.not_eq_true, TypeEntry.isInitiallyUnowned, TypeEntry.isRoot_iff]
    rfl
  have hsinks : e.type.hasMethod "ref_sink" = true ↔
      ∃ n ∈ e.type.node.children, n.kind = .method ∧ n.name? = some "ref_sink" := by
    rw [RegisteredType.hasMethod, List.any_eq_true]
    simp only [RegisteredType.methods, Node.childrenOf, List.mem_filter, beq_iff_eq, and_assoc]
  rw [isFloating, Bool.and_eq_true, Bool.and_eq_true, Bool.and_eq_true, Bool.and_eq_true,
    beq_iff_eq, Bool.not_eq_true', Bool.not_eq_true', Bool.not_eq_true', hobject, hunowned,
    hancestors, hsinks]
  constructor
  · rintro ⟨⟨⟨⟨hclass, hobject⟩, hunowned⟩, hancestors⟩, hsinks⟩
    exact ⟨hclass, hobject, hunowned, hancestors, hsinks⟩
  · rintro ⟨hclass, hobject, hunowned, hancestors, hsinks⟩
    exact ⟨⟨⟨⟨hclass, hobject⟩, hunowned⟩, hancestors⟩, hsinks⟩

end SymbolTable
namespace FloatingTable

variable {table : SymbolTable}

theorem flags_build (table : SymbolTable) : (build table).flags =
    (table.entries.filter fun e => e.type.variant == .classType).map fun e =>
      (e.identity, table.isFloating e) := by
  rw [build, SymbolTable.entries, List.filter_flatMap, List.map_flatMap]
  simp only [List.filter_map, List.map_map]
  rfl

theorem mem_flags_iff {i : String × String} {flag : Bool} :
    (i, flag) ∈ (build table).flags ↔ ∃ e, table.Declares e ∧ e.identity = i ∧
      e.type.variant = .classType ∧ table.isFloating e = flag := by
  rw [flags_build, List.mem_map]
  constructor
  · rintro ⟨e, he, h⟩
    obtain ⟨he, hclass⟩ := List.mem_filter.1 he
    obtain ⟨hidentity, hflag⟩ := Prod.mk.inj h
    exact ⟨e, SymbolTable.mem_entries_iff.1 he, hidentity, beq_iff_eq.1 hclass, hflag⟩
  · rintro ⟨e, he, rfl, hclass, rfl⟩
    exact ⟨e, List.mem_filter.2 ⟨SymbolTable.mem_entries_iff.2 he, beq_iff_eq.2 hclass⟩, rfl⟩

theorem get?_build_eq_some_iff (hapart : table.TellsApart) {library type : String} {flag : Bool} :
    (build table).get? library type = some flag ↔ ∃ e, table.Declares e ∧
      e.identity = (library, type) ∧ e.type.variant = .classType ∧
        table.isFloating e = flag := by
  rw [← mem_flags_iff, get?, Option.map_eq_some_iff]
  constructor
  · rintro ⟨⟨i, flag⟩, hfind, rfl⟩
    have hkey := List.find?_some hfind
    rw [beq_iff_eq] at hkey
    rw [← hkey]
    exact List.mem_of_find?_eq_some hfind
  · intro h
    cases hfind : (build table).flags.find? fun e => e.1 == (library, type) with
    | none => exact absurd (beq_self_eq_true _) (List.find?_eq_none.1 hfind _ h)
    | some found =>
      have hkey := List.find?_some hfind
      rw [beq_iff_eq] at hkey
      obtain ⟨e, he, hidentity, -, hflag⟩ := mem_flags_iff.1 h
      obtain ⟨e', he', hidentity', -, hflag'⟩ := mem_flags_iff.1 (List.mem_of_find?_eq_some hfind)
      cases hapart e e' he he' (by rw [hidentity, hidentity', hkey])
      exact ⟨found, rfl, hflag'.symm.trans hflag⟩

theorem count_build (hnodup : table.identities.Nodup) :
    {e | table.Declares e ∧ table.isFloating e = true}.encard = (build table).count := by
  classical
  have hclass (e : TypeEntry) (h : table.isFloating e = true) :
      (e.type.variant == .classType) = true := by
    simp only [SymbolTable.isFloating, Bool.and_eq_true] at h
    exact h.1.1.1.1
  have hcount : (build table).count = (table.entries.filter table.isFloating).length := by
    rw [count, flags_build, List.countP_map, List.countP_filter, ← List.countP_eq_length_filter]
    apply List.countP_congr
    intro e _
    rw [Bool.and_eq_true]
    exact and_iff_left_of_imp (hclass e)
  have hentries : (table.entries.filter table.isFloating).Nodup := by
    rw [← SymbolTable.map_identity_entries] at hnodup
    exact (List.Nodup.of_map _ hnodup).filter _
  have hset : {e | table.Declares e ∧ table.isFloating e = true} =
      ((table.entries.filter table.isFloating).toFinset : Set TypeEntry) := by
    ext e
    rw [Finset.mem_coe, List.mem_toFinset, List.mem_filter, SymbolTable.mem_entries_iff]
    rfl
  rw [hset, Set.encard_coe_eq_coe_finsetCard, List.toFinset_card_of_nodup hentries, hcount]

end FloatingTable

/-- A class is floating exactly if it claims references and no ancestor is the unowned root. The
table of flags says so of each declared class and of nothing else, and counts them. -/
theorem floating_of_build {rs : List Repository} (hrs : ∀ r ∈ rs, r.Derived)
    (naming : PackageNaming) :
    let table := SymbolTable.build rs naming
    (∀ e, table.Declares e → (table.isFloating e = true ↔ table.IsFloatingClass e)) ∧
      (∀ library type flag, (FloatingTable.build table).get? library type = some flag ↔
        ∃ e, table.Declares e ∧ e.identity = (library, type) ∧ e.type.variant = .classType ∧
          (flag = true ↔ table.IsFloatingClass e)) ∧
      {e | table.Declares e ∧ table.IsFloatingClass e}.encard =
        (FloatingTable.build table).count := by
  intro table
  have hapart : table.TellsApart := SymbolTable.tellsApart_build hrs naming
  refine ⟨fun e he => SymbolTable.isFloating_iff hapart he, ?_, ?_⟩
  · intro library type flag
    rw [FloatingTable.get?_build_eq_some_iff hapart]
    apply exists_congr
    intro e
    apply and_congr_right
    intro he
    rw [← SymbolTable.isFloating_iff hapart he, Bool.eq_iff_iff, @iff_comm (flag = true)]
  · rw [← FloatingTable.count_build (SymbolTable.nodup_identities_build hrs naming)]
    congr 1
    ext e
    exact and_congr_right fun he => (SymbolTable.isFloating_iff hapart he).symm

def rootClasses : Source :=
  ⟨"a", .all, "<repository><namespace name='GObject'><class name='Object'><method name='ref_sink'/></class>
<class name='InitiallyUnowned' parent='Object'/></namespace></repository>"⟩

set_option maxRecDepth 2000 in
theorem tokens_rootClasses : Markup.tokens rootClasses.content = .ok [
    ⟨.startTag "repository" [] false, ⟨1, 1⟩⟩,
    ⟨.startTag "namespace" [("name", "GObject")] false, ⟨1, 13⟩⟩,
    ⟨.startTag "class" [("name", "Object")] false, ⟨1, 39⟩⟩,
    ⟨.startTag "method" [("name", "ref_sink")] true, ⟨1, 60⟩⟩, ⟨.endTag "class", ⟨1, 85⟩⟩,
    ⟨.text "\n", ⟨1, 93⟩⟩,
    ⟨.startTag "class" [("name", "InitiallyUnowned"), ("parent", "Object")] true, ⟨2, 1⟩⟩,
    ⟨.endTag "namespace", ⟨2, 49⟩⟩, ⟨.endTag "repository", ⟨2, 61⟩⟩, ⟨.endOfInput, ⟨2, 74⟩⟩] :=
  (Markup.tokens_ofList _).trans (Attempt.toOption_eq_some_iff.1 (by decide +kernel))

def sinkingClasses : Source :=
  ⟨"b", .all, "<repository><namespace name='Gtk'><class name='Widget' parent='GObject.InitiallyUnowned'>
<method name='ref_sink'/></class><class name='Watch' parent='GObject.Object'>
<method name='ref_sink'/></class><class name='Left' parent='Right'><method name='ref_sink'/></class>
<class name='Right' parent='Left'/><record name='Border'/></namespace></repository>"⟩

set_option maxRecDepth 2000 in
theorem tokens_sinkingClasses : Markup.tokens sinkingClasses.content = .ok [
    ⟨.startTag "repository" [] false, ⟨1, 1⟩⟩,
    ⟨.startTag "namespace" [("name", "Gtk")] false, ⟨1, 13⟩⟩,
    ⟨.startTag "class" [("name", "Widget"), ("parent", "GObject.InitiallyUnowned")] false, ⟨1, 35⟩⟩,
    ⟨.text "\n", ⟨1, 90⟩⟩, ⟨.startTag "method" [("name", "ref_sink")] true, ⟨2, 1⟩⟩,
    ⟨.endTag "class", ⟨2, 26⟩⟩,
    ⟨.startTag "class" [("name", "Watch"), ("parent", "GObject.Object")] false, ⟨2, 34⟩⟩,
    ⟨.text "\n", ⟨2, 78⟩⟩, ⟨.startTag "method" [("name", "ref_sink")] true, ⟨3, 1⟩⟩,
    ⟨.endTag "class", ⟨3, 26⟩⟩,
    ⟨.startTag "class" [("name", "Left"), ("parent", "Right")] false, ⟨3, 34⟩⟩,
    ⟨.startTag "method" [("name", "ref_sink")] true, ⟨3, 68⟩⟩, ⟨.endTag "class", ⟨3, 93⟩⟩,
    ⟨.text "\n", ⟨3, 101⟩⟩,
    ⟨.startTag "class" [("name", "Right"), ("parent", "Left")] true, ⟨4, 1⟩⟩,
    ⟨.startTag "record" [("name", "Border")] true, ⟨4, 36⟩⟩, ⟨.endTag "namespace", ⟨4, 59⟩⟩,
    ⟨.endTag "repository", ⟨4, 71⟩⟩, ⟨.endOfInput, ⟨4, 84⟩⟩] :=
  (Markup.tokens_ofList _).trans (Attempt.toOption_eq_some_iff.1 (by decide +kernel))

theorem flags_sinkingClasses : ∃ r s, rootClasses.repository = .ok r ∧
    sinkingClasses.repository = .ok s ∧
    let flags := FloatingTable.build (.build [r, s] Options.default.naming)
    flags.get? "GObject" "Object" = some false ∧ flags.get? "Gtk" "Widget" = some false ∧
      flags.get? "Gtk" "Watch" = some true ∧ flags.get? "Gtk" "Left" = some true ∧
      flags.get? "Gtk" "Border" = none ∧ flags.count = 2 := by
  rw [Source.repository, Source.repository, Source.root, Source.root, tokens_rootClasses,
    tokens_sinkingClasses]
  exact ⟨_, _, rfl, rfl, by decide +kernel⟩

theorem floating_of_sinkingClasses : ∃ r s, rootClasses.repository = .ok r ∧
    sinkingClasses.repository = .ok s ∧
    let table := SymbolTable.build [r, s] Options.default.naming
    (∃ e, table.Declares e ∧ e.identity = ("Gtk", "Watch") ∧ table.IsFloatingClass e) ∧
      (∃ e, table.Declares e ∧ e.identity = ("Gtk", "Left") ∧ table.IsFloatingClass e) ∧
      (∃ e, table.Declares e ∧ e.identity = ("Gtk", "Widget") ∧ ¬ table.IsFloatingClass e) ∧
      {e | table.Declares e ∧ table.IsFloatingClass e}.encard = 2 := by
  obtain ⟨r, s, hr, hs, -, hwidget, hwatch, hleft, -, hcount⟩ := flags_sinkingClasses
  obtain ⟨-, hflag, hencard⟩ := floating_of_build
    (List.forall_mem_cons.2 ⟨.read hr, List.forall_mem_singleton.2 (.read hs)⟩)
    Options.default.naming
  refine ⟨r, s, hr, hs, ?_, ?_, ?_, ?_⟩
  · obtain ⟨e, he, hidentity, -, h⟩ := (hflag _ _ _).1 hwatch
    exact ⟨e, he, hidentity, h.1 rfl⟩
  · obtain ⟨e, he, hidentity, -, h⟩ := (hflag _ _ _).1 hleft
    exact ⟨e, he, hidentity, h.1 rfl⟩
  · obtain ⟨e, he, hidentity, -, h⟩ := (hflag _ _ _).1 hwidget
    exact ⟨e, he, hidentity, fun hfloating => absurd (h.2 hfloating) Bool.false_ne_true⟩
  · rw [hencard, hcount]
    rfl

end GirBind
