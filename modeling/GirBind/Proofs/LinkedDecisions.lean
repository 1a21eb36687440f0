import Mathlib
import GirBind.Proofs.Derived
import GirBind.Proofs.Doc.Reference
import GirBind.Proofs.Shadowing
import GirBind.Proofs.SymbolIndex

namespace GirBind

namespace Doc

/-- A type is meant by its name. Without a namespace in front it belongs to the current one. -/
def IsNamed (current type library : String) (t : RegisteredType) : Prop :=
  let q := QualifiedName.ofText type
  library = q.library.getD current ∧ t.name = q.name

/-- The spots that a target has in the descriptions. Of several declarations with one identifier
it is the first. -/
inductive Target.Finds (rs : List Repository) (current : String) : Target → Spot → Prop
  | member {type name : String} {style : Style} {r : Repository} {t : RegisteredType} (hr : r ∈ rs)
    (ht : t ∈ r.library.types.values) (htype : IsNamed current type r.library.name t) :
    Finds rs current (.member type name style) ⟨r.library.name, some t.name, name, style⟩
  | function {name : String} {r : Repository} {n : Node} (hr : r ∈ rs)
    (hn : n ∈ r.library.functions) (hname : n.name? = some name) :
    Finds rs current (.function r.library.name name) ⟨r.library.name, none, name, .callable⟩
  | identifier {name : String} {style : Option Style} {y : Symbol}
    (hy : (rs.flatMap (Symbol.ofNamespace ·.library)).find? (·.1 == name) = some (name, y)) :
    Finds rs current (.identifier name style)
      ⟨y.library, y.owner, y.name, style.getD (.ofKind y.node.kind)⟩

theorem Context.spot?_eq_some_iff {rs : List Repository} {naming : PackageNaming} {current : String}
    (hrs : ∀ r ∈ rs, r.Derived) (hnames : (rs.map (·.library.name)).Nodup) {target : Target}
    {s : Spot} :
    Context.spot? ⟨.build rs naming, current⟩ target = some s ↔ target.Finds rs current s := by
  cases target with
  | member type name style =>
    simp only [spot?, SymbolTable.lookup?, Option.map_eq_some_iff, Option.bind_eq_some_iff,
      SymbolTable.namespace?_build_eq_some_iff hnames]
    constructor
    · rintro ⟨_, ⟨_, ⟨r, hr, rfl, hlibrary⟩, t, ht, rfl⟩, rfl⟩
      obtain ⟨ht, hname⟩ := (hrs r hr).isFiled.get?_types_eq_some_iff.1 ht
      exact .member hr ht ⟨hlibrary, hname⟩
    · intro h
      cases h with
      | @member _ _ _ r t hr ht htype =>
        have ht := (hrs r hr).isFiled.get?_types_eq_some_iff.2 ⟨ht, htype.2⟩
        exact ⟨_, ⟨_, ⟨r, hr, rfl, htype.1⟩, t, ht, rfl⟩, rfl⟩
  | function library name =>
    simp only [spot?, Option.map_eq_some_iff, Option.filter_eq_some_iff,
      SymbolTable.namespace?_build_eq_some_iff hnames, Namespace.function?, List.isSome_find?,
      List.any_eq_true, beq_iff_eq]
    constructor
    · rintro ⟨_, ⟨⟨r, hr, rfl, rfl⟩, n, hn, hname⟩, rfl⟩
      exact .function hr hn hname
    · intro h
      cases h with
      | function hr hn hname => exact ⟨_, ⟨⟨_, hr, rfl, rfl⟩, _, hn, hname⟩, rfl⟩
  | identifier name style =>
    simp only [spot?, Option.map_eq_some_iff, SymbolTable.symbol?_build_eq_some_iff]
    constructor
    · rintro ⟨y, hy, rfl⟩
      exact .identifier hy
    · intro h
      cases h with
      | identifier hy => exact ⟨_, hy, rfl⟩

def Spot.Declares (rs : List Repository) (s : Spot) (owner : Option RegisteredType) (n : Node) :
    Prop :=
  ∃ r ∈ rs, r.library.name = s.library ∧ owner.map RegisteredType.name = s.owner ∧
    n.name = s.name ∧
    match owner with
    | some t => t ∈ r.library.types.values ∧ n ∈ t.node.children
    | none => n ∈ r.library.functions ++ r.library.constants

theorem Target.Finds.exists_declaration {rs : List Repository} {current : String} {target : Target}
    {s : Spot} (h : target.Finds rs current s) (hrs : ∀ r ∈ rs, r.Derived) :
    (∃ type name style, target = .member type name style) ∨ ∃ owner n, s.Declares rs owner n := by
  cases h with
  | member => exact .inl ⟨_, _, _, rfl⟩
  | @function name r n hr hn hname =>
    refine .inr ⟨none, n, r, hr, rfl, rfl, ?_, List.mem_append_left _ hn⟩
    rw [Node.name, hname, Option.getD_some]
  | @identifier _ _ y hy =>
    obtain ⟨r, hr, hmem⟩ := List.mem_flatMap.1 (List.mem_of_find?_eq_some hy)
    obtain ⟨hlibrary, hname, hplace⟩ := Symbol.of_mem_ofNamespace hmem
    rcases hplace with ⟨howner, hn⟩ | ⟨key, t, ht, howner, hn⟩
    · exact .inr ⟨none, y.node, r, hr, hlibrary.symm, howner.symm, hname.symm, hn⟩
    · refine .inr ⟨some t, y.node, r, hr, hlibrary.symm, ?_, hname.symm, List.mem_map_of_mem ht, hn⟩
      rw [howner, ← (hrs r hr).isFiled.type_name ht]
      rfl

end Doc

structure Callable.KeepsName (owner : Option RegisteredType) (c : Callable) : Prop where
  kind : c.kind ≠ .signal ∧ c.kind ≠ .callback
  secondary : BindingForm.of owner c ≠ .constructor
  named : c.publicName = c.name
  overrides : isInterface owner = true → Java.memberName c.name ∉ Java.objectMethods

open Doc (Style Spot)

/-- The Java name of a declaration is its own one in a certain style. -/
inductive Node.IsWritten (owner : Option RegisteredType) (n : Node) : Style → Prop
  | primary {t : RegisteredType} {c : Callable} (howner : owner = some t)
    (hc : Callable.ofNode? n = some c) (hform : BindingForm.of owner c = .constructor)
    (hperiod : '.' ∉ (Java.simpleType t.name).toList) : IsWritten owner n .primary
  | callable {c : Callable} (hc : Callable.ofNode? n = some c) (hkeeps : c.KeepsName owner) :
    IsWritten owner n .callable
  | constant (hkind : n.kind = .member ∧ (∃ t, owner = some t ∧ t.variant = .enumeration) ∨
      n.kind = .constant ∧ owner = none)
    (hdigit : ∀ c ∈ (Text.upper n.name).toList.head?, c.isDigit = false) :
    IsWritten owner n .constant

theorem BindingForm.of_eq_upcall {owner : Option RegisteredType} {c : Callable}
    (h : BindingForm.of owner c = .upcall) : c.kind = .callback := by
  unfold BindingForm.of at h
  split at h
  case h_1 hkind => exact hkind
  case h_2 | h_3 => cases h
  case h_4 =>
    split at h
    case isTrue => cases h
    case isFalse =>
      split at h
      case isTrue =>
        split at h
        case isTrue => cases h
        case isFalse => cases h
      case isFalse => cases h

theorem Callable.KeepsName.visibleName {owner : Option RegisteredType} {c : Callable}
    (h : c.KeepsName owner) :
    c.visibleName owner (BindingForm.of owner c) = Java.memberName c.name := by
  rw [Callable.visibleName.eq_def, if_neg h.kind.1, if_neg (h.kind.2 ∘ BindingForm.of_eq_upcall),
    if_neg h.secondary, h.named]
  split
  case isTrue hinterface =>
    have hother := h.overrides hinterface
    rw [← List.contains_iff_mem] at hother
    rw [Java.escapeObjectMethod, if_neg hother]
  case isFalse => rfl

theorem Java.constantName_eq {name : String}
    (h : ∀ c ∈ (Text.upper name).toList.head?, c.isDigit = false) :
    constantName name = Text.upper name := by
  rw [constantName, prefixDigits.eq_def]
  split
  case h_1 c _ hcs =>
    rw [hcs] at h
    rw [h c rfl]
    rfl
  case h_2 => rfl

theorem Node.IsWritten.exists_callable {owner : Option RegisteredType} {n : Node} {style : Style}
    (h : n.IsWritten owner style) (hstyle : style ≠ .constant) :
    ∃ c, Callable.ofNode? n = some c ∧ ∀ {library}, c.visibleName owner (BindingForm.of owner c) =
      Spot.member ⟨library, owner.map RegisteredType.name, n.name, style⟩ := by
  cases h with
  | @primary t c howner hc hform hperiod =>
    subst howner
    obtain ⟨hkind, -⟩ := BindingForm.of_eq_constructor hform
    refine ⟨c, hc, fun {library} => ?_⟩
    have hsignal : c.kind ≠ .signal := hkind ▸ CallableKind.noConfusion
    rw [Callable.visibleName.eq_def, hform, if_neg hsignal, if_neg BindingForm.noConfusion,
      if_pos rfl]
    exact (Doc.Context.lastComponent_of_not_mem hperiod).symm
  | @callable c hc hkeeps =>
    obtain ⟨-, hname, -⟩ := Callable.ofNode?_eq_some hc
    exact ⟨c, hc, hkeeps.visibleName.trans (congrArg Java.memberName hname)⟩
  | constant => exact absurd rfl hstyle

/-- The names that the declaration at a spot is skipped under. Without its type it is not bound. -/
def Doc.Spot.labels (s : Spot) : List String :=
  match s.owner with
  | some type => [type, s!"{type}.{s.name}"]
  | none => [s.name]

namespace NamespaceDecision

def Skips (d : NamespaceDecision) (s : Spot) : Prop := ∃ k ∈ d.skipped, k.name ∈ s.labels

/-- There is a decision about the declaration at a spot. It gives the name of the class, for a text
of the current namespace, and the name of the member. -/
def Shows (d : NamespaceDecision) (current : String) (s : Spot) (owner member : String) : Prop :=
  match s.owner with
  | some type => ∃ t ∈ d.types, t.name = type ∧
      owner = (if d.name = current then t.javaName else t.qualifiedName) ∧
      ((∃ m ∈ t.members, m.name = s.name ∧ m.visibleName = member) ∨
        ∃ e ∈ t.enumeration, ∃ v ∈ e.members, v.name = s.name ∧ v.visibleName = member)
  | none => owner = (if d.name = current then d.name else s!"{d.package}.{d.name}") ∧
      ((∃ m ∈ d.functions, m.name = s.name ∧ m.visibleName = member) ∨
        ∃ c ∈ d.constants, c.name = s.name ∧ c.visibleName = member)

end NamespaceDecision

namespace BindingContext

variable {ctx : BindingContext} {floating : FloatingTable} {n : Node} {style : Style}

theorem className_eq (ctx : BindingContext) (current : String) (s : Spot)
    (hlibrary : s.library = ctx.library.name) :
    Doc.Context.className ⟨ctx.table, current⟩ s =
      if ctx.library.name = current then s.simpleClass
      else s!"{ctx.table.package ctx.library.name}.{s.simpleClass}" := by
  rw [Doc.Context.className, Doc.Context.qualifier, hlibrary]
  split
  case isTrue => rw [String.empty_append]
  case isFalse => rfl

theorem shows_or_skips_member {t : RegisteredType} (ht : t ∈ ctx.library.types.values)
    (hn : n ∈ t.node.children) (hwritten : n.IsWritten (some t) style) (current : String) :
    let d := ctx.bindNamespace floating
    let s : Spot := ⟨ctx.library.name, some t.name, n.name, style⟩
    d.Shows current s (Doc.Context.className ⟨ctx.table, current⟩ s) s.member ∨ d.Skips s := by
  intro d s
  cases hd : ctx.bindType floating t with
  | error o =>
    obtain ⟨o, -, hskipped⟩ := skipsType_of_error ht hd
    exact .inr ⟨_, hskipped, List.mem_cons_self⟩
  | ok result =>
    obtain ⟨decision, skipped⟩ := result
    have hmem : decision ∈ d.types := mem_types.2 ⟨t, ht, skipped, hd⟩
    obtain ⟨_, _, _, _, -, -, -, -, rfl, -⟩ := bindType_eq_ok_iff.1 hd
    have hclass := ctx.className_eq current s rfl
    by_cases hstyle : style = .constant
    case pos =>
      subst hstyle
      cases hwritten with
      | constant hkind hdigit =>
        obtain ⟨hkind, hvariant⟩ : n.kind = .member ∧ t.variant = .enumeration := by
          rcases hkind with ⟨hkind, u, hu, hvariant⟩ | ⟨-, hnone⟩
          · cases hu
            exact ⟨hkind, hvariant⟩
          · cases hnone
        have hvisible : (ctx.enumMemberDecision n).visibleName = Text.upper n.name := by
          rw [enumMemberDecision, Java.constantName_eq hdigit]
        refine .inl ⟨_, hmem, rfl, hclass, .inr ⟨_, if_pos hvariant, ctx.enumMemberDecision n,
          List.mem_map_of_mem (List.mem_filter.2 ⟨hn, beq_iff_eq.2 hkind⟩), rfl, hvisible⟩⟩
    case neg =>
      obtain ⟨c, hc, hjava⟩ := hwritten.exists_callable hstyle
      obtain ⟨-, hname, -⟩ := Callable.ofNode?_eq_some hc
      cases hm : ctx.bindCallable s!"{t.name}.{c.name}" (some t) c with
      | error o =>
        obtain ⟨o, -, hskipped⟩ :=
          skipsCallable_of_member ht (List.mem_filterMap.2 ⟨n, hn, hc⟩) hd hm
        refine .inr ⟨_, hskipped, List.mem_cons_of_mem _ (List.mem_singleton.2 ?_)⟩
        change s!"{t.name}.{c.name}" = _
        rw [hname]
      | ok m =>
        refine .inl ⟨_, hmem, rfl, hclass, .inl ⟨m, mem_memberAttempts.2 ⟨n, hn, c, hc, hm⟩, ?_⟩⟩
        obtain ⟨sig, -, rfl⟩ := bindCallable_eq_ok_iff.1 hm
        exact ⟨hname, hjava⟩

theorem shows_or_skips_topLevel (hfiled : ctx.library.IsFiled)
    (hn : n ∈ ctx.library.functions ++ ctx.library.constants) (hwritten : n.IsWritten none style)
    (current : String) :
    let d := ctx.bindNamespace floating
    let s : Spot := ⟨ctx.library.name, none, n.name, style⟩
    d.Shows current s (Doc.Context.className ⟨ctx.table, current⟩ s) s.member ∨ d.Skips s := by
  intro d s
  have hclass := ctx.className_eq current s rfl
  have hconstant : style = .constant → n.kind = .constant ∧
      Java.constantName n.name = Text.upper n.name := by
    rintro rfl
    cases hwritten with
    | constant hkind hdigit =>
      rcases hkind with ⟨-, u, hu, -⟩ | ⟨hkind, -⟩
      · cases hu
      · exact ⟨hkind, Java.constantName_eq hdigit⟩
  rcases List.mem_append.1 hn with hn | hn
  · obtain ⟨hkind, -⟩ := hfiled.functions n hn
    have hstyle : style ≠ .constant := fun hstyle =>
      NodeKind.noConfusion (hkind.symm.trans (hconstant hstyle).1)
    obtain ⟨c, hc, hjava⟩ := hwritten.exists_callable hstyle
    obtain ⟨-, hname, -⟩ := Callable.ofNode?_eq_some hc
    cases hm : ctx.bindCallable c.name none c with
    | error o =>
      obtain ⟨o, -, hskipped⟩ := skipsCallable_of_function hn hc hm
      exact .inr ⟨_, hskipped, List.mem_singleton.2 hname⟩
    | ok m =>
      refine .inl ⟨hclass, .inl ⟨m, mem_functions.2 ⟨n, hn, c, hc, hm⟩, ?_⟩⟩
      obtain ⟨sig, -, rfl⟩ := bindCallable_eq_ok_iff.1 hm
      exact ⟨hname, hjava⟩
  · obtain ⟨hkind, -⟩ := hfiled.constants n hn
    obtain rfl : style = .constant := by
      by_contra hstyle
      obtain ⟨c, hc, -⟩ := hwritten.exists_callable hstyle
      obtain ⟨hnone, -⟩ := Callable.ofNode?_eq_some hc
      rw [hkind] at hnone
      cases hnone
    cases hm : ctx.bindConstant n with
    | error o =>
      refine .inr ⟨.of n.name o, List.mem_append_right _ (mem_refused.2 ?_), List.mem_cons_self⟩
      refine List.mem_map.2 ⟨n, hn, ?_⟩
      rw [hm]
      rfl
    | ok m =>
      have hmem : m ∈ d.constants := mem_constants.2 ⟨n, hn, hm⟩
      obtain ⟨_, _, rfl⟩ := exists_of_bindConstant hm
      refine .inl ⟨hclass, .inr ⟨_, hmem, rfl, ?_⟩⟩
      dsimp only
      exact (hconstant rfl).2

end BindingContext

namespace Doc

variable {rs : List Repository}

theorem Spot.Declares.shows_or_skips {s : Spot} {owner : Option RegisteredType} {n : Node}
    (h : s.Declares rs owner n) (hwritten : n.IsWritten owner s.style)
    (hrs : ∀ r ∈ rs, r.Derived) (hnames : (rs.map (·.library.name)).Nodup)
    (naming : PackageNaming) (floating : FloatingTable) (current : String) :
    ∃ d ∈ (SymbolTable.build rs naming).bind floating, d.name = s.library ∧
      (d.Shows current s (Context.className ⟨.build rs naming, current⟩ s) s.member ∨
        d.Skips s) := by
  obtain ⟨library, type, name, style⟩ := s
  obtain ⟨r, hr, rfl, rfl, rfl, hn⟩ := h
  rw [SymbolTable.bind_build hnames]
  refine ⟨_, List.mem_map_of_mem hr, rfl, ?_⟩
  cases owner with
  | some t => exact BindingContext.shows_or_skips_member hn.1 hn.2 hwritten current
  | none => exact BindingContext.shows_or_skips_topLevel (hrs r hr).isFiled hn hwritten current

/-- What becomes of a reference. If the descriptions have no spot for it, it is code and a miss.
Otherwise it is a link, which gives the class and the name that the decisions give to everything
declared there whose name is written so. Only a member of a type may not be declared at all. -/
inductive Reference.Becomes (rs : List Repository) (ctx : Context) (ds : List NamespaceDecision)
    (ref : Reference) : Converted → Prop
  | code (h : ∀ target ∈ ref.target, ∀ s, ¬ target.Finds rs ctx.library s) :
    Becomes rs ctx ds ref ⟨inlineCode ref.text, 1⟩
  | link {target : Target} {s : Spot} (htarget : ref.target = some target)
    (hs : target.Finds rs ctx.library s)
    (hdeclared : (∃ type name style, target = .member type name style) ∨
      ∃ owner n, s.Declares rs owner n)
    (hshown : ∀ owner n, s.Declares rs owner n → n.IsWritten owner s.style → ∃ d ∈ ds,
      d.name = s.library ∧ (d.Shows ctx.library s (ctx.className s) s.member ∨ d.Skips s)) :
    Becomes rs ctx ds ref ⟨Context.memberLink (ctx.className s) s.member, 0⟩

theorem Reference.becomes_render (hrs : ∀ r ∈ rs, r.Derived)
    (hnames : (rs.map (·.library.name)).Nodup) (naming : PackageNaming) (floating : FloatingTable)
    (current : String) {i : Item} {ref : Reference} (h : i.reference? = some ref)
    (state : ListState) :
    ref.Becomes rs ⟨.build rs naming, current⟩ ((SymbolTable.build rs naming).bind floating)
      (i.render ⟨.build rs naming, current⟩ state) := by
  rw [Item.render_eq h]
  cases hspot : ref.target.bind (Context.spot? ⟨.build rs naming, current⟩) with
  | none =>
    refine .code fun target htarget s hs => ?_
    rw [htarget, Option.bind_some, (Context.spot?_eq_some_iff hrs hnames).2 hs] at hspot
    cases hspot
  | some s =>
    obtain ⟨target, htarget, hs⟩ := Option.bind_eq_some_iff.1 hspot
    have hs := (Context.spot?_eq_some_iff hrs hnames).1 hs
    exact .link htarget hs (hs.exists_declaration hrs) fun owner n hn hwritten =>
      hn.shows_or_skips hwritten hrs hnames naming floating current

def Segment.reference? : Segment → Option Reference
  | plain _ => none
  | item i _ => i.reference?

theorem forall₂_renderSegments {P : Reference → Converted → Prop} {ctx : Context}
    (h : ∀ i state ref, Item.reference? i = some ref → P ref (i.render ctx state))
    (state : ListState) (segments : List Segment) :
    List.Forall₂ (fun segment part => ∀ ref, segment.reference? = some ref → P ref part) segments
      (renderSegments ctx state segments) := by
  induction segments generalizing state with
  | nil => exact .nil
  | cons segment segments ih =>
    cases segment with
    | plain c => exact .cons (fun ref href => nomatch href) (ih state)
    | item i source => exact .cons (fun ref href => h i state ref href) (ih (state.next i))

/-- In every text each reference becomes a link that agrees with the decisions, or code that counts
as a miss. -/
theorem references_of_convert (hrs : ∀ r ∈ rs, r.Derived)
    (hnames : (rs.map (·.library.name)).Nodup) (naming : PackageNaming) (floating : FloatingTable)
    (current text : String) :
    let ctx : Context := ⟨.build rs naming, current⟩
    ∃ parts : List Converted,
      convert ctx text = ⟨.join (parts.map Converted.text), (parts.map Converted.misses).sum⟩ ∧
      List.Forall₂ (fun segment part => ∀ ref, segment.reference? = some ref →
        ref.Becomes rs ctx (ctx.table.bind floating) part)
        (Segment.ofText true text.toList) parts := by
  intro ctx
  refine ⟨renderSegments ctx .outside (Segment.ofText true text.toList), ?_,
    forall₂_renderSegments (fun i state ref href => ?_) .outside _⟩
  · rw [convert, List.sum_eq_foldl, List.foldl_map]
  · exact Reference.becomes_render hrs hnames naming floating current href state

end Doc

def linkedSource : Source :=
  ⟨"a", .all, "<repository><namespace name='X'><class name='A'><method name='show'/></class>
<enumeration name='E'><member name='one' c:identifier='X_ONE'/></enumeration>
<function name='init'/></namespace></repository>"⟩

set_option maxRecDepth 2000 in
theorem tokens_linkedSource : Markup.tokens linkedSource.content = .ok [
    ⟨.startTag "repository" [] false, ⟨1, 1⟩⟩,
    ⟨.startTag "namespace" [("name", "X")] false, ⟨1, 13⟩⟩,
    ⟨.startTag "class" [("name", "A")] false, ⟨1, 33⟩⟩,
    ⟨.startTag "method" [("name", "show")] true, ⟨1, 49⟩⟩, ⟨.endTag "class", ⟨1, 70⟩⟩,
    ⟨.text "\n", ⟨1, 78⟩⟩, ⟨.startTag "enumeration" [("name", "E")] false, ⟨2, 1⟩⟩,
    ⟨.startTag "member" [("name", "one"), ("c:identifier", "X_ONE")] true, ⟨2, 23⟩⟩,
    ⟨.endTag "enumeration", ⟨2, 64⟩⟩, ⟨.text "\n", ⟨2, 78⟩⟩,
    ⟨.startTag "function" [("name", "init")] true, ⟨3, 1⟩⟩, ⟨.endTag "namespace", ⟨3, 24⟩⟩,
    ⟨.endTag "repository", ⟨3, 36⟩⟩, ⟨.endOfInput, ⟨3, 49⟩⟩] :=
  (Markup.tokens_ofList _).trans (Attempt.toOption_eq_some_iff.1 (by decide +kernel))

theorem Doc.references_of_linkedSource : ∃ r, linkedSource.repository = .ok r ∧
    let ctx : Context := ⟨.build [r] Options.default.naming, "X"⟩
    let text := "[method@A.show]\n[func@X.init]\n%X_ONE\n[method@X.B.show]"
    convert ctx text = ⟨"\x7b@link A#show\x7d\n\x7b@link X#init\x7d\n" ++
      "\x7b@link E#ONE\x7d\n\x7b@code X.B.show\x7d", 1⟩ ∧
    ∃ parts : List Converted,
      convert ctx text = ⟨.join (parts.map Converted.text), (parts.map Converted.misses).sum⟩ ∧
      List.Forall₂ (fun segment part => ∀ ref, segment.reference? = some ref →
        ref.Becomes [r] ctx (ctx.table.bind (.build ctx.table)) part)
        (Segment.ofText true text.toList) parts := by
  have hrun : ∃ r, linkedSource.repository = .ok r ∧
      convert ⟨.build [r] Options.default.naming, "X"⟩
        "[method@A.show]\n[func@X.init]\n%X_ONE\n[method@X.B.show]" =
          ⟨"\x7b@link A#show\x7d\n\x7b@link X#init\x7d\n" ++
            "\x7b@link E#ONE\x7d\n\x7b@code X.B.show\x7d", 1⟩ := by
    rw [Source.repository, Source.root, tokens_linkedSource]
    exact ⟨_, rfl, by decide +kernel⟩
  obtain ⟨r, hr, htext⟩ := hrun
  exact ⟨r, hr, htext, references_of_convert (List.forall_mem_singleton.2 (.read hr))
    (List.nodup_singleton r.library.name) _ _ _ _⟩

def emptyClass : Source :=
  ⟨"a", .all, "<repository><namespace name='X'><class name='A'/></namespace>
</repository>"⟩

theorem tokens_emptyClass : Markup.tokens emptyClass.content = .ok [
    ⟨.startTag "repository" [] false, ⟨1, 1⟩⟩,
    ⟨.startTag "namespace" [("name", "X")] false, ⟨1, 13⟩⟩,
    ⟨.startTag "class" [("name", "A")] true, ⟨1, 33⟩⟩, ⟨.endTag "namespace", ⟨1, 50⟩⟩,
    ⟨.text "\n", ⟨1, 62⟩⟩, ⟨.endTag "repository", ⟨2, 1⟩⟩, ⟨.endOfInput, ⟨2, 14⟩⟩] :=
  (Markup.tokens_ofList _).trans (Attempt.toOption_eq_some_iff.1 (by decide +kernel))

def Doc.danglingLink : Item :=
  .link "method" ⟨"X.A.nothing", some "X", some "A", some "nothing"⟩

/-- A reference to a member that no class declares becomes a link all the same. -/
theorem Doc.exists_dangling_link : ¬ ∀ (rs : List Repository) (naming : PackageNaming)
    (floating : FloatingTable) (current text : String), (∀ r ∈ rs, r.Derived) →
    (rs.map (·.library.name)).Nodup →
    let ctx : Context := ⟨.build rs naming, current⟩
    ∀ i source, Segment.item i source ∈ Segment.ofText true text.toList →
    ∀ ref, i.reference? = some ref → ∀ state,
      i.render ctx state = ⟨inlineCode ref.text, 1⟩ ∨
      ∃ d ∈ ctx.table.bind floating, ∃ s owner member, d.Shows current s owner member ∧
        i.render ctx state = ⟨Context.memberLink owner member, 0⟩ := by
  intro hall
  have hrun : ∃ r, emptyClass.repository = .ok r ∧
      (danglingLink.render ⟨.build [r] Options.default.naming, "X"⟩ .outside).misses =
        0 ∧
      ((SymbolTable.build [r] Options.default.naming).bind ⟨[]⟩).all (fun d =>
        d.types.all (fun t => t.members.isEmpty && t.enumeration.isNone) &&
          d.functions.isEmpty && d.constants.isEmpty) = true := by
    rw [Source.repository, Source.root, tokens_emptyClass]
    exact ⟨_, rfl, by decide +kernel, by decide +kernel⟩
  obtain ⟨r, hr, hmisses, hempty⟩ := hrun
  have hitem : Segment.item danglingLink "[method@X.A.nothing]".toList ∈
      Segment.ofText true "[method@X.A.nothing]".toList := by
    decide +kernel
  rcases hall [r] Options.default.naming ⟨[]⟩ "X" "[method@X.A.nothing]"
    (List.forall_mem_singleton.2 (.read hr)) (List.nodup_singleton _) _ _ hitem _ rfl .outside with
    hcode | ⟨d, hd, s, owner, member, hshows, -⟩
  · rw [hcode] at hmisses
    exact absurd hmisses (by decide)
  · have hnone := List.all_eq_true.1 hempty d hd
    simp only [Bool.and_eq_true, List.isEmpty_iff, Option.isNone_iff_eq_none, List.all_eq_true]
      at hnone
    obtain ⟨⟨htypes, hfunctions⟩, hconstants⟩ := hnone
    unfold NamespaceDecision.Shows at hshows
    split at hshows
    case h_1 =>
      obtain ⟨t, ht, -, -, ⟨m, hm, -⟩ | ⟨e, he, -⟩⟩ := hshows
      · rw [(htypes t ht).1] at hm
        exact absurd hm List.not_mem_nil
      · rw [(htypes t ht).2] at he
        cases he
    case h_2 =>
      rw [hfunctions, hconstants] at hshows
      obtain ⟨-, ⟨m, hm, -⟩ | ⟨c, hc, -⟩⟩ := hshows
      · exact absurd hm List.not_mem_nil
      · exact absurd hc List.not_mem_nil

end GirBind
