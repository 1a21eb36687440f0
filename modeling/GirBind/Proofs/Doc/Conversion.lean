import GirBind.Proofs.Doc.ItemText
import GirBind.Proofs.Doc.Reference
import GirBind.Proofs.Doc.Terminator
import GirBind.Proofs.OrderedMap

namespace GirBind

/-- No terminator comes out of the text, also if underscores and hyphens are left out of it. -/
def Harmless (text : String) : Prop := NoTerminator (NoTerminator.letters text.toList)

instance (text : String) : Decidable (Harmless text) :=
  inferInstanceAs (Decidable (NoTerminator _))

namespace Harmless

open NoTerminator (letters)

variable {text : String}

theorem noTerminator (h : Harmless text) : NoTerminator text.toList := .of_letters h

theorem memberName (h : Harmless text) : NoTerminator (Java.memberName text).toList :=
  (NoTerminator.memberName_iff text).2 h

theorem upper (h : Harmless text) : NoTerminator (Text.upper text).toList :=
  (NoTerminator.upper_iff text).2 h.noTerminator

theorem simpleType (h : Harmless text) : NoTerminator (Java.simpleType text).toList := by
  have hname : (QualifiedName.ofText text).name.toList <:+: text.toList := by
    rw [QualifiedName.ofText]
    split
    case h_1 hdrop =>
      rw [String.toList_ofList]
      have hsuffix := List.dropWhile_suffix (l := text.toList) (· != '.')
      rw [hdrop] at hsuffix
      exact ((List.suffix_cons _ _).trans hsuffix).isInfix
    case h_2 => exact List.infix_rfl
  rw [Java.simpleType, NoTerminator.camelCase_iff]
  exact h.of_infix (NoTerminator.letters_infix hname)

end Harmless

/-- Nothing that a link can show of a declaration has a terminator. -/
structure SymbolTable.IsHarmless (table : SymbolTable) : Prop where
  namespaces : ∀ name ns, table.namespace? name = some ns → Harmless ns.name ∧
    Harmless (table.package ns.name) ∧ ∀ t ∈ ns.types.values, Harmless t.name
  symbols : ∀ identifier y, table.symbol? identifier = some y → Harmless y.library ∧
    Harmless (table.package y.library) ∧ Harmless y.name ∧ ∀ type ∈ y.owner, Harmless type
  nativeTypes : ∀ cType e, table.nativeType? cType = some e →
    Harmless (table.package e.library) ∧ Harmless e.type.name

namespace Doc

/-- The text does not take part in a terminator with what is around it. -/
def IsWall (cs : List Char) : Prop :=
  cs ≠ [] ∧ cs.head? ≠ some '/' ∧ cs.getLast? ≠ some '*' ∧ NoTerminator cs

instance (cs : List Char) : Decidable (IsWall cs) := inferInstanceAs (Decidable (_ ∧ _))

namespace IsWall

variable {a b t : List Char}

theorem append (ha : IsWall a) (hb : IsWall b) : IsWall (a ++ b) := by
  obtain ⟨hane, hahead, halast, hat⟩ := ha
  obtain ⟨hbne, hbhead, hblast, hbt⟩ := hb
  refine ⟨List.append_ne_nil_of_left_ne_nil hane _, ?_, ?_, ?_⟩
  · rwa [List.head?_append_of_ne_nil _ hane]
  · rwa [List.getLast?_append_of_ne_nil _ hbne]
  · exact NoTerminator.append_iff.2 ⟨hat, hbt, fun h => absurd h halast⟩

theorem frame (ha : IsWall a) (ht : NoTerminator t) (hb : IsWall b) : IsWall (a ++ t ++ b) := by
  obtain ⟨hane, hahead, halast, hat⟩ := ha
  obtain ⟨hbne, hbhead, hblast, hbt⟩ := hb
  refine ⟨List.append_ne_nil_of_right_ne_nil _ hbne, ?_, ?_, ?_⟩
  · rwa [List.append_assoc, List.head?_append_of_ne_nil _ hane]
  · rwa [List.getLast?_append_of_ne_nil _ hbne]
  · refine NoTerminator.append_iff.2 ⟨?_, hbt, fun _ => hbhead⟩
    exact NoTerminator.append_iff.2 ⟨hat, ht, fun h => absurd h halast⟩

end IsWall

theorem isWall_inlineCode {text : String} (h : NoTerminator text.toList) :
    IsWall (inlineCode text).toList := by
  rw [inlineCode, String.toList_append, String.toList_append]
  exact .frame (by decide +kernel) h (by decide +kernel)

theorem isWall_inlineLink {target : String} (h : NoTerminator target.toList) :
    IsWall (inlineLink target).toList := by
  rw [inlineLink, String.toList_append, String.toList_append]
  exact .frame (by decide +kernel) h (by decide +kernel)

namespace Context

variable {ctx : Context}

theorem noTerminator_qualifier {library : String} (h : Harmless (ctx.table.package library)) :
    NoTerminator (ctx.qualifier library).toList ∧
      (ctx.qualifier library).toList.getLast? ≠ some '*' := by
  rw [qualifier]
  split
  case isTrue => exact ⟨.nil, by decide⟩
  case isFalse =>
    have htext : (s!"{ctx.table.package library}.").toList =
        (ctx.table.package library).toList ++ ['.'] := String.toList_append
    rw [htext]
    refine ⟨(NoTerminator.around_iff (by decide) (by decide)).2 ⟨h.noTerminator, .nil⟩, ?_⟩
    rw [List.getLast?_concat]
    decide

theorem noTerminator_qualified {library name : String} (h : Harmless (ctx.table.package library))
    (hname : NoTerminator name.toList) : NoTerminator (ctx.qualifier library ++ name).toList := by
  obtain ⟨hqualifier, hlast⟩ := noTerminator_qualifier h
  rw [String.toList_append, NoTerminator.append_iff]
  exact ⟨hqualifier, hname, fun h => absurd h hlast⟩

theorem harmless_lookup? (h : ctx.table.IsHarmless) {type : String} {e : TypeEntry}
    (he : ctx.table.lookup? ctx.library type = some e) :
    Harmless (ctx.table.package e.library) ∧ Harmless e.type.name := by
  obtain ⟨ns, hns, he⟩ := Option.bind_eq_some_iff.1 he
  obtain ⟨t, ht, rfl⟩ := Option.map_eq_some_iff.1 he
  obtain ⟨-, hpackage, htypes⟩ := h.namespaces _ ns hns
  exact ⟨hpackage, htypes t (OrderedMap.mem_values_of_get? ht)⟩

theorem isWall_orMiss {reference : String} {link : Option String}
    (hreference : NoTerminator reference.toList)
    (hlink : ∀ text, link = some text → IsWall text.toList) :
    IsWall (orMiss reference link).text.toList := by
  cases link with
  | none => exact isWall_inlineCode hreference
  | some text => exact hlink text rfl

theorem isWall_spotLink {s : Spot} (hpackage : Harmless (ctx.table.package s.library))
    (hclass : NoTerminator s.simpleClass.toList) (hname : Harmless s.name) :
    IsWall (ctx.spotLink s).toList := by
  have hmember : NoTerminator s.member.toList := by
    rw [Spot.member]
    split
    case h_1 =>
      apply hclass.of_infix
      rw [lastComponent, String.toList_ofList, ← List.reverse_infix, List.reverse_reverse]
      exact (List.takeWhile_prefix _).isInfix
    case h_2 => exact hname.memberName
    case h_3 => exact hname.upper
  have htarget : (s!"{ctx.className s}#{s.member}").toList =
      (ctx.className s).toList ++ '#' :: s.member.toList := by
    rw [String.toList_append, String.toList_append, List.append_assoc]
    rfl
  apply isWall_inlineLink
  rw [htarget, NoTerminator.around_iff (by decide) (by decide)]
  exact ⟨noTerminator_qualified hpackage hclass, hmember⟩

end Context

def Target.name? : Target → Option String
  | .member _ name _ | .function _ name => some name
  | .identifier _ _ => none

theorem Context.isWall_spot? {ctx : Context} (h : ctx.table.IsHarmless) {target : Target}
    (hname : ∀ name ∈ target.name?, Harmless name) {s : Spot} (hs : ctx.spot? target = some s) :
    IsWall (ctx.spotLink s).toList := by
  cases target with
  | member type name style =>
    obtain ⟨e, he, rfl⟩ := Option.map_eq_some_iff.1 hs
    obtain ⟨hpackage, htype⟩ := harmless_lookup? h he
    exact isWall_spotLink hpackage htype.simpleType (hname name rfl)
  | function library name =>
    obtain ⟨ns, hns, rfl⟩ := Option.map_eq_some_iff.1 hs
    obtain ⟨hns, -⟩ := Option.filter_eq_some_iff.1 hns
    obtain ⟨hlibrary, hpackage, -⟩ := h.namespaces _ ns hns
    exact isWall_spotLink hpackage hlibrary.noTerminator (hname name rfl)
  | identifier name style =>
    obtain ⟨y, hy, rfl⟩ := Option.map_eq_some_iff.1 hs
    obtain ⟨hlibrary, hpackage, hname, howner⟩ := h.symbols _ y hy
    refine isWall_spotLink hpackage ?_ hname
    rw [Spot.simpleClass]
    cases htype : y.owner with
    | none => exact hlibrary.noTerminator
    | some type => exact (howner type htype).simpleType

namespace LinkPath

variable {path : LinkPath} {target : Target} {name : String}

theorem mem_of_member? (htarget : path.member? = some target) (hname : target.name? = some name) :
    name ∈ path.part2.toList ++ path.part3.toList := by
  rw [List.mem_append, Option.mem_toList, Option.mem_toList]
  rw [member?] at htarget
  split at htarget
  case h_1 hpart3 =>
    cases htarget
    exact .inr (hname ▸ hpart3)
  case h_2 hpart2 _ =>
    cases htarget
    exact .inl (hname ▸ hpart2)
  case h_3 => cases htarget

theorem mem_of_function? (htarget : path.function? = some target)
    (hname : target.name? = some name) : name ∈ path.part2.toList ++ path.part3.toList := by
  rw [List.mem_append, Option.mem_toList, Option.mem_toList]
  rw [function?] at htarget
  split at htarget
  case h_1 hpart3 =>
    cases htarget
    exact .inr (hname ▸ hpart3)
  case h_2 hpart2 _ =>
    cases htarget
    exact .inl (hname ▸ hpart2)
  case h_3 => cases htarget

theorem harmless_primary? (htarget : path.primary? = some target)
    (hname : target.name? = some name) : Harmless name := by
  obtain ⟨type, -, rfl⟩ := Option.map_eq_some_iff.1 htarget
  cases hname
  decide

end LinkPath

theorem Item.harmless_reference {i : Item} {ref : Reference} (h : i.reference? = some ref)
    (hi : ∀ text ∈ i.texts, NoTerminator (NoTerminator.letters text)) :
    Harmless ref.text ∧ ∀ target ∈ ref.target, ∀ name ∈ target.name?, Harmless name := by
  rw [reference?.eq_def] at h
  split at h
  case h_1 kind path =>
    obtain ⟨htext, hparts⟩ := List.forall_mem_cons.1 hi
    have hmember (name : String) (h : name ∈ path.part2.toList ++ path.part3.toList) :
        Harmless name := hparts _ (List.mem_map_of_mem h)
    split at h
    case h_1 =>
      cases h
      refine ⟨htext, fun target htarget name hname => ?_⟩
      dsimp only at htarget
      split at htarget
      case isTrue => exact LinkPath.harmless_primary? htarget hname
      case isFalse => exact hmember name (LinkPath.mem_of_member? htarget hname)
    case h_2 | h_3 =>
      cases h
      exact ⟨htext, fun target htarget name hname =>
        hmember name (LinkPath.mem_of_member? htarget hname)⟩
    case h_4 =>
      cases h
      exact ⟨htext, fun target htarget name hname =>
        hmember name (LinkPath.mem_of_function? htarget hname)⟩
    case h_5 =>
      cases h
      refine ⟨htext, fun target htarget name hname => ?_⟩
      obtain ⟨identifier, -, rfl⟩ := Option.map_eq_some_iff.1 htarget
      cases hname
    case h_6 => cases h
  case h_2 identifier =>
    split at h
    case isTrue => cases h
    case isFalse =>
      cases h
      refine ⟨hi _ (List.mem_singleton_self _), fun target htarget name hname => ?_⟩
      cases htarget
      cases hname
  case h_3 => cases h

namespace Context

variable {ctx : Context} {path : LinkPath}

theorem isWall_reference (h : ctx.table.IsHarmless) {i : Item} {ref : Reference}
    (href : i.reference? = some ref)
    (hi : ∀ text ∈ i.texts, NoTerminator (NoTerminator.letters text)) (state : ListState) :
    IsWall (i.render ctx state).text.toList := by
  obtain ⟨htext, htarget⟩ := Item.harmless_reference href hi
  rw [Item.render_eq href]
  apply isWall_orMiss htext.noTerminator
  intro text hlink
  obtain ⟨s, hs, rfl⟩ := Option.map_eq_some_iff.1 hlink
  obtain ⟨target, hmem, hs⟩ := Option.bind_eq_some_iff.1 hs
  exact isWall_spot? h (htarget target hmem) hs

theorem noTerminator_typeLink? (h : ctx.table.IsHarmless) {library : Option String}
    {name target : String} (htarget : ctx.typeLink? library name = some target) :
    NoTerminator target.toList := by
  rw [typeLink?_eq] at htarget
  obtain ⟨e, he, rfl⟩ := Option.map_eq_some_iff.1 htarget
  obtain ⟨hpackage, htype⟩ := harmless_lookup? h he
  exact noTerminator_qualified hpackage htype.simpleType

theorem isWall_classLink? (h : ctx.table.IsHarmless) {text : String}
    (htext : ctx.classLink? path = some text) : IsWall text.toList := by
  rw [classLink?] at htext
  split at htext
  case h_1 | h_2 =>
    obtain ⟨target, htarget, rfl⟩ := Option.map_eq_some_iff.1 htext
    exact isWall_inlineLink (noTerminator_typeLink? h htarget)
  case h_3 => cases htext

theorem isWall_typeLink (h : ctx.table.IsHarmless) {kind : String}
    (href : (Item.link kind path).reference? = none) (hpath : NoTerminator path.text.toList) :
    IsWall (ctx.link kind path).text.toList := by
  rw [link.eq_def]
  split
  case h_1 | h_2 | h_3 | h_4 | h_14 => cases href
  case h_15 => exact isWall_inlineCode hpath
  all_goals exact isWall_orMiss hpath fun _ => isWall_classLink? h

theorem isWall_literal {name : String} (href : (Item.identifier name).reference? = none) :
    IsWall (ctx.identifier name).text.toList := by
  rw [Item.reference?] at href
  split at href
  case isTrue hname =>
    have hliterals : ∀ name ∈ ["NULL", "TRUE", "FALSE"],
        IsWall (ctx.identifier name).text.toList := by
      rw [List.forall_mem_cons, List.forall_mem_cons, List.forall_mem_singleton]
      exact ⟨isWall_inlineCode (by decide : NoTerminator "null".toList),
        isWall_inlineCode (by decide : NoTerminator "true".toList),
        isWall_inlineCode (by decide : NoTerminator "false".toList)⟩
    exact hliterals name hname
  case isFalse => cases href

theorem isWall_nativeType (h : ctx.table.IsHarmless) {name : String}
    (hname : NoTerminator name.toList) : IsWall (ctx.nativeType name).text.toList := by
  refine isWall_orMiss hname fun text htext => ?_
  obtain ⟨e, he, rfl⟩ := Option.map_eq_some_iff.1 htext
  obtain ⟨hpackage, htype⟩ := h.nativeTypes _ e he
  exact isWall_inlineLink (noTerminator_qualified hpackage htype.simpleType)

end Context

theorem noTerminator_escapeQuotes {text : String} (h : NoTerminator text.toList) :
    NoTerminator (escapeQuotes text).toList := by
  rw [escapeQuotes, String.toList_ofList]
  refine (NoTerminator.flatMap_iff fun c => ?_).2 h
  split
  case isTrue hc =>
    subst hc
    decide
  case isFalse => exact .singleton c

theorem noTerminator_level (level : Nat) : NoTerminator (toString level).toList := by
  refine NoTerminator.of_not_mem_star fun hmem => ?_
  have htext : (toString level).toList = Nat.toDigits 10 level := String.toList_ofList
  rw [htext] at hmem
  exact absurd (Nat.isDigit_of_mem_toDigits (by decide) (by decide) hmem) (by decide)

theorem isWall_bullet (state : ListState) : IsWall state.bullet.toList := by
  cases state <;> decide +kernel

theorem isWall_paragraph (state : ListState) : IsWall state.paragraph.toList := by
  cases state <;> decide +kernel

/-- The Javadoc form of every item is closed off against the text around it, and has a terminator
only if the item shows one. -/
theorem isWall_render {ctx : Context} (h : ctx.table.IsHarmless) (state : ListState) {i : Item}
    (hi : ∀ text ∈ i.texts, NoTerminator (NoTerminator.letters text)) :
    IsWall (i.render ctx state).text.toList := by
  have htext : ∀ text ∈ i.texts, NoTerminator text := fun text ht => .of_letters (hi text ht)
  cases href : i.reference? with
  | some ref => exact Context.isWall_reference h href hi state
  | none =>
    cases i with
    | codeBlock content =>
      have hcode := isWall_inlineCode (htext _ (List.mem_singleton_self _))
      rw [Item.render, Converted.ofText, String.toList_append, String.toList_append]
      exact .append (.append (by decide +kernel) hcode) (by decide +kernel)
    | code content | parameter content =>
      exact isWall_inlineCode (htext _ (List.mem_singleton_self _))
    | link kind path => exact Context.isWall_typeLink h href (htext _ List.mem_cons_self)
    | identifier name => exact Context.isWall_literal href
    | nativeType name => exact Context.isWall_nativeType h (htext _ (List.mem_singleton_self _))
    | hyperlink description url =>
      obtain ⟨hdescription, hurl⟩ := List.forall_mem_cons.1 htext
      rw [Item.render, Converted.ofText, String.toList_append, String.toList_append,
        String.toList_append, String.toList_append]
      rw [List.forall_mem_singleton] at hurl
      exact .frame (.frame (by decide +kernel) hurl (by decide +kernel))
        hdescription (by decide +kernel)
    | image description url =>
      obtain ⟨hdescription, hurl⟩ := List.forall_mem_cons.1 htext
      rw [Item.render, Converted.ofText, String.toList_append, String.toList_append,
        String.toList_append, String.toList_append]
      rw [List.forall_mem_singleton] at hurl
      exact .frame (.frame (by decide +kernel) hurl (by decide +kernel))
        (noTerminator_escapeQuotes hdescription) (by decide +kernel)
    | header level title =>
      have hlevel := noTerminator_level level
      rw [Item.render, Converted.ofText, String.toList_append, String.toList_append,
        String.toList_append, String.toList_append, String.toList_append, String.toList_append]
      exact .frame (.frame (.frame (by decide +kernel) hlevel (by decide +kernel))
        (htext _ (List.mem_singleton_self _)) (by decide +kernel)) hlevel (by decide +kernel)
    | bullet => exact isWall_bullet state
    | strong content =>
      rw [Item.render, Converted.ofText, String.toList_append, String.toList_append]
      exact .frame (by decide +kernel) (htext _ (List.mem_singleton_self _)) (by decide +kernel)
    | tag content =>
      rw [Item.render, Converted.ofText, String.toList_append, String.toList_append]
      exact .frame (by decide +kernel) (htext _ (List.mem_singleton_self _)) (by decide +kernel)
    | paragraph => exact isWall_paragraph state

/-- The converted text shows a slash in front only if the text itself starts with one: no
terminator can come up where a character meets an item. -/
theorem noTerminator_renderSegments {ctx : Context} (h : ctx.table.IsHarmless) (state : ListState)
    (lineStart : Bool) {cs : List Char} (hcs : NoTerminator (NoTerminator.letters cs)) :
    let shown := (renderSegments ctx state (Segment.ofText lineStart cs)).flatMap (·.text.toList)
    NoTerminator shown ∧ (shown.head? = some '/' → cs.head? = some '/') := by
  fun_induction Segment.ofText lineStart cs generalizing state with
  | case1 => exact ⟨.nil, id⟩
  | case2 lineStart c cs hnone ih =>
    have hsuffix : cs <:+: c :: cs := (List.suffix_cons c cs).isInfix
    obtain ⟨hshown, hhead⟩ := ih state (hcs.of_infix (NoTerminator.letters_infix hsuffix))
    have hplain : (Converted.ofText (.singleton c)).text.toList = [c] := String.toList_singleton c
    rw [renderSegments, List.flatMap_cons, hplain, List.singleton_append]
    refine ⟨NoTerminator.cons_iff.2 ⟨fun hc hslash => ?_, hshown⟩, id⟩
    exact (NoTerminator.cons_iff.1 (NoTerminator.of_letters hcs)).1 hc (hhead hslash)
  | case3 lineStart c cs i n hfound more ih =>
    have hsuffix : cs.drop (n - 1) <:+: c :: cs :=
      ((List.drop_suffix _ _).trans (List.suffix_cons c cs)).isInfix
    have hwall : IsWall (i.render ctx state).text.toList :=
      isWall_render h state fun text htext =>
        hcs.of_infix (NoTerminator.letters_infix (texts_infix_of_item? hfound text htext))
    obtain ⟨hshown, -⟩ :=
      ih (state.next i) (hcs.of_infix (NoTerminator.letters_infix hsuffix))
    obtain ⟨hne, hhead, hlast, hitem⟩ := hwall
    rw [renderSegments, List.flatMap_cons]
    refine ⟨NoTerminator.append_iff.2 ⟨hitem, hshown, fun h => absurd h hlast⟩, fun hslash => ?_⟩
    rw [List.head?_append_of_ne_nil _ hne] at hslash
    exact absurd hslash hhead

/-- A harmless text stays without a terminator. -/
theorem noTerminator_convert {ctx : Context} (h : ctx.table.IsHarmless) {text : String}
    (htext : Harmless text) : NoTerminator (convert ctx text).text.toList := by
  rw [convert, String.toList_join, List.flatMap_map]
  exact (noTerminator_renderSegments h .outside true htext).1

end Doc

end GirBind
