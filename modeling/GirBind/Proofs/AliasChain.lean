import Mathlib.Logic.Relation
import GirBind.Proofs.DeclaredTypes

namespace GirBind

open Relation (ReflTransGen TransGen)

def ResolvedType.IsAlias : ResolvedType → Prop
  | registered e => e.type.variant = .aliasType
  | primitive _ => False

namespace TypeEntry

def missingTarget (declaration : String) (e : TypeEntry) : Obstacle :=
  .unsupported e.library declaration s!"alias {e.type.name} has no target"

def circularity (declaration : String) (e : TypeEntry) : Obstacle :=
  .unsupported e.library declaration s!"alias cycle through {e.type.name}"

end TypeEntry

namespace SymbolTable

variable {table : SymbolTable} {library declaration : String} {t : TypeRef} {e : TypeEntry}
  {r s : ResolvedType} {o : Obstacle} {unmet : List (String × String)}

/-- What an alias stands for is looked up in the namespace of the alias. -/
inductive StandsFor (table : SymbolTable) : ResolvedType → ResolvedType → Prop
  | intro {e : TypeEntry} {t : TypeRef} {r : ResolvedType} (ht : e.type.aliasTarget? = some t)
    (hr : ∀ declaration, table.resolveRef e.library declaration t = .ok r) :
    StandsFor table (.registered e) r

theorem resolve_congr {name : String} (declaration' : String)
    (h : table.resolve library declaration name = .ok r) :
    table.resolve library declaration' name = .ok r := by
  unfold resolve at h ⊢
  split at h
  case h_1 => exact h
  case h_2 =>
    split at h
    case h_1 => exact h
    case h_2 => cases h

theorem resolveRef_congr (declaration' : String)
    (h : table.resolveRef library declaration t = .ok r) :
    table.resolveRef library declaration' t = .ok r := by
  rw [resolveRef] at h ⊢
  by_cases harray : t.isArray = true
  · rw [if_pos harray] at h ⊢
    cases hname : t.element.bind TypeRef.name with
    | none =>
      rw [hname] at h
      exact h
    | some name =>
      rw [hname] at h
      obtain ⟨s, hs, hr⟩ := Attempt.map_eq_ok_iff.1 h
      exact Attempt.map_eq_ok_iff.2 ⟨s, resolve_congr declaration' hs, hr⟩
  · rw [if_neg harray] at h ⊢
    cases hname : t.name with
    | none =>
      rw [hname] at h
      exact h
    | some name =>
      rw [hname] at h
      exact resolve_congr declaration' h

theorem resolve_eq_error_iff {name : String} :
    table.resolve library declaration name = .error o ↔
      o = .unresolved library declaration name ∧ ¬ table.Resolves library name := by
  unfold resolve Resolves
  cases table.lookup? library name with
  | some e => simp
  | none =>
    cases Primitive.ofName? name with
    | some p => simp
    | none => simp [eq_comm]

theorem resolveRef_eq_error_iff :
    table.resolveRef library declaration t = .error o ↔
      ∃ name, o = .unresolved library declaration name ∧ t.directName? = some name ∧
        ¬ table.Resolves library name := by
  unfold resolveRef TypeRef.directName?
  split
  case isTrue =>
    cases t.element.bind TypeRef.name with
    | none => simp
    | some name =>
      have hmap (x : Except Obstacle ResolvedType) :
          (x.map fun _ => ResolvedType.primitive .pointer) = .error o ↔ x = .error o := by
        cases x with
        | error o => simp [Except.map]
        | ok r => simp [Except.map]
      simp [hmap, resolve_eq_error_iff]
  case isFalse =>
    cases t.name with
    | none => simp
    | some name => simp [resolve_eq_error_iff]

theorem declares_of_resolveRef (h : table.resolveRef library declaration t = .ok (.registered e)) :
    table.Declares e := by
  unfold resolveRef at h
  split at h
  case isTrue =>
    split at h
    case h_1 =>
      obtain ⟨s, -, hs⟩ := Attempt.map_eq_ok_iff.1 h
      cases hs
    case h_2 => cases h
  case isFalse =>
    split at h
    case h_1 =>
      unfold resolve at h
      split at h
      case h_1 e' he' =>
        cases h
        exact declares_of_lookup? he'
      case h_2 =>
        split at h
        case h_1 => cases h
        case h_2 => cases h
    case h_2 => cases h

theorem variant_of_aliasTarget? (ht : e.type.aliasTarget? = some t) :
    e.type.variant = .aliasType := by
  by_contra hvariant
  rw [RegisteredType.aliasTarget?, if_neg hvariant] at ht
  cases ht

namespace StandsFor

theorem of_resolveRef (ht : e.type.aliasTarget? = some t)
    (hr : table.resolveRef e.library declaration t = .ok r) :
    table.StandsFor (.registered e) r :=
  .intro ht fun declaration' => resolveRef_congr declaration' hr

theorem isAlias (h : table.StandsFor r s) : r.IsAlias := by
  cases h with
  | intro ht _ => exact variant_of_aliasTarget? ht

theorem rightUnique (table : SymbolTable) : Relator.RightUnique table.StandsFor := by
  intro r s s' h h'
  cases h with
  | intro ht hr =>
    cases h' with
    | intro ht' hs =>
      cases ht.symm.trans ht'
      exact Except.ok.inj ((hr "").symm.trans (hs ""))

theorem declares (h : table.StandsFor r (.registered e)) : table.Declares e := by
  cases h with
  | intro _ hr => exact declares_of_resolveRef (hr "")

end StandsFor

theorem not_cycle_of_end (h : ReflTransGen table.StandsFor r s)
    (hend : ∀ s', ¬ table.StandsFor s s') : ¬ TransGen table.StandsFor r r := by
  induction h using ReflTransGen.head_induction_on with
  | refl =>
    intro hcycle
    obtain ⟨s', hs', -⟩ := TransGen.head'_iff.1 hcycle
    exact hend s' hs'
  | @head a b hab _ ih =>
    intro hcycle
    obtain ⟨b', hab', hba⟩ := TransGen.head'_iff.1 hcycle
    obtain rfl : b = b' := StandsFor.rightUnique table hab hab'
    exact ih (TransGen.tail' hba hab)

theorem eq_of_ends {s' : ResolvedType} (h : ReflTransGen table.StandsFor r s)
    (hend : ∀ a, ¬ table.StandsFor s a) (h' : ReflTransGen table.StandsFor r s')
    (hend' : ∀ a, ¬ table.StandsFor s' a) : s = s' := by
  rcases h.total_of_right_unique (StandsFor.rightUnique table) h' with hle | hle
  · rcases hle.cases_head with heq | ⟨a, ha, -⟩
    · exact heq
    · exact (hend a ha).elim
  · rcases hle.cases_head with heq | ⟨a, ha, -⟩
    · exact heq.symm
    · exact (hend' a ha).elim

/-- The chain from the type comes back to an alias in it. -/
def Circles (table : SymbolTable) (r : ResolvedType) : Prop :=
  ∃ e, ReflTransGen table.StandsFor r (.registered e) ∧
    TransGen table.StandsFor (.registered e) (.registered e)

/-- The chain from the type ends in an alias that stands for nothing. -/
def LacksTarget (table : SymbolTable) (r : ResolvedType) : Prop :=
  ∃ e, ReflTransGen table.StandsFor r (.registered e) ∧ e.type.variant = .aliasType ∧
    e.type.aliasTarget? = none

theorem not_circles_of_end (h : ReflTransGen table.StandsFor r s)
    (hend : ∀ a, ¬ table.StandsFor s a) : ¬ table.Circles r := by
  rintro ⟨e, he, hcycle⟩
  rcases he.total_of_right_unique (StandsFor.rightUnique table) h with hle | hle
  · exact not_cycle_of_end hle hend hcycle
  · rcases hle.cases_head with rfl | ⟨a, ha, -⟩
    · obtain ⟨a, ha, -⟩ := TransGen.head'_iff.1 hcycle
      exact hend a ha
    · exact hend a ha

section

variable (table declaration)

theorem followAliases_value (h : ¬ r.IsAlias) :
    table.followAliases declaration unmet r = .ok r := by
  rw [followAliases.eq_def]
  cases r with
  | primitive p => rfl
  | registered e => exact if_neg h

theorem followAliases_met (halias : e.type.variant = .aliasType) (h : e.identity ∉ unmet) :
    table.followAliases declaration unmet (.registered e) = .error (e.circularity declaration) := by
  rw [followAliases, if_pos halias, dif_neg h]
  rfl

theorem followAliases_missing (halias : e.type.variant = .aliasType) (h : e.identity ∈ unmet)
    (ht : e.type.aliasTarget? = none) :
    table.followAliases declaration unmet (.registered e) =
      .error (e.missingTarget declaration) := by
  rw [followAliases, if_pos halias, dif_pos h, ht]
  rfl

end

theorem followAliases_target (h : e.identity ∈ unmet) (ht : e.type.aliasTarget? = some t) :
    table.followAliases declaration unmet (.registered e) =
      table.resolveRef e.library declaration t >>=
        table.followAliases declaration (otherThan unmet e.identity) := by
  rw [followAliases, if_pos (variant_of_aliasTarget? ht), dif_pos h, ht]
  dsimp only
  cases table.resolveRef e.library declaration t with
  | error o => rfl
  | ok r => rfl

/-- The answer where a chain can go on no further. -/
inductive StopsAt (table : SymbolTable) (declaration : String) :
    ResolvedType → Except Obstacle ResolvedType → Prop
  | value {s : ResolvedType} (hvalue : ¬ s.IsAlias) : StopsAt table declaration s (.ok s)
  | missing {e : TypeEntry} (halias : e.type.variant = .aliasType)
    (ht : e.type.aliasTarget? = none) :
    StopsAt table declaration (.registered e) (.error (e.missingTarget declaration))
  | unresolved {e : TypeEntry} {t : TypeRef} {o : Obstacle} (ht : e.type.aliasTarget? = some t)
    (ho : table.resolveRef e.library declaration t = .error o) :
    StopsAt table declaration (.registered e) (.error o)

namespace StopsAt

variable {x x' : Except Obstacle ResolvedType}

theorem isEnd (h : table.StopsAt declaration s x) : ∀ s', ¬ table.StandsFor s s' := by
  intro s' hs'
  cases h with
  | value hvalue => exact hvalue hs'.isAlias
  | missing _ ht =>
    cases hs' with
    | intro ht' _ => cases ht.symm.trans ht'
  | unresolved ht ho =>
    cases hs' with
    | intro ht' hr =>
      cases ht.symm.trans ht'
      cases ho.symm.trans (hr declaration)

theorem unique (h : table.StopsAt declaration s x) (h' : table.StopsAt declaration s x') :
    x = x' := by
  cases h with
  | value hvalue =>
    cases h' with
    | value _ => rfl
    | missing halias _ => exact (hvalue halias).elim
    | unresolved ht _ => exact (hvalue (variant_of_aliasTarget? ht)).elim
  | missing halias ht =>
    cases h' with
    | value hvalue => exact (hvalue halias).elim
    | missing _ _ => rfl
    | unresolved ht' _ => cases ht.symm.trans ht'
  | unresolved ht ho =>
    cases h' with
    | value hvalue => exact (hvalue (variant_of_aliasTarget? ht)).elim
    | missing _ ht' => cases ht'.symm.trans ht
    | unresolved ht' ho' =>
      cases ht.symm.trans ht'
      exact ho.symm.trans ho'

theorem not_circles (h : table.StopsAt declaration s x) (hs : ReflTransGen table.StandsFor r s) :
    ¬ table.Circles r :=
  not_circles_of_end hs h.isEnd

end StopsAt

/-- What following aliases from a type can come to. A chain breaks off at an alias that counts as
met. -/
inductive Answer (table : SymbolTable) (declaration : String) (met : TypeEntry → Prop)
    (r : ResolvedType) : Except Obstacle ResolvedType → Prop
  | stops {s : ResolvedType} {x : Except Obstacle ResolvedType}
    (hs : ReflTransGen table.StandsFor r s) (hstops : table.StopsAt declaration s x) :
    Answer table declaration met r x
  | circular {e : TypeEntry} (he : ReflTransGen table.StandsFor r (.registered e))
    (halias : e.type.variant = .aliasType) (hmet : met e) :
    Answer table declaration met r (.error (e.circularity declaration))

theorem Answer.of_reflTransGen {met met' : TypeEntry → Prop} {x : Except Obstacle ResolvedType}
    (h : table.Answer declaration met s x) (hrs : ReflTransGen table.StandsFor r s)
    (hmet : ∀ e, ReflTransGen table.StandsFor s (.registered e) → met e → met' e) :
    table.Answer declaration met' r x := by
  cases h with
  | stops hs hstops => exact .stops (hrs.trans hs) hstops
  | circular he halias hm => exact .circular (hrs.trans he) halias (hmet _ he hm)

/-- The chain from the type has come to a declaration of this identity before the entry. -/
def Revisits (table : SymbolTable) (r : ResolvedType) (e : TypeEntry) : Prop :=
  ∃ e', ReflTransGen table.StandsFor r (.registered e') ∧
    TransGen table.StandsFor (.registered e') (.registered e) ∧ e'.identity = e.identity

theorem answer_followAliases (table : SymbolTable) (declaration : String)
    (unmet : List (String × String)) (r : ResolvedType) :
    table.Answer declaration (fun e => e.identity ∉ unmet ∨ table.Revisits r e) r
      (table.followAliases declaration unmet r) := by
  by_cases halias : r.IsAlias
  case neg =>
    rw [followAliases_value table declaration halias]
    exact .stops .refl (.value halias)
  case pos =>
    cases r with
    | primitive p => cases halias
    | registered e =>
      by_cases hmem : e.identity ∈ unmet
      case neg =>
        rw [followAliases_met table declaration halias hmem]
        exact .circular .refl halias (.inl hmem)
      case pos =>
        cases ht : e.type.aliasTarget? with
        | none =>
          rw [followAliases_missing table declaration halias hmem ht]
          exact .stops .refl (.missing halias ht)
        | some t =>
          rw [followAliases_target hmem ht]
          cases hr : table.resolveRef e.library declaration t with
          | error o => exact .stops .refl (.unresolved ht hr)
          | ok s =>
            have hstep : table.StandsFor (.registered e) s := .of_resolveRef ht hr
            have hrest := answer_followAliases table declaration (otherThan unmet e.identity) s
            apply hrest.of_reflTransGen (.single hstep)
            rintro e' he' (hmet | ⟨e'', he'', hback, hsame⟩)
            · rcases not_mem_otherThan.1 hmet with hmet | hsame
              · exact .inl hmet
              · exact .inr ⟨e, .refl, TransGen.head' hstep he', hsame.symm⟩
            · exact .inr ⟨e'', he''.head hstep, hback, hsame⟩
termination_by unmet.length
decreasing_by exact length_otherThan hmem

/-- Every type that can be reached counts as not met at the start. -/
theorem answer_underlying (table : SymbolTable) (declaration : String) (r : ResolvedType) :
    table.Answer declaration (table.Revisits r) r (table.underlying declaration r) := by
  have hstart (unmet : List (String × String))
      (hunmet : ∀ e, ReflTransGen table.StandsFor r (.registered e) → e.identity ∈ unmet) :
      table.Answer declaration (table.Revisits r) r
        (table.followAliases declaration unmet r) := by
    apply (answer_followAliases table declaration unmet r).of_reflTransGen .refl
    intro e he hmet
    exact hmet.resolve_left fun hnot => hnot (hunmet e he)
  apply hstart
  intro e he
  rcases he.cases_tail with rfl | ⟨s, -, hs⟩
  · exact List.mem_append_left _ List.mem_cons_self
  · exact List.mem_append_right _ hs.declares.identity_mem

def Has (table : SymbolTable) : ResolvedType → Prop
  | .registered e => table.Declares e
  | .primitive _ => True

theorem declares_of_reflTransGen (hr : table.Has r)
    (h : ReflTransGen table.StandsFor r (.registered e)) : table.Declares e := by
  rcases h.cases_tail with rfl | ⟨s, -, hs⟩
  · exact hr
  · exact hs.declares

theorem circles_of_revisits (hapart : table.TellsApart) (hr : table.Has r)
    (h : table.Revisits r e) : table.Circles r := by
  obtain ⟨e', he', hback, hsame⟩ := h
  have heq : e' = e := by
    apply hapart e' e (declares_of_reflTransGen hr he') _ hsame
    obtain ⟨s, -, hs⟩ := TransGen.tail'_iff.1 hback
    exact hs.declares
  subst heq
  exact ⟨e', he', hback⟩

/-- How the answer for a type tells of the chain of aliases that starts there. -/
structure EndsChain (table : SymbolTable) (declaration : String) (r : ResolvedType)
    (x : Except Obstacle ResolvedType) : Prop where
  value : ∀ s, x = .ok s ↔ ReflTransGen table.StandsFor r s ∧ ¬ s.IsAlias
  unsupported : (∃ library place reason, x = .error (.unsupported library place reason)) ↔
    table.Circles r ∨ table.LacksTarget r
  unresolved : ∀ library place name, x = .error (.unresolved library place name) ↔
    place = declaration ∧ ∃ e t, ReflTransGen table.StandsFor r (.registered e) ∧
      e.type.aliasTarget? = some t ∧ e.library = library ∧ t.directName? = some name ∧
      ¬ table.Resolves library name

namespace Answer

variable {x x' : Except Obstacle ResolvedType}

theorem eq_of_stopsAt (h : table.Answer declaration (table.Revisits r) r x)
    (hapart : table.TellsApart) (hr : table.Has r) (hs : ReflTransGen table.StandsFor r s)
    (hstops : table.StopsAt declaration s x') : x = x' := by
  cases h with
  | stops hs' hstops' =>
    cases eq_of_ends hs hstops.isEnd hs' hstops'.isEnd
    exact hstops'.unique hstops
  | circular _ _ hmet =>
    exact (hstops.not_circles hs (circles_of_revisits hapart hr hmet)).elim

theorem eq_ok_iff (h : table.Answer declaration (table.Revisits r) r x)
    (hapart : table.TellsApart) (hr : table.Has r) :
    x = .ok s ↔ ReflTransGen table.StandsFor r s ∧ ¬ s.IsAlias := by
  constructor
  · rintro rfl
    cases h with
    | stops hs hstops =>
      cases hstops with
      | value hvalue => exact ⟨hs, hvalue⟩
  · rintro ⟨hs, hvalue⟩
    exact h.eq_of_stopsAt hapart hr hs (.value hvalue)

theorem eq_unsupported_iff (h : table.Answer declaration (table.Revisits r) r x)
    (hapart : table.TellsApart) (hr : table.Has r) :
    (∃ library place reason, x = .error (.unsupported library place reason)) ↔
      table.Circles r ∨ table.LacksTarget r := by
  constructor
  · rintro ⟨library, place, reason, hx⟩
    cases h with
    | circular _ _ hmet => exact .inl (circles_of_revisits hapart hr hmet)
    | stops hs hstops =>
      cases hstops with
      | value => cases hx
      | missing halias ht => exact .inr ⟨_, hs, halias, ht⟩
      | unresolved _ ho =>
        obtain ⟨name, rfl, -⟩ := resolveRef_eq_error_iff.1 ho
        cases hx
  · rintro (hcircles | ⟨e, he, halias, ht⟩)
    · cases h with
      | circular => exact ⟨_, _, _, rfl⟩
      | stops hs hstops => exact (hstops.not_circles hs hcircles).elim
    · exact ⟨_, _, _, h.eq_of_stopsAt hapart hr he (.missing halias ht)⟩

theorem eq_unresolved_iff (h : table.Answer declaration (table.Revisits r) r x)
    (hapart : table.TellsApart) (hr : table.Has r) {place name : String} :
    x = .error (.unresolved library place name) ↔
      place = declaration ∧ ∃ e t, ReflTransGen table.StandsFor r (.registered e) ∧
        e.type.aliasTarget? = some t ∧ e.library = library ∧ t.directName? = some name ∧
        ¬ table.Resolves library name := by
  constructor
  · intro hx
    cases h with
    | circular => cases hx
    | stops hs hstops =>
      cases hstops with
      | value => cases hx
      | missing => cases hx
      | unresolved ht ho =>
        obtain ⟨name', rfl, hname, hnot⟩ := resolveRef_eq_error_iff.1 ho
        cases hx
        exact ⟨rfl, _, _, hs, ht, rfl, hname, hnot⟩
  · rintro ⟨rfl, e, t, he, ht, rfl, hname, hnot⟩
    apply h.eq_of_stopsAt hapart hr he
    exact .unresolved ht (resolveRef_eq_error_iff.2 ⟨name, rfl, hname, hnot⟩)

end Answer

theorem endsChain_underlying (hapart : table.TellsApart) (hr : table.Has r)
    (declaration : String) :
    table.EndsChain declaration r (table.underlying declaration r) where
  value _ := (answer_underlying table declaration r).eq_ok_iff hapart hr
  unsupported := (answer_underlying table declaration r).eq_unsupported_iff hapart hr
  unresolved _ _ _ := (answer_underlying table declaration r).eq_unresolved_iff hapart hr

theorem end_of_underlying (h : table.underlying declaration r = .ok s) :
    ReflTransGen table.StandsFor r s ∧ ¬ s.IsAlias := by
  have hanswer := answer_underlying table declaration r
  rw [h] at hanswer
  cases hanswer with
  | stops hs hstops =>
    cases hstops with
    | value hvalue => exact ⟨hs, hvalue⟩

theorem ruleOf_eq_error {isPointer isReturn : Bool} (hs : ¬ s.IsAlias)
    (h : ruleOf library declaration isPointer isReturn s = .error o) :
    o = .unsupported library declaration "va_list has no Java equivalent" := by
  cases s with
  | primitive p =>
    cases p with
    | vaList => exact (Except.error.inj h).symm
    | _ => cases h
  | registered e =>
    rw [ruleOf] at h
    cases hvariant : e.type.variant with
    | aliasType => exact (hs hvariant).elim
    | _ =>
      rw [hvariant] at h
      cases h

theorem reason_of_underlying {place reason : String}
    (h : table.underlying declaration r = .error (.unsupported library place reason)) :
    ∃ rest, reason = "alias " ++ rest := by
  have hanswer := answer_underlying table declaration r
  rw [h] at hanswer
  generalize hx : Except.error (Obstacle.unsupported library place reason) = x at hanswer
  cases hanswer with
  | @circular e =>
    cases hx
    exact ⟨"cycle through " ++ e.type.name, by simp [← String.append_assoc]; rfl⟩
  | stops _ hstops =>
    cases hstops with
    | value => cases hx
    | @missing e =>
      cases hx
      exact ⟨e.type.name ++ " has no target", by simp [← String.append_assoc]; rfl⟩
    | unresolved _ ho =>
      obtain ⟨name, rfl, -⟩ := resolveRef_eq_error_iff.1 ho
      cases hx

theorem marshalRule_ne_unresolved {direction : Direction} {isReturn : Bool}
    {library' place : String} :
    table.marshalRule library declaration t direction isReturn ≠
      .error (.unsupported library' place "unresolved alias") := by
  intro h
  unfold marshalRule at h
  cases hr : table.resolveRef library declaration t with
  | error o =>
    obtain ⟨name, rfl, -⟩ := resolveRef_eq_error_iff.1 hr
    rw [hr] at h
    cases h
  | ok r =>
    rw [hr] at h
    change (if (t.isArray || direction != .input) = true then Except.ok .pointer else
      table.underlying declaration r >>= ruleOf library declaration t.isPointer isReturn) =
        Except.error _ at h
    split at h
    case isTrue => cases h
    case isFalse =>
      cases hs : table.underlying declaration r with
      | error o =>
        rw [hs] at h
        cases h
        obtain ⟨rest, hrest⟩ := reason_of_underlying hs
        have hchars := congrArg String.toList hrest
        simp at hchars
      | ok s =>
        rw [hs] at h
        have hobstacle := ruleOf_eq_error (end_of_underlying hs).2 h
        obtain ⟨-, -, hreason⟩ := Obstacle.unsupported.inj hobstacle
        exact absurd hreason (by decide)

/-- Aliases are followed to the end in a table of documents and edits, and no further. The answer
tells exactly how the chain ends. -/
theorem chains_of_underlying {rs : List Repository} (hrs : ∀ r ∈ rs, r.Derived)
    (naming : PackageNaming) {r : ResolvedType} (hr : (build rs naming).Has r)
    (declaration : String) :
    (build rs naming).EndsChain declaration r ((build rs naming).underlying declaration r) ∧
      ∀ library t direction isReturn library' place,
        (build rs naming).marshalRule library declaration t direction isReturn ≠
          .error (.unsupported library' place "unresolved alias") :=
  ⟨endsChain_underlying (tellsApart_build hrs naming) hr declaration,
    fun _ _ _ _ _ _ => marshalRule_ne_unresolved⟩

end SymbolTable

def foreignAlias : Source :=
  ⟨"a", .all, "<repository><namespace name='X'><alias name='B'><type name='Y.S'/></alias></namespace></repository>"⟩

theorem tokens_foreignAlias : Markup.tokens foreignAlias.content = .ok [
    ⟨.startTag "repository" [] false, ⟨1, 1⟩⟩,
    ⟨.startTag "namespace" [("name", "X")] false, ⟨1, 13⟩⟩,
    ⟨.startTag "alias" [("name", "B")] false, ⟨1, 33⟩⟩,
    ⟨.startTag "type" [("name", "Y.S")] true, ⟨1, 49⟩⟩, ⟨.endTag "alias", ⟨1, 67⟩⟩,
    ⟨.endTag "namespace", ⟨1, 75⟩⟩, ⟨.endTag "repository", ⟨1, 87⟩⟩, ⟨.endOfInput, ⟨1, 100⟩⟩] :=
  (Markup.tokens_ofList _).trans (Attempt.toOption_eq_some_iff.1 (by decide +kernel))

def aliasSource : Source :=
  ⟨"b", .all, "<repository><namespace name='Y'>
<alias name='S'><type name='utf8' c:type='gchar*'/></alias>
<alias name='P'><type name='gint' c:type='gint*'/></alias>
<alias name='V'><type name='va_list'/></alias>
<alias name='L'><type name='M'/></alias><alias name='M'><type name='L'/></alias>
<alias name='N'/><alias name='D'><type name='Nope'/></alias></namespace></repository>"⟩

set_option maxRecDepth 2000 in
theorem tokens_aliasSource : Markup.tokens aliasSource.content = .ok [
    ⟨.startTag "repository" [] false, ⟨1, 1⟩⟩,
    ⟨.startTag "namespace" [("name", "Y")] false, ⟨1, 13⟩⟩, ⟨.text "\n", ⟨1, 33⟩⟩,
    ⟨.startTag "alias" [("name", "S")] false, ⟨2, 1⟩⟩,
    ⟨.startTag "type" [("name", "utf8"), ("c:type", "gchar*")] true, ⟨2, 17⟩⟩,
    ⟨.endTag "alias", ⟨2, 52⟩⟩, ⟨.text "\n", ⟨2, 60⟩⟩,
    ⟨.startTag "alias" [("name", "P")] false, ⟨3, 1⟩⟩,
    ⟨.startTag "type" [("name", "gint"), ("c:type", "gint*")] true, ⟨3, 17⟩⟩,
    ⟨.endTag "alias", ⟨3, 51⟩⟩, ⟨.text "\n", ⟨3, 59⟩⟩,
    ⟨.startTag "alias" [("name", "V")] false, ⟨4, 1⟩⟩,
    ⟨.startTag "type" [("name", "va_list")] true, ⟨4, 17⟩⟩, ⟨.endTag "alias", ⟨4, 39⟩⟩,
    ⟨.text "\n", ⟨4, 47⟩⟩, ⟨.startTag "alias" [("name", "L")] false, ⟨5, 1⟩⟩,
    ⟨.startTag "type" [("name", "M")] true, ⟨5, 17⟩⟩, ⟨.endTag "alias", ⟨5, 33⟩⟩,
    ⟨.startTag "alias" [("name", "M")] false, ⟨5, 41⟩⟩,
    ⟨.startTag "type" [("name", "L")] true, ⟨5, 57⟩⟩, ⟨.endTag "alias", ⟨5, 73⟩⟩,
    ⟨.text "\n", ⟨5, 81⟩⟩, ⟨.startTag "alias" [("name", "N")] true, ⟨6, 1⟩⟩,
    ⟨.startTag "alias" [("name", "D")] false, ⟨6, 18⟩⟩,
    ⟨.startTag "type" [("name", "Nope")] true, ⟨6, 34⟩⟩, ⟨.endTag "alias", ⟨6, 53⟩⟩,
    ⟨.endTag "namespace", ⟨6, 61⟩⟩, ⟨.endTag "repository", ⟨6, 73⟩⟩, ⟨.endOfInput, ⟨6, 86⟩⟩] :=
  (Markup.tokens_ofList _).trans (Attempt.toOption_eq_some_iff.1 (by decide +kernel))

def SymbolTable.endOf? (table : SymbolTable) (library name : String) :
    Option (Except Obstacle (Option Primitive)) :=
  (table.lookup? library name).map fun e =>
    (table.underlying "f" (.registered e)).map ResolvedType.primitive?

theorem SymbolTable.eq_of_endOf? {table : SymbolTable} {library name : String}
    {y : Except Obstacle Primitive} (h : table.endOf? library name = some (y.map some)) :
    ∃ e, table.lookup? library name = some e ∧
      table.underlying "f" (.registered e) = y.map .primitive := by
  obtain ⟨e, he, hx⟩ := Option.map_eq_some_iff.1 h
  refine ⟨e, he, ?_⟩
  revert hx
  generalize table.underlying "f" (.registered e) = x
  intro hx
  match x, y with
  | .error o, .error o' =>
    cases hx
    rfl
  | .error o, .ok p => cases hx
  | .ok s, .error o => cases hx
  | .ok (.registered e), .ok p => cases hx
  | .ok (.primitive p'), .ok p =>
    cases hx
    rfl

theorem ends_aliasSource : ∃ r s, foreignAlias.repository = .ok r ∧
    aliasSource.repository = .ok s ∧
    let table := SymbolTable.build [r, s] Options.default.naming
    table.endOf? "X" "B" = some (.ok (some .string)) ∧
      table.endOf? "Y" "L" =
        some (.error (.unsupported "Y" "f" "alias cycle through L")) ∧
      table.endOf? "Y" "N" = some (.error (.unsupported "Y" "f" "alias N has no target")) ∧
      table.endOf? "Y" "D" = some (.error (.unresolved "Y" "f" "Nope")) := by
  rw [Source.repository, Source.repository, Source.root, Source.root, tokens_foreignAlias,
    tokens_aliasSource]
  exact ⟨_, _, rfl, rfl, by decide +kernel⟩

open SymbolTable in
theorem chains_of_aliasSource : ∃ r s, foreignAlias.repository = .ok r ∧
    aliasSource.repository = .ok s ∧
    let table := build [r, s] Options.default.naming
    (∃ e, table.lookup? "X" "B" = some e ∧
      ReflTransGen table.StandsFor (.registered e) (.primitive .string)) ∧
    (∃ e, table.lookup? "Y" "L" = some e ∧
      (table.Circles (.registered e) ∨ table.LacksTarget (.registered e))) ∧
    (∃ e, table.lookup? "Y" "N" = some e ∧
      (table.Circles (.registered e) ∨ table.LacksTarget (.registered e))) ∧
    ∃ e, table.lookup? "Y" "D" = some e ∧ ∃ e' t,
      ReflTransGen table.StandsFor (.registered e) (.registered e') ∧
        e'.type.aliasTarget? = some t ∧ e'.library = "Y" ∧ t.directName? = some "Nope" ∧
        ¬ table.Resolves "Y" "Nope" := by
  obtain ⟨r, s, hr, hs, hb, hl, hn, hd⟩ := ends_aliasSource
  have hends (e : TypeEntry) (he : (build [r, s] Options.default.naming).Declares e) :
      (build [r, s] Options.default.naming).EndsChain "f" (.registered e)
        ((build [r, s] Options.default.naming).underlying "f" (.registered e)) :=
    (chains_of_underlying
      (List.forall_mem_cons.2 ⟨.read hr, List.forall_mem_singleton.2 (.read hs)⟩) _
      (r := .registered e) he "f").1
  refine ⟨r, s, hr, hs, ?_, ?_, ?_, ?_⟩
  · obtain ⟨e, he, hx⟩ := eq_of_endOf? (y := .ok .string) hb
    exact ⟨e, he, (((hends e (declares_of_lookup? he)).value _).1 hx).1⟩
  · obtain ⟨e, he, hx⟩ := eq_of_endOf? (y := .error _) hl
    exact ⟨e, he, (hends e (declares_of_lookup? he)).unsupported.1 ⟨_, _, _, hx⟩⟩
  · obtain ⟨e, he, hx⟩ := eq_of_endOf? (y := .error _) hn
    exact ⟨e, he, (hends e (declares_of_lookup? he)).unsupported.1 ⟨_, _, _, hx⟩⟩
  · obtain ⟨e, he, hx⟩ := eq_of_endOf? (y := .error _) hd
    exact ⟨e, he, (((hends e (declares_of_lookup? he)).unresolved _ _ _).1 hx).2⟩

end GirBind
