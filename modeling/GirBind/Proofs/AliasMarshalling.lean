import GirBind.Proofs.AliasChain
import GirBind.Proofs.Carrier

namespace GirBind

open Relation (ReflTransGen TransGen)

/-- A mention of a type, and the namespace that it stands in. -/
structure Mention where
  library : String
  ref : TypeRef

/-- A value of the type is passed as a number. No value at all is passed if nothing is the
result. -/
def ResolvedType.IsByValue (isReturn : Bool) : ResolvedType → Prop
  | primitive p => p.scalar?.isSome ∨ (p = .void ∧ isReturn = true)
  | registered e => e.type.variant = .enumeration

def argumentList (library declaration : String) : Obstacle :=
  .unsupported library declaration "va_list has no Java equivalent"

namespace SymbolTable

variable {table : SymbolTable} {declaration : String} {isReturn : Bool} {m m' u : Mention}
  {t : TypeRef} {e : TypeEntry} {r s : ResolvedType} {unmet : List (String × String)}

def ruleFor (table : SymbolTable) (declaration : String) (isReturn : Bool) (m : Mention) :
    Except Obstacle MarshalRule :=
  table.marshalRule m.library declaration m.ref .input isReturn

def LeadsTo (table : SymbolTable) (m : Mention) (r : ResolvedType) : Prop :=
  ∀ declaration, table.resolveRef m.library declaration m.ref = .ok r

/-- A mention of an alias unfolds to what the alias stands for, in the namespace of the alias. -/
inductive Unfolds (table : SymbolTable) : Mention → Mention → Prop
  | intro {m : Mention} {e : TypeEntry} {t : TypeRef} (hm : table.LeadsTo m (.registered e))
    (ht : e.type.aliasTarget? = some t) : Unfolds table m ⟨e.library, t⟩

/-- The mention is one of a pointer to a value that would be passed as it is. -/
def PointsToValue (table : SymbolTable) (isReturn : Bool) (m : Mention) : Prop :=
  m.ref.isPointer = true ∧ ∃ r s, table.LeadsTo m r ∧ ReflTransGen table.StandsFor r s ∧
    s.IsByValue isReturn

/-- The chain from an alias comes to an alias of its own namespace and name again. -/
def Returns (table : SymbolTable) (e : TypeEntry) : Prop :=
  ∃ e', TransGen table.StandsFor (.registered e) (.registered e') ∧
    e'.type.variant = .aliasType ∧ e'.identity = e.identity

/-- An alias on the way from one mention to another lies on a cycle. -/
def PassesCycle (table : SymbolTable) (m m' : Mention) : Prop :=
  ∃ u e, ReflTransGen table.Unfolds m u ∧ table.LeadsTo u (.registered e) ∧
    TransGen table.Unfolds u m' ∧ table.Returns e

/-- A cycle is reported that closes at an alias in the chain from the type. -/
def ClosesCycle (table : SymbolTable) (declaration : String) (r : ResolvedType) {α : Type}
    (x : Except Obstacle α) : Prop :=
  ∃ e : TypeEntry, ReflTransGen table.StandsFor r (.registered e) ∧
    x = .error (e.circularity declaration)

/-- Two mentions have one rule or one obstacle, or each is of a list of arguments, which is reported
where it is mentioned. -/
def RulesAgree (table : SymbolTable) (declaration : String) (isReturn : Bool) (m m' : Mention) :
    Prop :=
  table.ruleFor declaration isReturn m = table.ruleFor declaration isReturn m' ∨
    table.ruleFor declaration isReturn m = .error (argumentList m.library declaration) ∧
      table.ruleFor declaration isReturn m' = .error (argumentList m'.library declaration)

theorem leadsTo_of_resolveRef (h : table.resolveRef m.library declaration m.ref = .ok r) :
    table.LeadsTo m r :=
  fun declaration' => resolveRef_congr declaration' h

theorem LeadsTo.unique (hr : table.LeadsTo m r) (hs : table.LeadsTo m s) : r = s :=
  Except.ok.inj ((hr "").symm.trans (hs ""))

theorem LeadsTo.not_pointsToValue (hr : table.LeadsTo m r) (halias : ¬ r.IsAlias)
    (hvalue : ¬ r.IsByValue isReturn) : ¬ table.PointsToValue isReturn m := by
  rintro ⟨-, r', s, hr', hs, hby⟩
  cases hr.unique hr'
  rcases hs.cases_head with rfl | ⟨a, ha, -⟩
  · exact hvalue hby
  · exact halias ha.isAlias

section Ends

def endOf (table : SymbolTable) (declaration : String) (m : Mention) :
    Except Obstacle ResolvedType :=
  table.resolveRef m.library declaration m.ref >>= table.underlying declaration

theorem LeadsTo.endOf_eq (h : table.LeadsTo m r) :
    table.endOf declaration m = table.underlying declaration r := by
  rw [endOf, h declaration]
  rfl

theorem eq_pointer_of_isArray {library : String} (harray : t.isArray = true)
    (h : table.resolveRef library declaration t = .ok r) : r = .primitive .pointer := by
  rw [resolveRef, if_pos harray] at h
  split at h
  case h_1 =>
    obtain ⟨s, -, hr⟩ := Attempt.map_eq_ok_iff.1 h
    exact hr.symm
  case h_2 => exact (Except.ok.inj h).symm

theorem ruleFor_eq (table : SymbolTable) (declaration : String) (isReturn : Bool) (m : Mention) :
    table.ruleFor declaration isReturn m =
      table.endOf declaration m >>= ruleOf m.library declaration m.ref.isPointer isReturn := by
  rw [ruleFor, marshalRule, endOf]
  cases hr : table.resolveRef m.library declaration m.ref with
  | error o => rfl
  | ok r =>
    cases harray : m.ref.isArray with
    | false => rfl
    | true =>
      obtain rfl := eq_pointer_of_isArray harray hr
      change _ = table.underlying declaration (.primitive .pointer) >>=
        ruleOf m.library declaration m.ref.isPointer isReturn
      rw [underlying_primitive]
      rfl

theorem followAliases_congr {unmet unmet' : List (String × String)} {r : ResolvedType}
    (h : ∀ e, ReflTransGen table.StandsFor r (.registered e) → e.type.variant = .aliasType →
      (e.identity ∉ unmet ↔ e.identity ∉ unmet')) :
    table.followAliases declaration unmet r = table.followAliases declaration unmet' r := by
  by_cases halias : r.IsAlias
  case neg =>
    rw [followAliases_value table declaration halias, followAliases_value table declaration halias]
  case pos =>
    cases r with
    | primitive p => cases halias
    | registered e =>
      have hsame := h e .refl halias
      by_cases hmem : e.identity ∈ unmet
      case neg =>
        rw [followAliases_met table declaration halias hmem,
          followAliases_met table declaration halias (hsame.1 hmem)]
      case pos =>
        have hmem' : e.identity ∈ unmet' := by
          by_contra hnot
          exact hsame.2 hnot hmem
        cases ht : e.type.aliasTarget? with
        | none =>
          rw [followAliases_missing table declaration halias hmem ht,
            followAliases_missing table declaration halias hmem' ht]
        | some t =>
          rw [followAliases_target hmem ht, followAliases_target hmem' ht]
          cases hr : table.resolveRef e.library declaration t with
          | error o => rfl
          | ok s =>
            apply followAliases_congr
            intro e' he' halias'
            have hstep : table.StandsFor (.registered e) s := .of_resolveRef ht hr
            rw [not_mem_otherThan, not_mem_otherThan, h e' (he'.head hstep) halias']
termination_by unmet.length
decreasing_by exact length_otherThan hmem

/-- An alias that does not lie on a cycle may be followed as if it had not been met. -/
theorem underlying_of_target (ht : e.type.aliasTarget? = some t) (hreturns : ¬ table.Returns e) :
    table.underlying declaration (.registered e) =
      table.resolveRef e.library declaration t >>= table.underlying declaration := by
  change table.followAliases declaration (e.identity :: table.identities) (.registered e) = _
  rw [followAliases_target List.mem_cons_self ht]
  cases hr : table.resolveRef e.library declaration t with
  | error o => rfl
  | ok s =>
    have hstep : table.StandsFor (.registered e) s := .of_resolveRef ht hr
    apply followAliases_congr
    intro e' he' halias
    have hchain : TransGen table.StandsFor (.registered e) (.registered e') :=
      TransGen.head' hstep he'
    have hmem : e'.identity ∈ table.identities := by
      obtain ⟨s', -, hs'⟩ := TransGen.tail'_iff.1 hchain
      exact hs'.declares.identity_mem
    have hother : e'.identity ≠ e.identity := fun hsame => hreturns ⟨e', hchain, halias, hsame⟩
    rw [not_mem_otherThan]
    constructor
    · rintro (hnot | hsame)
      · exact (hnot (List.mem_cons_of_mem _ hmem)).elim
      · exact (hother hsame).elim
    · intro hnot
      exact (hnot (List.mem_append_right _ hmem)).elim

theorem endOf_of_unfolds (h : ReflTransGen table.Unfolds m m') (hcycle : ¬ table.PassesCycle m m') :
    table.endOf declaration m = table.endOf declaration m' := by
  induction h using ReflTransGen.head_induction_on with
  | refl => rfl
  | @head m u hstep hrest ih =>
    have hrest' : ¬ table.PassesCycle u m' := by
      rintro ⟨v, e, hv, he, hend, hreturns⟩
      exact hcycle ⟨v, e, hv.head hstep, he, hend, hreturns⟩
    rw [← ih hrest']
    cases hstep with
    | @intro e t hm ht =>
      have hreturns : ¬ table.Returns e := fun hreturns =>
        hcycle ⟨m, e, .refl, hm, TransGen.head' (.intro hm ht) hrest, hreturns⟩
      rw [hm.endOf_eq, underlying_of_target ht hreturns]
      rfl

end Ends

section Cycles

theorem closesCycle_of_standsFor (hr : table.StandsFor (.registered e) s)
    (h : table.ClosesCycle declaration s
      (table.followAliases declaration (otherThan unmet e.identity) s)) :
    table.ClosesCycle declaration (.registered e)
      (table.followAliases declaration unmet (.registered e)) := by
  by_cases hmem : e.identity ∈ unmet
  case neg => exact ⟨e, .refl, followAliases_met table declaration hr.isAlias hmem⟩
  case pos =>
    obtain ⟨e', he', h⟩ := h
    refine ⟨e', he'.head hr, ?_⟩
    cases hr with
    | intro ht hr =>
      rw [followAliases_target hmem ht, hr declaration]
      exact h

theorem closesCycle_of_not_mem (h : ReflTransGen table.StandsFor r (.registered e))
    (halias : e.type.variant = .aliasType) (hmem : e.identity ∉ unmet) :
    table.ClosesCycle declaration r (table.followAliases declaration unmet r) := by
  induction h using ReflTransGen.head_induction_on generalizing unmet with
  | refl => exact ⟨e, .refl, followAliases_met table declaration halias hmem⟩
  | head hstep _ ih =>
    cases hstep with
    | intro ht hr =>
      apply closesCycle_of_standsFor (.intro ht hr)
      exact ih (not_mem_otherThan.2 (.inl hmem))

theorem closesCycle_of_returns (h : ReflTransGen table.StandsFor r (.registered e))
    (hreturns : table.Returns e) :
    table.ClosesCycle declaration r (table.followAliases declaration unmet r) := by
  induction h using ReflTransGen.head_induction_on generalizing unmet with
  | refl =>
    obtain ⟨e', hchain, halias, hsame⟩ := hreturns
    obtain ⟨s, hstep, hs⟩ := TransGen.head'_iff.1 hchain
    apply closesCycle_of_standsFor hstep
    exact closesCycle_of_not_mem hs halias (not_mem_otherThan.2 (.inr hsame))
  | head hstep _ ih =>
    cases hstep with
    | intro ht hr =>
      apply closesCycle_of_standsFor (.intro ht hr)
      exact ih

/-- Along a cycle every type leads back to the one where it was entered. -/
theorem reflTransGen_back (hcycle : TransGen table.StandsFor r r)
    (h : ReflTransGen table.StandsFor r s) : ReflTransGen table.StandsFor s r := by
  induction h with
  | refl => exact .refl
  | @tail b c _ hstep ih =>
    obtain ⟨c', hstep', hback⟩ := TransGen.head'_iff.1 (TransGen.trans_right ih hcycle)
    obtain rfl : c = c' := StandsFor.rightUnique table hstep hstep'
    exact hback

theorem exists_leadsTo_of_unfolds (h : ReflTransGen table.Unfolds m u) (hr : table.LeadsTo u r) :
    ∃ s, table.LeadsTo m s ∧ ReflTransGen table.StandsFor s r := by
  induction h using ReflTransGen.head_induction_on with
  | refl => exact ⟨r, hr, .refl⟩
  | head hstep _ ih =>
    obtain ⟨s, hs, hchain⟩ := ih
    cases hstep with
    | intro hm ht => exact ⟨_, hm, hchain.head (.intro ht hs)⟩

theorem exists_alias_of_unfolds (h : TransGen table.Unfolds u m')
    (hr : table.LeadsTo u (.registered e)) :
    ∃ e' t, ReflTransGen table.StandsFor (.registered e) (.registered e') ∧
      e'.type.aliasTarget? = some t ∧ m' = ⟨e'.library, t⟩ := by
  induction h with
  | single hstep =>
    cases hstep with
    | intro hu ht =>
      cases hr.unique hu
      exact ⟨_, _, .refl, ht, rfl⟩
  | tail _ hstep ih =>
    obtain ⟨e', t, hchain, ht, rfl⟩ := ih
    cases hstep with
    | intro hm ht' => exact ⟨_, _, hchain.tail (.intro ht hm), ht', rfl⟩

theorem LeadsTo.closesCycle (hr : table.LeadsTo m r)
    (h : ReflTransGen table.StandsFor r (.registered e)) (hreturns : table.Returns e) :
    table.ClosesCycle declaration r (table.ruleFor declaration isReturn m) := by
  obtain ⟨e', he', hend⟩ : table.ClosesCycle declaration r (table.underlying declaration r) :=
    closesCycle_of_returns h hreturns
  rw [ruleFor_eq, hr.endOf_eq, hend]
  exact ⟨e', he', rfl⟩

theorem closesCycle_start (h : table.PassesCycle m m') :
    ∃ r, table.LeadsTo m r ∧
      table.ClosesCycle declaration r (table.ruleFor declaration isReturn m) := by
  obtain ⟨u, e, hu, he, -, hreturns⟩ := h
  obtain ⟨r, hr, hchain⟩ := exists_leadsTo_of_unfolds hu he
  exact ⟨r, hr, hr.closesCycle hchain hreturns⟩

theorem closesCycle_end (hapart : table.TellsApart) (h : table.PassesCycle m m') :
    ∃ r, table.LeadsTo m' r ∧
      table.ClosesCycle declaration r (table.ruleFor declaration isReturn m') := by
  obtain ⟨u, e, -, he, hend, hreturns⟩ := h
  obtain ⟨e', t, hchain, ht, rfl⟩ := exists_alias_of_unfolds hend he
  have hcycle : TransGen table.StandsFor (.registered e) (.registered e) := by
    obtain ⟨e'', hback, -, hsame⟩ := hreturns
    obtain ⟨s, -, hlast⟩ := TransGen.tail'_iff.1 hback
    cases hapart e'' e hlast.declares (declares_of_resolveRef (he "")) hsame
    exact hback
  obtain ⟨s, hstep, hs⟩ := TransGen.head'_iff.1
    (TransGen.trans_right (reflTransGen_back hcycle hchain) hcycle)
  cases hstep with
  | intro ht' hr =>
    cases ht.symm.trans ht'
    exact ⟨s, hr, LeadsTo.closesCycle (m := ⟨e'.library, t⟩) hr hs hreturns⟩

end Cycles

section Rules

theorem ruleOf_of_not_isByValue {library : String} (h : ¬ s.IsByValue isReturn) (isPointer : Bool) :
    ruleOf library declaration isPointer isReturn s =
      ruleOf library declaration false isReturn s := by
  cases s with
  | primitive p =>
    cases p with
    | void =>
      cases isReturn with
      | true => exact (h (.inr ⟨rfl, rfl⟩)).elim
      | false => rfl
    | string | pointer | vaList => rfl
    | boolean | byte | short | int | long | float | double | gtype => exact (h (.inl rfl)).elim
  | registered e =>
    rw [ruleOf, ruleOf]
    cases hvariant : e.type.variant with
    | enumeration => exact (h hvariant).elim
    | _ => rfl

/-- Only the obstacle that a list of arguments is names the namespace. -/
theorem ruleOf_eq_or (hs : ¬ s.IsAlias) (library library' : String) (isPointer : Bool) :
    ruleOf library declaration isPointer isReturn s =
        ruleOf library' declaration isPointer isReturn s ∨
      s = .primitive .vaList := by
  cases s with
  | primitive p =>
    cases p with
    | vaList => exact .inr rfl
    | _ => exact .inl rfl
  | registered e =>
    left
    rw [ruleOf, ruleOf]
    cases hvariant : e.type.variant with
    | aliasType => exact (hs hvariant).elim
    | _ => rfl

theorem not_isByValue_of_endOf (h : table.endOf declaration m = .ok s)
    (hpointer : m.ref.isPointer = true) (hvalue : ¬ table.PointsToValue isReturn m) :
    ¬ s.IsByValue isReturn := by
  intro hs
  obtain ⟨r, hr, hend⟩ := Attempt.bind_eq_ok_iff.1 h
  exact hvalue ⟨hpointer, r, s, leadsTo_of_resolveRef hr, (end_of_underlying hend).1, hs⟩

theorem not_isAlias_of_endOf (h : table.endOf declaration m = .ok s) : ¬ s.IsAlias := by
  obtain ⟨r, -, hend⟩ := Attempt.bind_eq_ok_iff.1 h
  exact (end_of_underlying hend).2

theorem ruleFor_congr (h : table.endOf declaration m = table.endOf declaration m')
    (hpointer : m.ref.isPointer = false) (hvalue : ¬ table.PointsToValue isReturn m') :
    table.RulesAgree declaration isReturn m m' := by
  rw [RulesAgree, ruleFor_eq, ruleFor_eq, h, hpointer]
  cases hend : table.endOf declaration m' with
  | error o => exact .inl rfl
  | ok s =>
    have hsame : ruleOf m'.library declaration m'.ref.isPointer isReturn s =
        ruleOf m'.library declaration false isReturn s := by
      cases hpointer' : m'.ref.isPointer with
      | false => rfl
      | true => exact ruleOf_of_not_isByValue (not_isByValue_of_endOf hend hpointer' hvalue) true
    rcases ruleOf_eq_or (not_isAlias_of_endOf hend) m.library m'.library false with heq | rfl
    · exact .inl (heq.trans hsame.symm)
    · exact .inr ⟨rfl, rfl⟩

end Rules

/-- The value of an alias is passed as what the alias stands for, unless that is a pointer to a
value. If there is an obstacle instead, it is the same one, but a list of arguments is reported where
it is mentioned, and a cycle where it closes. -/
theorem rules_of_unfolds (table : SymbolTable) (declaration : String) (isReturn : Bool)
    {m m' : Mention} (hpointer : m.ref.isPointer = false) (h : TransGen table.Unfolds m m') :
    (¬ table.PassesCycle m m' → ¬ table.PointsToValue isReturn m' →
        table.RulesAgree declaration isReturn m m') ∧
      (table.PassesCycle m m' →
        (∃ r, table.LeadsTo m r ∧
          table.ClosesCycle declaration r (table.ruleFor declaration isReturn m)) ∧
        (table.TellsApart → ∃ r, table.LeadsTo m' r ∧
          table.ClosesCycle declaration r (table.ruleFor declaration isReturn m'))) := by
  constructor
  · intro hcycle hvalue
    exact ruleFor_congr (endOf_of_unfolds h.to_reflTransGen hcycle) hpointer hvalue
  · intro hcycle
    exact ⟨closesCycle_start hcycle, fun hapart => closesCycle_end hapart hcycle⟩

end SymbolTable

def TypeRef.named (name : String) : TypeRef := ⟨false, some name, none, none, none, none, false⟩

namespace SymbolTable

variable {table : SymbolTable} {m : Mention} {r : ResolvedType} {name : String}

def targetOf? (table : SymbolTable) (library name : String) : Option Mention :=
  (table.lookup? library name).bind fun e => e.type.aliasTarget?.map fun t => ⟨e.library, t⟩

theorem leadsTo_of_resolve (harray : m.ref.isArray = false) (hname : m.ref.name = some name)
    (h : table.resolve m.library "" name = .ok r) : table.LeadsTo m r := by
  have href : table.resolveRef m.library "" m.ref = .ok r := by
    rw [resolveRef, harray, if_neg Bool.false_ne_true, hname]
    exact h
  exact leadsTo_of_resolveRef href

theorem unfolds_of_targetOf? {m' : Mention} (harray : m.ref.isArray = false)
    (hname : m.ref.name = some name) (h : table.targetOf? m.library name = some m') :
    table.Unfolds m m' := by
  obtain ⟨e, he, h⟩ := Option.bind_eq_some_iff.1 h
  obtain ⟨t, ht, rfl⟩ := Option.map_eq_some_iff.1 h
  apply Unfolds.intro (leadsTo_of_resolve harray hname _) ht
  rw [resolve, he]

end SymbolTable

open SymbolTable in
theorem targets_aliasSource : ∃ r s, foreignAlias.repository = .ok r ∧
    aliasSource.repository = .ok s ∧
    let table := build [r, s] Options.default.naming
    ((table.targetOf? "X" "B").map fun m =>
        (m.library, m.ref.isArray, m.ref.name, m.ref.isPointer)) =
      some ("X", false, some "Y.S", false) ∧
    ((table.targetOf? "X" "Y.S").map fun m =>
        (m.library, m.ref.isArray, m.ref.name, m.ref.isPointer)) =
      some ("Y", false, some "utf8", true) ∧
    (table.lookup? "Y" "utf8").isNone ∧
    table.ruleFor "f" false ⟨"X", .named "B"⟩ = .ok .pointer ∧
    ∀ name ∈ ["Y.P", "Y.V", "Y.L"],
      ((table.targetOf? "X" name).map fun m =>
        decide (table.ruleFor "f" false ⟨"X", .named name⟩ = table.ruleFor "f" false m)) =
          some false := by
  rw [Source.repository, Source.repository, Source.root, Source.root, tokens_foreignAlias,
    tokens_aliasSource]
  exact ⟨_, _, rfl, rfl, by decide +kernel⟩

open SymbolTable in
theorem rules_of_aliasSource : ∃ r s, foreignAlias.repository = .ok r ∧
    aliasSource.repository = .ok s ∧
    let table := build [r, s] Options.default.naming
    ∃ m : Mention, TransGen table.Unfolds ⟨"X", .named "B"⟩ m ∧ m.library = "Y" ∧
      m.ref.name = some "utf8" ∧ m.ref.isPointer = true ∧
      table.ruleFor "f" false m = .ok .pointer := by
  obtain ⟨r, s, hr, hs, hfirst, hsecond, hnone, hrule, -⟩ := targets_aliasSource
  refine ⟨r, s, hr, hs, ?_⟩
  generalize build [r, s] Options.default.naming = table at hfirst hsecond hnone hrule ⊢
  obtain ⟨u, hu, hshape⟩ := Option.map_eq_some_iff.1 hfirst
  obtain ⟨hulibrary, huarray, huname, -⟩ : u.library = "X" ∧ u.ref.isArray = false ∧
      u.ref.name = some "Y.S" ∧ u.ref.isPointer = false := by
    simpa only [Prod.mk.injEq] using hshape
  obtain ⟨m, hm, hshape⟩ := Option.map_eq_some_iff.1 hsecond
  obtain ⟨hlibrary, harray, hname, hpointer⟩ : m.library = "Y" ∧ m.ref.isArray = false ∧
      m.ref.name = some "utf8" ∧ m.ref.isPointer = true := by
    simpa only [Prod.mk.injEq] using hshape
  have hstart : table.Unfolds ⟨"X", .named "B"⟩ u := unfolds_of_targetOf? rfl rfl hu
  have hnext : table.Unfolds u m := by
    apply unfolds_of_targetOf? huarray huname
    rw [hulibrary]
    exact hm
  have htext : table.LeadsTo m (.primitive .string) := by
    apply leadsTo_of_resolve harray hname
    have hprimitive : Primitive.ofName? "utf8" = some .string := by decide +kernel
    rw [resolve, hlibrary, Option.isNone_iff_eq_none.1 hnone, hprimitive]
  have hvalue : ¬ table.PointsToValue false m := by
    apply htext.not_pointsToValue id
    rintro (h | ⟨h, -⟩)
    · cases h
    · cases h
  have hrules := rules_of_unfolds table "f" false (m := ⟨"X", .named "B"⟩) rfl
    (.tail (.single hstart) hnext)
  have hcycle : ¬ table.PassesCycle ⟨"X", .named "B"⟩ m := by
    intro h
    obtain ⟨_, -, _, -, herror⟩ := (hrules.2 h).1
    cases hrule.symm.trans herror
  refine ⟨m, .tail (.single hstart) hnext, hlibrary, hname, hpointer, ?_⟩
  rcases hrules.1 hcycle hvalue with heq | ⟨herror, -⟩
  · exact heq.symm.trans hrule
  · cases hrule.symm.trans herror

open SymbolTable in
/-- The rule for an alias of a pointer is that for a value, a list of arguments is reported where it
is mentioned, and a cycle where it closes. -/
theorem exists_opaque_alias : ∃ r s, foreignAlias.repository = .ok r ∧
    aliasSource.repository = .ok s ∧
    let table := build [r, s] Options.default.naming
    ∀ name ∈ ["Y.P", "Y.V", "Y.L"], ∃ m : Mention, table.Unfolds ⟨"X", .named name⟩ m ∧
      (TypeRef.named name).isPointer = false ∧
      table.ruleFor "f" false ⟨"X", .named name⟩ ≠ table.ruleFor "f" false m := by
  obtain ⟨r, s, hr, hs, -, -, -, -, hrules⟩ := targets_aliasSource
  refine ⟨r, s, hr, hs, ?_⟩
  intro table name hname
  obtain ⟨m, hm, hdecide⟩ := Option.map_eq_some_iff.1 (hrules name hname)
  exact ⟨m, unfolds_of_targetOf? rfl rfl hm, rfl, of_decide_eq_false hdecide⟩

end GirBind
