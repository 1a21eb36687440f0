import GirBind.Proofs.Closure
import GirBind.Proofs.DiscoveryOrder

namespace GirBind

namespace Callable

def javaName (owner : Option RegisteredType) (c : Callable) : String :=
  c.visibleName owner (BindingForm.of owner c)

/-- A callable that takes the place of another one of its kind. Nothing else is said about either
name, nothing suppresses the new one, and neither is the primary constructor. -/
structure StandsInFor (e c : Callable) : Prop where
  kind : e.kind = c.kind
  target : c.shadowedBy = some e.name
  shadows : e.shadows = some c.name
  named : c.shadows = none ∧ ∀ name, c.movedTo = some name → isQualified name = true
  kept : e.shadowedBy = none ∧ e.movedTo = none ∧ e.introspectable = true
  secondary : e.kind = .constructor → e.name ≠ "new" ∧ c.name ≠ "new"

variable {owner : Option RegisteredType} {c e : Callable}

theorem StandsInFor.publicName (h : e.StandsInFor c) : e.publicName = c.publicName := by
  obtain ⟨hshadows, hmoved⟩ := h.named
  have hnone : c.movedTo.filter (fun target => !isQualified target) = none := by
    rw [Option.filter_eq_none_iff]
    intro name hname
    rw [hmoved name hname]
    exact Bool.false_ne_true
  rw [Callable.publicName, Callable.publicName, hnone, h.kept.2.1, h.shadows, hshadows]
  rfl

theorem StandsInFor.bindingForm (h : e.StandsInFor c) (owner : Option RegisteredType) :
    BindingForm.of owner e = BindingForm.of owner c := by
  unfold BindingForm.of
  rw [h.kind]
  split
  case h_1 => rfl
  case h_2 | h_3 => rfl
  case h_4 kind t _ _ =>
    by_cases hnew : c.kind = .constructor
    · obtain ⟨he, hc⟩ := h.secondary (h.kind.trans hnew)
      rw [if_neg he, if_neg hc]
    · rw [if_neg hnew, if_neg hnew]

theorem StandsInFor.javaName (h : e.StandsInFor c) (owner : Option RegisteredType) :
    e.javaName owner = c.javaName owner := by
  unfold Callable.javaName visibleName
  rw [h.bindingForm, h.publicName, h.kind]

end Callable

theorem BindingForm.of_eq_constructor {owner : Option RegisteredType} {c : Callable}
    (h : BindingForm.of owner c = .constructor) : c.kind = .constructor ∧ c.name = "new" := by
  unfold BindingForm.of at h
  split at h
  case h_1 | h_2 | h_3 => cases h
  case h_4 =>
    split at h
    case isTrue => cases h
    case isFalse =>
      split at h
      case isTrue hkind =>
        split at h
        case isTrue hname => exact ⟨hkind, hname⟩
        case isFalse => cases h
      case isFalse => cases h

namespace BindingContext

variable {ctx : BindingContext} {owner : Option RegisteredType} {label : Callable → String}
  {cs : List Callable} {ds : List MemberDecision}

theorem suppression?_of_standsInFor {e c : Callable} (h : e.StandsInFor c)
    (owner : Option RegisteredType) : suppression? owner e = none := by
  obtain ⟨hshadowed, hmoved, hintrospectable⟩ := h.kept
  have hform : BindingForm.of owner e ≠ .constructor := by
    intro hform
    obtain ⟨hkind, hname⟩ := BindingForm.of_eq_constructor hform
    exact (h.secondary hkind).1 hname
  rw [suppression?, Suppression.of?, hshadowed, hmoved, hintrospectable]
  have hnone : ¬ (BindingForm.of owner e = .constructor ∧ e.deprecated = true) :=
    fun hdeprecated => hform hdeprecated.1
  exact if_neg hnone

theorem suppression?_eq_shadowedBy_iff {c : Callable} {target : String} :
    suppression? owner c = some (.shadowedBy target) ↔ c.shadowedBy = some target := by
  rw [suppression?, Suppression.of?]
  split
  case h_1 name hname => rw [hname, Option.some.injEq, Suppression.shadowedBy.injEq,
    Option.some.injEq]
  case h_2 hnone =>
    rw [hnone]
    refine ⟨fun h => ?_, fun h => by cases h⟩
    split at h
    case h_1 => cases h
    case h_2 =>
      split at h
      case isTrue => cases h
      case isFalse =>
        split at h
        case isTrue => cases h
        case isFalse => cases h

def IsBound (ctx : BindingContext) (label : String) (owner : Option RegisteredType)
    (c : Callable) : Prop :=
  suppression? owner c = none ∧ ∃ sig, ctx.signature label owner c = .ok sig

/-- What becomes of the shadowed callables of one owner. They are suppressed for what they say
alone, and replaced as far as the callable that they name gets a binding under their name. -/
structure HandlesShadowing (ctx : BindingContext) (owner : Option RegisteredType)
    (label : Callable → String) (cs : List Callable) (ds : List MemberDecision) : Prop where
  suppressed : ∀ name target java,
    (∃ d ∈ ds, d.name = name ∧ d.suppressed = some (.shadowedBy target) ∧ d.visibleName = java) ↔
      ∃ c ∈ cs, c.name = name ∧ c.shadowedBy = some target ∧ c.javaName owner = java
  replaced : ∀ target java,
    (∃ d ∈ ds, d.name = target ∧ d.suppressed = none ∧ d.visibleName = java) ↔
      ∃ c ∈ cs, c.name = target ∧ ctx.IsBound (label c) owner c ∧ c.javaName owner = java
  standIn : ∀ c ∈ cs, ∀ e ∈ cs, e.StandsInFor c →
    e.IsPassable ctx.table ctx.library.name →
    ∃ d ∈ ds, d.name = e.name ∧ d.suppressed = none ∧ d.visibleName = c.javaName owner

theorem bindCallable_eq_ok {c : Callable} {name : String} {d : MemberDecision}
    (h : ctx.bindCallable name owner c = .ok d) :
    d.name = c.name ∧ d.suppressed = suppression? owner c ∧ d.visibleName = c.javaName owner := by
  obtain ⟨sig, -, rfl⟩ := bindCallable_eq_ok_iff.1 h
  exact ⟨rfl, rfl, rfl⟩

theorem exists_bindCallable_of_suppressed {c : Callable} (name : String)
    (h : (suppression? owner c).isSome = true) : ∃ d, ctx.bindCallable name owner c = .ok d :=
  ⟨_, bindCallable_eq_ok_iff.2 ⟨.none, if_pos h, rfl⟩⟩

theorem exists_bindCallable_iff_isBound {c : Callable} {name : String} :
    (∃ d, ctx.bindCallable name owner c = .ok d ∧ d.suppressed = none) ↔
      ctx.IsBound name owner c := by
  constructor
  · rintro ⟨d, hd, hnone⟩
    obtain ⟨sig, hsig, rfl⟩ := bindCallable_eq_ok_iff.1 hd
    have hnone : suppression? owner c = none := hnone
    rw [boundSignature, hnone] at hsig
    exact ⟨hnone, sig, hsig⟩
  · rintro ⟨hnone, sig, hsig⟩
    refine ⟨ctx.memberDecision owner c sig, bindCallable_eq_ok_iff.2 ⟨sig, ?_, rfl⟩, hnone⟩
    rw [boundSignature, hnone]
    exact hsig

theorem handlesShadowing (h : ∀ d, d ∈ ds ↔ ∃ c ∈ cs, ctx.bindCallable (label c) owner c = .ok d) :
    ctx.HandlesShadowing owner label cs ds := by
  have hreplaced : ∀ target java,
      (∃ d ∈ ds, d.name = target ∧ d.suppressed = none ∧ d.visibleName = java) ↔
        ∃ c ∈ cs, c.name = target ∧ ctx.IsBound (label c) owner c ∧ c.javaName owner = java := by
    intro target java
    constructor
    · rintro ⟨d, hd, rfl, hnone, rfl⟩
      obtain ⟨c, hc, hd⟩ := (h d).1 hd
      obtain ⟨hname, -, hjava⟩ := bindCallable_eq_ok hd
      exact ⟨c, hc, hname.symm, exists_bindCallable_iff_isBound.1 ⟨d, hd, hnone⟩, hjava.symm⟩
    · rintro ⟨c, hc, rfl, hbound, rfl⟩
      obtain ⟨d, hd, hnone⟩ := exists_bindCallable_iff_isBound.2 hbound
      obtain ⟨hname, -, hjava⟩ := bindCallable_eq_ok hd
      exact ⟨d, (h d).2 ⟨c, hc, hd⟩, hname, hnone, hjava⟩
  refine ⟨?_, hreplaced, ?_⟩
  · intro name target java
    constructor
    · rintro ⟨d, hd, rfl, hsuppressed, rfl⟩
      obtain ⟨c, hc, hd⟩ := (h d).1 hd
      obtain ⟨hname, hs, hjava⟩ := bindCallable_eq_ok hd
      rw [hs, suppression?_eq_shadowedBy_iff] at hsuppressed
      exact ⟨c, hc, hname.symm, hsuppressed, hjava.symm⟩
    · rintro ⟨c, hc, rfl, hshadowed, rfl⟩
      have hs : suppression? owner c = some (.shadowedBy target) :=
        suppression?_eq_shadowedBy_iff.2 hshadowed
      obtain ⟨d, hd⟩ : ∃ d, ctx.bindCallable (label c) owner c = .ok d :=
        exists_bindCallable_of_suppressed _ (Option.isSome_of_eq_some hs)
      obtain ⟨hname, hd', hjava⟩ := bindCallable_eq_ok hd
      exact ⟨d, (h d).2 ⟨c, hc, hd⟩, hname, hd'.trans hs, hjava⟩
  · intro c hc e he hstands hpassable
    refine (hreplaced e.name (c.javaName owner)).2 ⟨e, he, rfl, ?_, hstands.javaName owner⟩
    exact ⟨suppression?_of_standsInFor hstands owner, signature_isOk hpassable⟩

structure DecidesShadowing (ctx : BindingContext) (d : NamespaceDecision) : Prop where
  types : ∀ t ∈ d.types, ∃ u ∈ ctx.library.types.values, t.name = u.name ∧
    ctx.HandlesShadowing (some u) (fun c => s!"{u.name}.{c.name}") u.callables t.members
  functions : ctx.HandlesShadowing none Callable.name
    (ctx.library.functions.filterMap Callable.ofNode?) d.functions

theorem decidesShadowing (ctx : BindingContext) (floating : FloatingTable) :
    ctx.DecidesShadowing (ctx.bindNamespace floating) where
  types t ht := by
    obtain ⟨u, hu, skipped, hd⟩ := mem_types.1 ht
    obtain ⟨_, _, _, _, -, -, -, -, rfl, -⟩ := bindType_eq_ok_iff.1 hd
    refine ⟨u, hu, rfl, handlesShadowing fun d => ?_⟩
    change d ∈ decided (ctx.memberAttempts u) ↔ _
    rw [mem_decided, memberAttempts, List.mem_map]
    exact exists_congr fun c => and_congr_right fun _ => mapError_eq_ok_iff
  functions := by
    apply handlesShadowing
    intro d
    change d ∈ decided ctx.functionAttempts ↔ _
    rw [mem_decided, functionAttempts, List.mem_map]
    exact exists_congr fun c => and_congr_right fun _ => mapError_eq_ok_iff

end BindingContext

/-- In every run a shadowed callable is suppressed for what it says alone. It is replaced exactly if
its owner also declares the callable that it names, and that one gets a binding under the same
Java name. A proper stand-in whose types can be passed always does. -/
theorem shadowing_of_compileSources {o : Options} {sources : List Source}
    {ds : List NamespaceDecision} {stats : Statistics}
    (h : compileSources o sources = .ok (ds, stats)) :
    ∃ rs applied, buildRepositories o sources = .ok (rs, applied) ∧
      List.Forall₂ (fun r d =>
        BindingContext.DecidesShadowing ⟨.build rs o.naming, r.library⟩ d) rs ds := by
  obtain ⟨_, merged, built, applied, _, hmerged, hedit, hbuild, rfl, -⟩ :=
    exists_of_compileSources h
  refine ⟨built, applied, hbuild, ?_⟩
  have hnodup : (built.map (·.library.name)).Nodup := by
    have hnames := Patch.names_applyAll o.allPatches merged
    rw [hedit] at hnames
    exact hnames ▸ Repository.nodup_names_of_mergeAll hmerged
  change List.Forall₂ _ built (SymbolTable.bind _ _)
  rw [SymbolTable.bind_build hnodup, List.forall₂_map_right_iff, List.forall₂_same]
  exact fun r _ => BindingContext.decidesShadowing ⟨.build built o.naming, r.library⟩ _

/-- A document with two shadowed methods. What is to replace the second one cannot be called from
other languages. -/
def shadowingSource : Source :=
  ⟨"a", .all, "<repository><namespace name='X'><class name='A'>
<method name='hide' shadowed-by='hide_full'/><method name='hide_full' shadows='hide'/>
<method name='show' shadowed-by='show_full'/>
<method name='show_full' shadows='show' introspectable='0'/></class></namespace></repository>"⟩

set_option maxRecDepth 2000 in
theorem tokens_shadowingSource : Markup.tokens shadowingSource.content = .ok [
    ⟨.startTag "repository" [] false, ⟨1, 1⟩⟩,
    ⟨.startTag "namespace" [("name", "X")] false, ⟨1, 13⟩⟩,
    ⟨.startTag "class" [("name", "A")] false, ⟨1, 33⟩⟩, ⟨.text "\n", ⟨1, 49⟩⟩,
    ⟨.startTag "method" [("name", "hide"), ("shadowed-by", "hide_full")] true, ⟨2, 1⟩⟩,
    ⟨.startTag "method" [("name", "hide_full"), ("shadows", "hide")] true, ⟨2, 46⟩⟩,
    ⟨.text "\n", ⟨2, 87⟩⟩,
    ⟨.startTag "method" [("name", "show"), ("shadowed-by", "show_full")] true, ⟨3, 1⟩⟩,
    ⟨.text "\n", ⟨3, 46⟩⟩,
    ⟨.startTag "method"
      [("name", "show_full"), ("shadows", "show"), ("introspectable", "0")] true, ⟨4, 1⟩⟩,
    ⟨.endTag "class", ⟨4, 61⟩⟩, ⟨.endTag "namespace", ⟨4, 69⟩⟩, ⟨.endTag "repository", ⟨4, 81⟩⟩,
    ⟨.endOfInput, ⟨4, 94⟩⟩] :=
  (Markup.tokens_ofList _).trans (Attempt.toOption_eq_some_iff.1 (by decide +kernel))

theorem members_of_shadowingSource : ∃ ds stats,
    compileSources .default [shadowingSource] = .ok (ds, stats) ∧
    (ds.flatMap (·.types)).map (·.members.map fun m => (m.name, m.visibleName, m.suppressed)) = [[
      ("hide", "hide", some (.shadowedBy "hide_full")), ("hide_full", "hide", none),
      ("show", "show", some (.shadowedBy "show_full")),
      ("show_full", "show", some .notIntrospectable)]] := by
  have hrun : (compileSources .default [shadowingSource]).toOption.map (fun out =>
      (out.1.flatMap (·.types)).map
        (·.members.map fun m => (m.name, m.visibleName, m.suppressed))) = some [[
          ("hide", "hide", some (.shadowedBy "hide_full")), ("hide_full", "hide", none),
          ("show", "show", some (.shadowedBy "show_full")),
          ("show_full", "show", some .notIntrospectable)]] := by
    rw [compileSources, buildRepositories, readAll, List.mapM_cons, Source.repository, Source.root,
      tokens_shadowingSource]
    decide +kernel
  obtain ⟨⟨ds, stats⟩, hcompile, hds⟩ := Option.map_eq_some_iff.1 hrun
  exact ⟨ds, stats, Attempt.toOption_eq_some_iff.1 hcompile, hds⟩

theorem shadowing_of_shadowingSource : ∃ ds stats rs applied,
    compileSources .default [shadowingSource] = .ok (ds, stats) ∧
    buildRepositories .default [shadowingSource] = .ok (rs, applied) ∧
    List.Forall₂ (fun r d => BindingContext.DecidesShadowing
      ⟨.build rs Options.default.naming, r.library⟩ d) rs ds ∧
    (ds.flatMap (·.types)).map (·.members.map fun m => (m.name, m.visibleName, m.suppressed)) = [[
      ("hide", "hide", some (.shadowedBy "hide_full")), ("hide_full", "hide", none),
      ("show", "show", some (.shadowedBy "show_full")),
      ("show_full", "show", some .notIntrospectable)]] := by
  obtain ⟨ds, stats, hcompile, hmembers⟩ := members_of_shadowingSource
  obtain ⟨rs, applied, hbuild, hall⟩ := shadowing_of_compileSources hcompile
  exact ⟨ds, stats, rs, applied, hcompile, hbuild, hall, hmembers⟩

/-- The public name of a shadowed callable can be lost. -/
theorem exists_unreplaced : ¬ ∀ (o : Options) (sources : List Source)
    (ds : List NamespaceDecision) (stats : Statistics),
    compileSources o sources = .ok (ds, stats) → ∀ d ∈ ds, ∀ t ∈ d.types, ∀ m ∈ t.members,
      ∀ target, m.suppressed = some (.shadowedBy target) →
        ∃ e ∈ t.members, e.name = target ∧ e.suppressed = none ∧
          e.visibleName = m.visibleName := by
  intro hall
  obtain ⟨ds, stats, hcompile, hmembers⟩ := members_of_shadowingSource
  obtain ⟨t, ht, hmembers⟩ := List.map_eq_singleton_iff.1 hmembers
  obtain ⟨d, hd, htd⟩ := List.mem_flatMap.1 (ht ▸ List.mem_singleton_self t)
  have hshow : ("show", "show", some (Suppression.shadowedBy "show_full")) ∈
      t.members.map fun m => (m.name, m.visibleName, m.suppressed) := by
    rw [hmembers]
    decide
  obtain ⟨m, hm, hshow⟩ := List.mem_map.1 hshow
  simp only [Prod.mk.injEq] at hshow
  obtain ⟨-, -, hsuppressed⟩ := hshow
  obtain ⟨e, he, hname, hnone, -⟩ := hall .default _ ds stats hcompile d hd t htd m hm _ hsuppressed
  have hentry : (e.name, e.visibleName, e.suppressed) ∈
      t.members.map fun m => (m.name, m.visibleName, m.suppressed) := List.mem_map_of_mem he
  rw [hmembers, hname, hnone] at hentry
  simp only [List.mem_cons, List.not_mem_nil, Prod.mk.injEq, reduceCtorEq, and_false, or_false,
    and_true, false_or] at hentry
  exact absurd hentry.1 (by decide)

end GirBind
