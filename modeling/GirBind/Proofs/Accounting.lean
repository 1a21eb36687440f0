import GirBind.Proofs.Decided
import GirBind.Proofs.Derived
import GirBind.Proofs.SymbolTable

namespace GirBind

/-- Items in order, with the decisions that they lead to and what they leave out. -/
inductive Ledger {α : Type u} {δ : Type v}
    (Entry : α → List δ → List SkippedDeclaration → Prop) :
    List α → List δ → List SkippedDeclaration → Prop
  | nil : Ledger Entry [] [] []
  | cons {a : α} {l : List α} {first rest : List δ} {left more : List SkippedDeclaration}
    (ha : Entry a first left) (hl : Ledger Entry l rest more) :
    Ledger Entry (a :: l) (first ++ rest) (left ++ more)

/-- A declaration leads to one decision, or is skipped under its name for an error that does not end
the run. -/
inductive Outcome {α : Type u} {δ : Type v} (IsFor : α → δ → Prop) (name : α → String) :
    α → List δ → List SkippedDeclaration → Prop
  | decided {a : α} {d : δ} (h : IsFor a d) : Outcome IsFor name a [d] []
  | skipped {a : α} (e : Error) (h : e.isFatal = false) :
    Outcome IsFor name a [] [⟨name a, e.message⟩]

def MemberDecision.IsFor (n : Node) (d : MemberDecision) : Prop :=
  d.name = n.name ∧ CallableKind.ofKind? n.kind = some d.kind

/-- A registered type leads to one decision and the outcomes of all callables in it, or is skipped
with everything in it. -/
inductive TypeOutcome :
    String × RegisteredType → List TypeDecision → List SkippedDeclaration → Prop
  | decided {key : String} {t : RegisteredType} {d : TypeDecision}
    {skipped : List SkippedDeclaration} (hname : d.name = key) (hvariant : d.variant = t.variant)
    (hmembers : Ledger (Outcome MemberDecision.IsFor fun n => s!"{key}.{n.name}")
      (t.node.children.filter (·.kind.isCallable)) d.members skipped) :
    TypeOutcome (key, t) [d] skipped
  | skipped {key : String} {t : RegisteredType} (e : Error) (h : e.isFatal = false) :
    TypeOutcome (key, t) [] [⟨key, e.message⟩]

/-- Every declaration of a namespace has its outcome, and nothing else is skipped. -/
structure NamespaceDecision.Accounts (ns : Namespace) (d : NamespaceDecision) : Prop where
  name : d.name = ns.name
  declarations : ∃ types functions constants,
    Ledger TypeOutcome ns.types.entries d.types types ∧
    Ledger (Outcome MemberDecision.IsFor Node.name) ns.functions d.functions functions ∧
    Ledger (Outcome (fun n c => ConstantDecision.name c = n.name) Node.name) ns.constants
      d.constants constants ∧
    d.skipped = types ++ functions ++ constants

section

variable {α : Type u} {δ : Type v}

theorem decided_cons (x : Except SkippedDeclaration δ) (l : List (Except SkippedDeclaration δ)) :
    decided (x :: l) = decided [x] ++ decided l := by
  cases x with
  | error s => rfl
  | ok d => rfl

theorem refused_cons (x : Except SkippedDeclaration δ) (l : List (Except SkippedDeclaration δ)) :
    refused (x :: l) = refused [x] ++ refused l := by
  cases x with
  | error s => rfl
  | ok d => rfl

/-- What an attempt leads to, if an obstacle to it is noted under the name of the declaration. -/
theorem outcome_of_attempt {IsFor : α → δ → Prop} {name : α → String} {a : α}
    {x : Except Obstacle δ} (h : ∀ d, x = .ok d → IsFor a d) :
    Outcome IsFor name a (decided [x.mapError (SkippedDeclaration.of (name a))])
      (refused [x.mapError (SkippedDeclaration.of (name a))]) := by
  cases x with
  | error o => exact .skipped (.declaration o) rfl
  | ok d => exact .decided (h d rfl)

theorem ledger_of_attempts {Entry : α → List δ → List SkippedDeclaration → Prop} {l : List α}
    {f : α → Except SkippedDeclaration δ}
    (h : ∀ a ∈ l, Entry a (decided [f a]) (refused [f a])) :
    Ledger Entry l (decided (l.map f)) (refused (l.map f)) := by
  induction l with
  | nil => exact .nil
  | cons a l ih =>
    obtain ⟨ha, hl⟩ := List.forall_mem_cons.1 h
    rw [List.map_cons, decided_cons, refused_cons]
    exact .cons ha (ih hl)

end

theorem Callable.isSome_ofNode? (n : Node) : (ofNode? n).isSome = n.kind.isCallable := by
  rw [ofNode?, Option.isSome_map]
  cases n.kind <;> rfl

theorem ledger_of_callables {Entry : Node → List MemberDecision → List SkippedDeclaration → Prop}
    {ns : List Node} {f : Callable → Except SkippedDeclaration MemberDecision}
    (h : ∀ n ∈ ns, ∀ c, Callable.ofNode? n = some c → Entry n (decided [f c]) (refused [f c])) :
    Ledger Entry (ns.filter (·.kind.isCallable)) (decided ((ns.filterMap Callable.ofNode?).map f))
      (refused ((ns.filterMap Callable.ofNode?).map f)) := by
  induction ns with
  | nil => exact .nil
  | cons n ns ih =>
    obtain ⟨hn, hns⟩ := List.forall_mem_cons.1 h
    have hcallable := Callable.isSome_ofNode? n
    cases hc : Callable.ofNode? n with
    | none =>
      rw [hc] at hcallable
      rw [List.filter_cons_of_neg (p := fun n : Node => n.kind.isCallable)
        (Bool.eq_false_iff.1 hcallable.symm),
        List.filterMap_cons_none hc]
      exact ih hns
    | some c =>
      rw [hc] at hcallable
      rw [List.filter_cons_of_pos (p := fun n : Node => n.kind.isCallable) hcallable.symm,
        List.filterMap_cons_some hc, List.map_cons, decided_cons, refused_cons]
      exact .cons (hn c hc) (ih hns)

namespace BindingContext

variable {ctx : BindingContext} {floating : FloatingTable}

theorem isFor_of_bindCallable {n : Node} {c : Callable} (hc : Callable.ofNode? n = some c)
    {declaration : String} {owner : Option RegisteredType} {d : MemberDecision}
    (h : ctx.bindCallable declaration owner c = .ok d) : MemberDecision.IsFor n d := by
  obtain ⟨sig, -, rfl⟩ := bindCallable_eq_ok_iff.1 h
  obtain ⟨hkind, hname, -⟩ := Callable.ofNode?_eq_some hc
  exact ⟨hname, hkind⟩

theorem ledger_callables {ns : List Node} {IsFor : Node → MemberDecision → Prop}
    {owner : Option RegisteredType} (label : String → String)
    (h : ∀ n ∈ ns, ∀ c d, Callable.ofNode? n = some c →
      ctx.bindCallable (label c.name) owner c = .ok d → IsFor n d) :
    Ledger (Outcome IsFor fun n => label n.name) (ns.filter (·.kind.isCallable))
      (decided ((ns.filterMap Callable.ofNode?).map fun c =>
        (ctx.bindCallable (label c.name) owner c).mapError
          (SkippedDeclaration.of (label c.name))))
      (refused ((ns.filterMap Callable.ofNode?).map fun c =>
        (ctx.bindCallable (label c.name) owner c).mapError
          (SkippedDeclaration.of (label c.name)))) := by
  apply ledger_of_callables
  intro n hn c hc
  have hname := (Callable.ofNode?_eq_some hc).2.1
  rw [hname]
  refine @outcome_of_attempt _ _ IsFor (fun n => label n.name) n _ fun d hd => h n hn c d hc ?_
  rwa [hname]

theorem ledger_types
    {Entry : String × RegisteredType → List TypeDecision → List SkippedDeclaration → Prop}
    {entries : List (String × RegisteredType)} (hname : ∀ e ∈ entries, e.2.name = e.1)
    (hdecided : ∀ e ∈ entries, ∀ d skipped, ctx.bindType floating e.2 = .ok (d, skipped) →
      Entry e [d] skipped)
    (hskipped : ∀ e ∈ entries, ∀ o, Entry e [] [.of e.1 o]) :
    Ledger Entry entries
      ((decided ((entries.map Prod.snd).map fun t =>
        (ctx.bindType floating t).mapError (SkippedDeclaration.of t.name))).map Prod.fst)
      (((entries.map Prod.snd).map fun t =>
        (ctx.bindType floating t).mapError
          (SkippedDeclaration.of t.name)).flatMap skippedByType) := by
  induction entries with
  | nil => exact .nil
  | cons e entries ih =>
    obtain ⟨he, hname⟩ := List.forall_mem_cons.1 hname
    obtain ⟨hd, hdecided⟩ := List.forall_mem_cons.1 hdecided
    obtain ⟨hs, hskipped⟩ := List.forall_mem_cons.1 hskipped
    rw [List.map_cons, List.map_cons, decided_cons, List.map_append, List.flatMap_cons]
    refine .cons ?_ (ih hname hdecided hskipped)
    -- what is left out of a type is noted along with its decision, never with an obstacle to it
    cases hb : ctx.bindType floating e.2 with
    | error o =>
      rw [he]
      exact hs o
    | ok result => exact hd result.1 result.2 hb

theorem ledger_constants {ns : List Node} {IsFor : Node → ConstantDecision → Prop}
    (h : ∀ n ∈ ns, ∀ d, ctx.bindConstant n = .ok d → IsFor n d) :
    Ledger (Outcome IsFor Node.name) ns
      (decided (ns.map fun n => (ctx.bindConstant n).mapError (SkippedDeclaration.of n.name)))
      (refused (ns.map fun n => (ctx.bindConstant n).mapError (SkippedDeclaration.of n.name))) := by
  apply ledger_of_attempts
  intro n hn
  exact outcome_of_attempt (a := n) (h n hn)

theorem bindNamespace_accounts (ctx : BindingContext) (floating : FloatingTable)
    (h : ctx.library.IsFiled) :
    (ctx.bindNamespace floating).Accounts ctx.library := by
  have hfunctions : ctx.library.functions.filter (·.kind.isCallable) = ctx.library.functions := by
    apply List.filter_eq_self.2
    intro n hn
    rw [(h.functions n hn).1]
    rfl
  refine ⟨rfl, _, _, _, ledger_types (fun e he => h.type_name he) ?_ ?_, ?_, ?_, rfl⟩
  · intro ⟨key, t⟩ he d skipped hd
    obtain rfl : t.name = key := h.type_name he
    obtain ⟨_, _, _, _, -, -, -, -, rfl, rfl⟩ := bindType_eq_ok_iff.1 hd
    exact .decided rfl rfl (ledger_callables (fun name => s!"{t.name}.{name}") fun n _ c d hc =>
      isFor_of_bindCallable hc)
  · intro ⟨key, t⟩ _ o
    exact .skipped (.declaration o) rfl
  · rw [← hfunctions]
    exact ledger_callables id fun n _ c d hc => isFor_of_bindCallable hc
  · exact ledger_constants fun n _ d hd => (bindConstant_eq_ok hd).1

end BindingContext

/-- Nothing that documents and edits lead to makes a run fail, and all that is declared is accounted
for, namespace by namespace. -/
theorem accounts_of_compileRepositories (o : Options) {rs : List Repository}
    (hrs : ∀ r ∈ rs, r.Derived) (hnames : (rs.map (·.library.name)).Nodup) :
    List.Forall₂ (fun r d => NamespaceDecision.Accounts r.library d) rs
      (compileRepositories o rs).1 ∧
    ∀ sources applied, buildRepositories o sources = .ok (rs, applied) →
      ∃ stats, compileSources o sources = .ok ((compileRepositories o rs).1, stats) := by
  constructor
  · change List.Forall₂ _ rs (SymbolTable.bind _ _)
    rw [SymbolTable.bind_build hnames, List.forall₂_map_right_iff, List.forall₂_same]
    intro r hr
    exact BindingContext.bindNamespace_accounts ⟨.build rs o.naming, r.library⟩ _
      (hrs r hr).isFiled
  · intro sources applied hbuild
    exact ⟨_, Attempt.bind_eq_ok_iff.2 ⟨(rs, applied), hbuild, rfl⟩⟩

def partlyResolvedSource : Source :=
  ⟨"a", .all, "<repository><namespace name='X'><class name='A' parent='N'><method name='m'/></class>
<class name='B'><method name='m'/><method name='k'><return-value><type name='N'/></return-value>
</method></class></namespace></repository>"⟩

set_option maxRecDepth 2000 in
theorem tokens_partlyResolvedSource : Markup.tokens partlyResolvedSource.content = .ok [
    ⟨.startTag "repository" [] false, ⟨1, 1⟩⟩,
    ⟨.startTag "namespace" [("name", "X")] false, ⟨1, 13⟩⟩,
    ⟨.startTag "class" [("name", "A"), ("parent", "N")] false, ⟨1, 33⟩⟩,
    ⟨.startTag "method" [("name", "m")] true, ⟨1, 60⟩⟩, ⟨.endTag "class", ⟨1, 78⟩⟩,
    ⟨.text "\n", ⟨1, 86⟩⟩, ⟨.startTag "class" [("name", "B")] false, ⟨2, 1⟩⟩,
    ⟨.startTag "method" [("name", "m")] true, ⟨2, 17⟩⟩,
    ⟨.startTag "method" [("name", "k")] false, ⟨2, 35⟩⟩,
    ⟨.startTag "return-value" [] false, ⟨2, 52⟩⟩,
    ⟨.startTag "type" [("name", "N")] true, ⟨2, 66⟩⟩, ⟨.endTag "return-value", ⟨2, 82⟩⟩,
    ⟨.text "\n", ⟨2, 97⟩⟩, ⟨.endTag "method", ⟨3, 1⟩⟩, ⟨.endTag "class", ⟨3, 10⟩⟩,
    ⟨.endTag "namespace", ⟨3, 18⟩⟩, ⟨.endTag "repository", ⟨3, 30⟩⟩, ⟨.endOfInput, ⟨3, 43⟩⟩] :=
  (Markup.tokens_ofList _).trans (Attempt.toOption_eq_some_iff.1 (by decide +kernel))

theorem accounts_of_partlyResolvedSource : ∃ r d, partlyResolvedSource.repository = .ok r ∧
    (compileRepositories .default [r]).1 = [d] ∧ NamespaceDecision.Accounts r.library d ∧
    d.types.map TypeDecision.name = ["B"] ∧
    d.skipped.map SkippedDeclaration.name = ["A", "B.k"] := by
  obtain ⟨r, hr, htypes, hskipped⟩ : ∃ r, partlyResolvedSource.repository = .ok r ∧
      (compileRepositories .default [r]).1.map (·.types.map TypeDecision.name) = [["B"]] ∧
      (compileRepositories .default [r]).1.map (·.skipped.map SkippedDeclaration.name) =
        [["A", "B.k"]] := by
    rw [Source.repository, Source.root, tokens_partlyResolvedSource]
    exact ⟨_, rfl, by decide +kernel, by decide +kernel⟩
  have hderived : ∀ s ∈ [r], s.Derived := List.forall_mem_singleton.2 (.read hr)
  obtain ⟨haccounts, -⟩ := accounts_of_compileRepositories .default hderived
    (List.nodup_singleton r.library.name)
  obtain ⟨d, ds, haccounts, hnone, hd⟩ := List.forall₂_cons_left_iff.1 haccounts
  obtain rfl := List.forall₂_nil_left_iff.1 hnone
  rw [hd] at htypes hskipped
  exact ⟨r, d, hr, hd, haccounts, (List.cons.inj htypes).1, (List.cons.inj hskipped).1⟩

end GirBind
