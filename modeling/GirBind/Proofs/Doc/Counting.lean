import Mathlib
import GirBind.Doc.Javadoc

namespace GirBind

abbrev Counting : Type → Type := StateM Nat

/-- The computation yields a result and adds to the count, whatever it starts from. -/
def Counting.Adds {α : Type} (x : Counting α) (a : α) (k : Nat) : Prop :=
  ∀ n, x.run n = (a, n + k)

namespace Counting.Adds

variable {α β : Type}

theorem pure (a : α) : Adds (Pure.pure a) a 0 := fun _ => rfl

theorem bind {x : Counting α} {f : α → Counting β} {a : α} {b : β} {j k : Nat} (hx : Adds x a j)
    (hf : Adds (f a) b k) : Adds (x >>= f) b (j + k) := by
  intro n
  change (f (x.run n).1).run (x.run n).2 = _
  rw [hx n, ← Nat.add_assoc]
  exact hf (n + j)

theorem map {x : Counting α} {a : α} {k : Nat} (hx : Adds x a k) (g : α → β) :
    Adds (g <$> x) (g a) k := by
  intro n
  change (g (x.run n).1, (x.run n).2) = _
  rw [hx n]

theorem yield {x : Counting α} {a : α} {k : Nat} (hx : Adds x a k) (g : α → β) :
    Adds (x >>= fun a => Pure.pure (g a)) (g a) k :=
  hx.map g

variable {f : α → Counting β} {g : α → β} {w : β → Nat}

theorem listMapM (h : ∀ a, Adds (f a) (g a) (w (g a))) (l : List α) :
    Adds (l.mapM f) (l.map g) (((l.map g).map w).sum) := by
  induction l with
  | nil => exact pure []
  | cons a l ih =>
    rw [List.mapM_cons]
    exact (h a).bind (ih.yield _)

theorem optionMapM (h : ∀ a, Adds (f a) (g a) (w (g a))) (o : Option α) :
    Adds (o.mapM f) (o.map g) ((o.map g).elim 0 w) := by
  cases o with
  | none => exact pure none
  | some a => exact (h a).map some

end Counting.Adds

theorem sum_map_filterMap {α β : Type} (h : α → Option β) (w : β → Nat) (l : List α) :
    ((l.filterMap h).map w).sum = (l.map fun a => (h a).elim 0 w).sum := by
  induction l with
  | nil => rfl
  | cons a l ih =>
    rw [List.map_cons, List.sum_cons, ← ih]
    cases ha : h a with
    | none =>
      rw [List.filterMap_cons_none ha]
      exact (Nat.zero_add _).symm
    | some b =>
      rw [List.filterMap_cons_some ha, List.map_cons, List.sum_cons]
      rfl

theorem sum_map_toList {α : Type} (w : α → Nat) (o : Option α) :
    (o.toList.map w).sum = o.elim 0 w := by
  cases o with
  | none => rfl
  | some a => exact List.sum_singleton

namespace Doc

open Counting (Adds)

def Entry.misses (e : Entry) : Nat := e.body.misses

def missesOf (doc : Option Converted) : Nat := doc.elim 0 Converted.misses

theorem misses_comment (entries : List Entry) :
    (comment entries).misses = (entries.map Entry.misses).sum := by
  rw [List.sum_eq_foldl, List.foldl_map]
  rfl

namespace Context

variable (ctx : Context)

/-- Converts a text, and counts the references in it that led nowhere. -/
def countedConvert (text : String) : Counting Converted := do
  let converted := convert ctx text
  modify (· + converted.misses)
  return converted

def countedEntry (tag : Option String) (doc : String) : Counting Entry := do
  return ⟨tag, ← ctx.countedConvert doc⟩

def countedNodeComment (n : Node) : Counting (Option Converted) :=
  n.doc?.mapM fun doc => do
    return comment [← ctx.countedEntry none doc]

def countedTypeComment (t : RegisteredType) : Counting (Option Converted) :=
  t.node.doc?.mapM fun doc => do
    let first ← ctx.countedEntry none doc
    return comment (first ::
      (t.node.version?.map fun v => ⟨some "@version", .ofText v⟩ : Option Entry).toList)

def countedParameterEntries (c : Callable) : Counting (List Entry) := do
  let hidden := Parameter.hiddenIndexes c.parameters
  let entries ← c.parameters.zipIdx.mapM fun (p, i) =>
    if hidden.contains i then
      return none
    else
      p.doc.mapM fun doc =>
        let name := if p.isVariadic then "varargs" else Java.memberName (p.name.getD "")
        ctx.countedEntry (some s!"@param {name}") doc
  return entries.filterMap id

def countedReturnEntry (c : Callable) (use : CallableUse) : Counting (List Entry) :=
  if use.isPrimary then
    return []
  else do
    let entry ← (c.returnValue.bind Parameter.doc).mapM (ctx.countedEntry (some "@return"))
    return entry.toList

def countedDeprecatedEntry (c : Callable) : Counting (List Entry) :=
  if c.deprecated then do
    let entry ← c.docDeprecated.mapM (ctx.countedEntry (some "@deprecated"))
    return entry.toList
  else
    return []

def countedCallEntries (c : Callable) (use : CallableUse) : Counting (List Entry) :=
  if c.kind = .signal ∨ c.kind = .callback then
    return []
  else do
    let parameters ← ctx.countedParameterEntries c
    let result ← ctx.countedReturnEntry c use
    return parameters ++ result ++ throwsEntries c use

def countedCallableComment (c : Callable) (use : CallableUse) : Counting (Option Converted) :=
  c.doc.mapM fun doc => do
    let first ← ctx.countedEntry none doc
    let plain ← ctx.countedCallEntries c use
    let signal := if use.isSignal && c.kind == .signal then signalEntries c else []
    let deprecated ← ctx.countedDeprecatedEntry c
    return comment (first :: (plain ++ signal ++ deprecated))

variable {ctx}

theorem adds_convert (text : String) :
    Adds (ctx.countedConvert text) (convert ctx text) (convert ctx text).misses := fun _ => rfl

theorem adds_entry (tag : Option String) (doc : String) :
    Adds (ctx.countedEntry tag doc) (ctx.entry tag doc) (ctx.entry tag doc).misses :=
  (adds_convert doc).yield _

theorem adds_nodeComment (n : Node) :
    Adds (ctx.countedNodeComment n) (ctx.nodeComment n)
      (missesOf (ctx.nodeComment n)) := by
  apply Adds.optionMapM
  intro doc
  rw [misses_comment, List.map_singleton, List.sum_singleton]
  exact (adds_entry none doc).yield _

theorem adds_typeComment (t : RegisteredType) :
    Adds (ctx.countedTypeComment t) (ctx.typeComment t)
      (missesOf (ctx.typeComment t)) := by
  apply Adds.optionMapM
  intro doc
  -- a version is not documentation, so nothing in it can be missed
  have hversion (v : Option String) : ((v.map fun v =>
      (⟨some "@version", .ofText v⟩ : Entry)).toList.map Entry.misses).sum = 0 := by
    cases v with
    | none => rfl
    | some v => rfl
  rw [misses_comment, List.map_cons, List.sum_cons, hversion]
  exact (adds_entry none doc).yield _

theorem adds_parameterEntries (c : Callable) :
    Adds (ctx.countedParameterEntries c) (ctx.parameterEntries c)
      (((ctx.parameterEntries c).map Entry.misses).sum) := by
  have hfilter {α : Type} (h : α → Option Entry) (l : List α) :
      l.filterMap h = (l.map h).filterMap id := by
    rw [List.filterMap_map]
    rfl
  rw [parameterEntries, hfilter, sum_map_filterMap]
  refine (Adds.listMapM ?_ _).yield _
  rintro ⟨p, i⟩
  dsimp only
  split
  case isTrue => exact .pure none
  case isFalse =>
    apply Adds.optionMapM
    exact adds_entry _

theorem adds_returnEntry (c : Callable) (use : CallableUse) :
    Adds (ctx.countedReturnEntry c use) (ctx.returnEntry c use)
      (((ctx.returnEntry c use).map Entry.misses).sum) := by
  rw [countedReturnEntry, returnEntry]
  split
  case isTrue => exact .pure []
  case isFalse =>
    rw [sum_map_toList]
    exact (Adds.optionMapM (adds_entry _) _).yield _

theorem adds_deprecatedEntry (c : Callable) :
    Adds (ctx.countedDeprecatedEntry c) (ctx.deprecatedEntry c)
      (((ctx.deprecatedEntry c).map Entry.misses).sum) := by
  rw [countedDeprecatedEntry, deprecatedEntry]
  split
  case isTrue =>
    rw [sum_map_toList]
    exact (Adds.optionMapM (adds_entry _) _).yield _
  case isFalse => exact .pure []

theorem misses_throwsEntries (c : Callable) (use : CallableUse) :
    ((throwsEntries c use).map Entry.misses).sum = 0 := by
  rw [throwsEntries]
  cases c.throws <;> cases use.platforms.needsGuard <;> rfl

theorem misses_signalEntries (c : Callable) :
    ((signalEntries c).map Entry.misses).sum = 0 := by
  rw [signalEntries]
  cases c.detailed <;> rfl

theorem adds_callEntries (c : Callable) (use : CallableUse) :
    Adds (ctx.countedCallEntries c use)
      (if c.kind = .signal ∨ c.kind = .callback then []
        else ctx.parameterEntries c ++ ctx.returnEntry c use ++ throwsEntries c use)
      (((if c.kind = .signal ∨ c.kind = .callback then []
        else ctx.parameterEntries c ++ ctx.returnEntry c use ++ throwsEntries c use).map
          Entry.misses).sum) := by
  rw [countedCallEntries]
  split
  case isTrue => exact .pure []
  case isFalse =>
    rw [List.map_append, List.map_append, List.sum_append, List.sum_append, misses_throwsEntries,
      Nat.add_zero]
    exact (adds_parameterEntries c).bind ((adds_returnEntry c use).yield _)

theorem adds_callableComment (c : Callable) (use : CallableUse) :
    Adds (ctx.countedCallableComment c use) (ctx.callableComment c use)
      (missesOf (ctx.callableComment c use)) := by
  apply Adds.optionMapM
  intro doc
  have hsignal : ((if use.isSignal && c.kind == .signal then signalEntries c
      else []).map Entry.misses).sum = 0 := by
    split
    case isTrue => exact misses_signalEntries c
    case isFalse => rfl
  rw [misses_comment, List.map_cons, List.sum_cons, List.map_append, List.sum_append, List.map_append,
    List.sum_append, hsignal, Nat.add_zero]
  exact (adds_entry none doc).bind
    ((adds_callEntries c use).bind ((adds_deprecatedEntry c).yield _))

end Context
end Doc
end GirBind
