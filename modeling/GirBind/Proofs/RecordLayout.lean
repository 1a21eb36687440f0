import GirBind.Proofs.Decided
import GirBind.Proofs.Declarations

namespace GirBind

namespace Node

theorem withoutFields_foldl_mergeRecord (first : Node) (rest : List Node) :
    (rest.foldl mergeRecord first).withoutFields =
      (rest.map withoutFields).foldl merge first.withoutFields := by
  induction rest generalizing first with
  | nil => rfl
  | cons n rest ih =>
    rw [List.foldl_cons, ih, withoutFields_mergeRecord, withoutFields_merge]
    rfl

theorem sameFields_foldl_mergeRecord {first : Node} {rest : List Node}
    (h : ∀ n ∈ rest, sameFields first n = true) :
    sameFields (rest.foldl mergeRecord first) first = true := by
  induction rest generalizing first with
  | nil => exact sameShapes_refl _
  | cons n rest ih =>
    obtain ⟨hn, hrest⟩ := List.forall_mem_cons.1 h
    have hfold := ih fun m hm => (sameFields_merge hn m).trans (hrest m hm)
    rw [List.foldl_cons, mergeRecord_of_sameFields hn, sameFields_comm, ← sameFields_merge hn,
      sameFields_comm]
    exact hfold

/-- A record that has lost its fields gets none again. -/
theorem fields_foldl_mergeRecord_of_no_fields {first : Node} (rest : List Node)
    (h : first.childrenOf .field = []) : (rest.foldl mergeRecord first).childrenOf .field = [] := by
  induction rest generalizing first with
  | nil => exact h
  | cons n rest ih =>
    rw [List.foldl_cons, mergeRecord_of_no_fields (.inl h)]
    exact ih (fields_withoutFields _)

theorem fields_foldl_mergeRecord_of_differ {first n : Node} {rest : List Node} (hn : n ∈ rest)
    (h : sameFields first n = false) : (rest.foldl mergeRecord first).childrenOf .field = [] := by
  induction rest generalizing first with
  | nil => cases hn
  | cons m rest ih =>
    rw [List.foldl_cons]
    cases hm : sameFields first m with
    | false =>
      rw [mergeRecord_of_differ hm]
      exact fields_foldl_mergeRecord_of_no_fields rest (fields_withoutFields _)
    | true =>
      rw [mergeRecord_of_sameFields hm]
      rcases List.mem_cons.1 hn with rfl | hn
      · rw [hm] at h
        cases h
      · exact ih hn ((sameFields_merge hm n).trans h)

end Node

namespace RegisteredType

/-- All declarations of a record have fields of the same shapes in the same order. -/
def FieldsAgree (ds : List RegisteredType) : Prop :=
  ∀ d ∈ ds, ∀ e ∈ ds, Node.sameFields d.node e.node = true

theorem fieldsAgree_cons {d : RegisteredType} {ds : List RegisteredType} :
    FieldsAgree (d :: ds) ↔ ∀ n ∈ ds.map node, Node.sameFields d.node n = true := by
  constructor
  · intro h n hn
    obtain ⟨e, he, rfl⟩ := List.mem_map.1 hn
    exact h d List.mem_cons_self e (List.mem_cons_of_mem d he)
  · intro h
    have hd : ∀ e ∈ d :: ds, Node.sameFields d.node e.node = true :=
      List.forall_mem_cons.2 ⟨Node.sameShapes_refl _, fun e he => h e.node (List.mem_map_of_mem he)⟩
    intro e he f hf
    rw [← Node.sameFields_congr (hd e he)]
    exact hd f hf

end RegisteredType

theorem BindingContext.fieldDecisions_eq_nil (ctx : BindingContext) {t : RegisteredType}
    (h : t.fields = []) : ctx.fieldDecisions t = [] := by
  rw [fieldDecisions, h]
  rfl

namespace Repository

/-- The fields of a merged record are those that all its declarations have, if they agree on them,
and none otherwise. Its other members are united as for any type. -/
theorem record_of_mergeAll {rs merged : List Repository} {r : Repository} {key : String}
    {t : RegisteredType} (h : mergeAll rs = .ok merged) (hr : r ∈ merged)
    (ht : r.library.types.get? key = some t) (hv : t.variant = .record) :
    (RegisteredType.FieldsAgree (declarations r.library.name key rs) →
      ∀ d ∈ declarations r.library.name key rs, Node.sameFields t.node d.node = true) ∧
    (¬ RegisteredType.FieldsAgree (declarations r.library.name key rs) →
      t.fields = [] ∧
      ∀ ctx floating decision skipped,
        BindingContext.bindType ctx floating t = .ok (decision, skipped) →
          ∃ record, decision.record = some record ∧ record.fields = []) ∧
    ∃ d ds, declarations r.library.name key rs = d :: ds ∧
      t.node.withoutFields =
        (ds.map (·.node.withoutFields)).foldl Node.merge d.node.withoutFields := by
  obtain ⟨first, rest, hrs, hunion⟩ := isUnion_of_mergeAll h hr
  obtain ⟨d, ds, hds, -, rfl⟩ := hunion.type ht
  rw [← hrs] at hds
  change declarations r.library.name key rs = d :: ds at hds
  change d.variant = .record at hv
  rw [hds, hv]
  have hrecord : Node.mergeAs .record = Node.mergeRecord := rfl
  rw [hrecord]
  refine ⟨?_, ?_, d, ds, rfl, ?_⟩
  · intro hall e he
    have hkept := Node.sameFields_foldl_mergeRecord (RegisteredType.fieldsAgree_cons.1 hall)
    rw [Node.sameFields_congr hkept]
    exact hall d List.mem_cons_self e he
  · intro hnot
    rw [RegisteredType.fieldsAgree_cons] at hnot
    obtain ⟨n, hnot⟩ := not_forall.1 hnot
    obtain ⟨hn, hdiffer⟩ := Classical.not_imp.1 hnot
    have hnone := Node.fields_foldl_mergeRecord_of_differ hn (Bool.eq_false_iff.2 hdiffer)
    refine ⟨hnone, ?_⟩
    intro ctx floating decision skipped hb
    obtain ⟨_, _, _, _, -, -, -, -, rfl, -⟩ := BindingContext.bindType_eq_ok_iff.1 hb
    exact ⟨_, rfl, ctx.fieldDecisions_eq_nil hnone⟩
  · rw [Node.withoutFields_foldl_mergeRecord, List.map_map]
    rfl

def ofRecord (library record : String) (fields : List Node) (p : PlatformSet) : Repository where
  includes := []
  packages := []
  cIncludes := []
  library := {
    name := library
    version := ""
    attributes := ∅
    types := .ofList [(record,
      ⟨.record, ⟨.record, .ofList [("name", record)], fields, "", p, 1⟩⟩)]
    functions := []
    constants := []
    other := []
    platforms := p }
  platforms := p

def fieldNamed (name : String) (p : PlatformSet) : Node :=
  ⟨.field, .ofList [("name", name)], [], "", p, 2⟩

def borders : List Repository := [
  ofRecord "Gtk" "Border" [fieldNamed "left" .linuxOnly] .linuxOnly,
  ofRecord "Gtk" "Border" [] .windowsOnly,
  ofRecord "Gtk" "Border" [fieldNamed "left" .macosOnly] .macosOnly]

/-- A field that was lost on the way is not restored by a later description that has it. -/
theorem record_of_borders : ∃ merged r t, mergeAll borders = .ok merged ∧ r ∈ merged ∧
    r.library.types.get? "Border" = some t ∧ t.variant = .record ∧ t.fields = [] := by
  obtain ⟨merged, r, t, h, hr, ht, hv, hname⟩ : ∃ merged r t, mergeAll borders = .ok merged ∧
      r ∈ merged ∧ r.library.types.get? "Border" = some t ∧ t.variant = .record ∧
        r.library.name = "Gtk" :=
    ⟨_, _, _, rfl, List.mem_singleton_self _, rfl, rfl, rfl⟩
  have hdiffer : ¬ RegisteredType.FieldsAgree (declarations r.library.name "Border" borders) := by
    intro hagree
    rw [hname] at hagree
    have hfirst := hagree _ List.mem_cons_self _ (List.mem_cons_of_mem _ List.mem_cons_self)
    exact absurd hfirst (by decide)
  have hlost := (record_of_mergeAll h hr ht hv).2.1 hdiffer
  exact ⟨merged, r, t, h, hr, ht, hv, hlost.1⟩

end Repository
end GirBind
