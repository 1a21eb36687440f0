import GirBind.Proofs.Document
import GirBind.Proofs.Sketch

namespace GirBind

namespace Node

/-- Merging compares such a member of a type with others as a whole: a field of a record, or one
without a name of which there may be several. -/
def isComparedWhole (v : Variant) (n : Node) : Bool :=
  (v == .record && n.kind == .field) || (n.name?.isNone && !n.kind.isSingleton)

/-- A member without documentation, unless merging compares it as a whole. -/
def quiet (v : Variant) (n : Node) : Node :=
  if n.isComparedWhole v then n.outline else n.sketch

variable {v : Variant}

theorem quiet_of_compared {n : Node} (h : n.isComparedWhole v = true) : n.quiet v = n.outline :=
  if_pos h

theorem isComparedWhole_congr {m n : Node} (hk : m.kind = n.kind) (hname : m.name? = n.name?) :
    m.isComparedWhole v = n.isComparedWhole v := by
  rw [isComparedWhole, isComparedWhole, hk, hname]

theorem kind_quiet (n : Node) : (n.quiet v).kind = n.kind := by
  unfold quiet
  split
  case isTrue => exact keepsMembers_outline.kind n
  case isFalse => exact hides_sketch.memberKind n

theorem name?_quiet (n : Node) : (n.quiet v).name? = n.name? := by
  unfold quiet
  split
  case isTrue => exact keepsMembers_outline.name? n
  case isFalse => exact hides_sketch.memberName? n

theorem platforms_quiet (n : Node) : (n.quiet v).platforms = n.platforms := by
  unfold quiet
  split
  case isTrue => exact keepsMembers_outline.platforms n
  case isFalse => exact platforms_sketch n

theorem sketch_quiet (n : Node) : (n.quiet v).sketch = n.sketch := by
  unfold quiet
  split
  case isTrue => exact n.sketch_outline
  case isFalse => exact n.sketch_sketch

theorem sameMember_quiet (m n : Node) : sameMember (m.quiet v) (n.quiet v) = sameMember m n := by
  rw [Bool.eq_iff_iff, sameMember_iff, sameMember_iff, kind_quiet, kind_quiet, name?_quiet,
    name?_quiet]
  refine and_congr_right fun hk => and_congr_right fun hname => forall_congr' fun hnone => ?_
  cases hsingle : m.kind.isSingleton with
  | true => simp only [true_or]
  | false =>
    have hm : m.isComparedWhole v = true := by
      rw [isComparedWhole, hnone, hsingle]
      exact Bool.or_true _
    have hn : n.isComparedWhole v = true := isComparedWhole_congr hk hname ▸ hm
    rw [quiet_of_compared hm, quiet_of_compared hn, sameShape_map keepsMembers_outline.shape]

theorem mergesAlike_quiet (v : Variant) : MergesAlike v (quiet v) where
  kind := kind_quiet
  same := sameMember_quiet
  fields := by
    rintro rfl m n hm hn
    have hfield {n : Node} (hn : n.kind = .field) : n.isComparedWhole .record = true := by
      rw [isComparedWhole, hn]
      rfl
    rw [quiet_of_compared (hfield hm), quiet_of_compared (hfield hn),
      sameShape_map keepsMembers_outline.shape]
  platforms := platforms_quiet
  withOwnPlatforms n p := by
    unfold quiet
    change _ = if n.isComparedWhole v then _ else _
    split
    case isTrue => exact keepsMembers_outline.withOwnPlatforms n p
    case isFalse =>
      rw [sketch, sketch, mute_eq, mute_eq]
      exact keepsMembers_outline.withOwnPlatforms _ p

end Node

def MergeMap.quiet : MergeMap where
  members := Node.quiet
  bound := List.map (Node.quiet .classType)
  other _ := []
  members_alike := Node.mergesAlike_quiet
  unite_bound := (Node.mergesAlike_quiet .classType).unite
  unite_other _ _ := rfl

def RegisteredType.wholeMembers (t : RegisteredType) : List Node :=
  (t.node.children.filter (Node.isComparedWhole t.variant)).map Node.outline

def Namespace.wholeMembers (ns : Namespace) : List (String × List Node) :=
  ns.types.entries.map fun e => (e.1, e.2.wholeMembers)

theorem map_congr_of_maps {α : Type u} {β : Type v} {γ : Type w} {δ : Type x} {f : α → β}
    {g : α → γ} {k : α → δ} (h : ∀ a b, f a = f b → g a = g b → k a = k b) {l m : List α}
    (hf : l.map f = m.map f) (hg : l.map g = m.map g) : l.map k = m.map k := by
  induction l generalizing m with
  | nil =>
    rw [List.map_nil, eq_comm, List.map_eq_nil_iff] at hf
    rw [hf]
  | cons a l ih =>
    rw [List.map_cons, eq_comm, List.map_eq_cons_iff] at hf
    obtain ⟨b, m, rfl, hfb, hf⟩ := hf
    rw [List.map_cons, List.map_cons, List.cons.injEq] at hg
    rw [List.map_cons, List.map_cons, h a b hfb.symm hg.1, ih hf.symm hg.2]

namespace Node

theorem sketch_of_mute {m n : Node} (h : m.mute = n.mute) : m.sketch = n.sketch := by
  rw [sketch, sketch, h]

theorem isComparedWhole_of_mute {m n : Node} (h : m.mute = n.mute) (v : Variant) :
    m.isComparedWhole v = n.isComparedWhole v := by
  have hgist : m.gist = n.gist := congrArg bare h
  refine isComparedWhole_congr ?_ (forgets_gist.attr?_congr hgist "name")
  rw [← forgets_gist.kind, hgist, forgets_gist.kind]

theorem map_quiet_congr {v : Variant} {ms ns : List Node} (hmute : ms.map mute = ns.map mute)
    (hwhole : (ms.filter (isComparedWhole v)).map outline =
      (ns.filter (isComparedWhole v)).map outline) : ms.map (quiet v) = ns.map (quiet v) := by
  induction ms generalizing ns with
  | nil =>
    rw [List.map_nil, eq_comm, List.map_eq_nil_iff] at hmute
    rw [hmute]
  | cons m ms ih =>
    rw [List.map_cons, eq_comm, List.map_eq_cons_iff] at hmute
    obtain ⟨n, ns, rfl, hn, hns⟩ := hmute
    have hcompared := isComparedWhole_of_mute hn v
    rw [List.filter_cons, List.filter_cons, hcompared] at hwhole
    rw [List.map_cons, List.map_cons]
    cases hm : m.isComparedWhole v with
    | true =>
      rw [if_pos hm, if_pos hm, List.map_cons, List.map_cons, List.cons.injEq] at hwhole
      rw [quiet_of_compared hm, quiet_of_compared (hcompared.trans hm), hwhole.1,
        ih hns.symm hwhole.2]
    | false =>
      have hm' := Bool.eq_false_iff.1 hm
      have hn' := Bool.eq_false_iff.1 (hcompared.trans hm)
      rw [if_neg hm', if_neg hm'] at hwhole
      rw [quiet, quiet, if_neg hm', if_neg hn', sketch_of_mute hn, ih hns.symm hwhole]

end Node

namespace MergeMap

theorem quiet_type_congr {t u : RegisteredType} (hmute : t.mapMembers .mute = u.mapMembers .mute)
    (hwhole : t.wholeMembers = u.wholeMembers) : quiet.type t = quiet.type u := by
  obtain ⟨v, m⟩ := t
  obtain ⟨w, n⟩ := u
  obtain ⟨hv, hnode⟩ := RegisteredType.mk.inj hmute
  obtain rfl : v = w := hv
  obtain ⟨hkind, hattributes, hchildren, htext, hplatforms, -⟩ := Node.mk.inj hnode
  refine congrArg (RegisteredType.mk v) ?_
  rw [Node.mapMembers, Node.mapMembers, hkind, hattributes, htext, hplatforms]
  exact congrArg (Node.mk _ _ · _ _ _) (Node.map_quiet_congr hchildren hwhole)

/-- What is kept of a namespace for merging are its types without documentation, apart from the
members that merging compares as a whole. -/
theorem quiet_library_congr {p q : PlatformSet} {a b : Namespace} (ha : a.IsOn p) (hb : b.IsOn q)
    (hmute : a.mapMembers .mute = b.mapMembers .mute) (hwhole : a.wholeMembers = b.wholeMembers) :
    quiet.library a = quiet.library b := by
  have hbound {l : List Node} (hl : ∀ n ∈ l, n.name?.isSome) :
      l.map (Node.quiet .classType) = (l.map Node.mute).map Node.outline := by
    rw [List.map_map]
    refine List.map_congr_left fun n hn => if_neg ?_
    rw [Node.isComparedWhole, Option.isNone_eq_false_iff.2 (hl n hn)]
    exact Bool.false_ne_true
  obtain ⟨hname, hversion, hattributes, htypes, hfunctions, hconstants, -, hplatforms⟩ :=
    Namespace.mk.inj hmute
  have hquiet : a.types.map quiet.type = b.types.map quiet.type := by
    refine OrderedMap.ext_entries (map_congr_of_maps ?_ (congrArg OrderedMap.entries htypes)
      hwhole)
    intro e f hmute hwhole
    exact Prod.ext (Prod.mk.inj hmute).1
      (quiet_type_congr (Prod.mk.inj hmute).2 (Prod.mk.inj hwhole).2)
  have hfunctions' : quiet.bound a.functions = quiet.bound b.functions := by
    refine (hbound fun n hn => (ha.functions n hn).2.2).trans
      (Eq.trans ?_ (hbound fun n hn => (hb.functions n hn).2.2).symm)
    exact congrArg _ hfunctions
  have hconstants' : quiet.bound a.constants = quiet.bound b.constants := by
    refine (hbound fun n hn => (ha.constants n hn).2.2).trans
      (Eq.trans ?_ (hbound fun n hn => (hb.constants n hn).2.2).symm)
    exact congrArg _ hconstants
  rw [library, library, hquiet, hfunctions', hconstants', hname, hversion, hattributes, hplatforms]
  rfl

theorem sketch_quiet_library (ns : Namespace) : (quiet.library ns).sketch = ns.sketch := by
  have htypes : (ns.types.map quiet.type).map RegisteredType.sketch =
      ns.types.map RegisteredType.sketch := by
    rw [OrderedMap.map_map]
    exact congrArg ns.types.map (funext fun t => t.sketch_mapMembers Node.sketch_quiet)
  have hbound (l : List Node) : (quiet.bound l).map Node.sketch = l.map Node.sketch := by
    rw [quiet, List.map_map]
    exact List.map_congr_left fun n _ => n.sketch_quiet
  change { ns with
    types := (ns.types.map quiet.type).map RegisteredType.sketch
    functions := (quiet.bound ns.functions).map Node.sketch
    constants := (quiet.bound ns.constants).map Node.sketch
    other := [] } = ns.sketch
  rw [htypes, hbound, hbound]
  rfl

theorem sketch_mergeAll_congr {rs ss : List Repository}
    (h : rs.map quiet.repository = ss.map quiet.repository) :
    (Repository.mergeAll rs).toOption.map (List.map Repository.sketch) =
      (Repository.mergeAll ss).toOption.map (List.map Repository.sketch) := by
  have hsketch (rs : List Repository) :
      (Repository.mergeAll (rs.map quiet.repository)).toOption.map (List.map Repository.sketch) =
        (Repository.mergeAll rs).toOption.map (List.map Repository.sketch) := by
    rw [quiet.mergeAll_map, Option.map_map]
    refine congrFun (congrArg Option.map (funext fun merged => ?_)) _
    rw [Function.comp_apply, List.map_map]
    refine List.map_congr_left fun r _ => ?_
    exact congrArg (Repository.mk r.includes r.packages r.cIncludes · r.platforms)
      (sketch_quiet_library r.library)
  rw [← hsketch rs, h, hsketch]

end MergeMap
end GirBind
