import Mathlib.Logic.Relation
import GirBind.Proofs.Derived
import GirBind.Proofs.MergedLibraries
import GirBind.Proofs.Patching

namespace GirBind

namespace Node

/-- An element is available on some of the given platforms only, and so is everything inside it
with respect to what it stands in. -/
inductive IsWithin : PlatformSet → Node → Prop
  | mk {p : PlatformSet} {n : Node} (platforms : n.platforms ⊆ p)
    (children : ∀ m ∈ n.children, m.IsWithin n.platforms) : n.IsWithin p

namespace IsWithin

variable {p q : PlatformSet} {a b n : Node}

theorem platforms (h : n.IsWithin p) : n.platforms ⊆ p := by
  cases h with
  | mk hp hc => exact hp

theorem children (h : n.IsWithin p) : ∀ m ∈ n.children, m.IsWithin n.platforms := by
  cases h with
  | mk hp hc => exact hc

theorem mono (h : n.IsWithin p) (hpq : p ⊆ q) : n.IsWithin q :=
  .mk (PlatformSet.subset_trans h.platforms hpq) h.children

theorem withOwnPlatforms (h : n.IsWithin p) (hn : n.platforms ⊆ q) (hq : q ⊆ p) :
    (n.withOwnPlatforms q).IsWithin p :=
  .mk hq fun m hm => (h.children m hm).mono hn

theorem unite {ms ns : List Node} (hms : ∀ m ∈ ms, m.IsWithin p) (hns : ∀ n ∈ ns, n.IsWithin p) :
    ∀ m ∈ Node.unite ms ns, m.IsWithin p := by
  refine Gathering.forall_mem_addAll ?_ hms hns (addAll_eq_unite ms ns)
  intro x y z hz hx hy
  cases hz
  exact hx.withOwnPlatforms (PlatformSet.subset_union_left _ _)
    (PlatformSet.union_subset hx.platforms hy.platforms)

theorem merge (ha : a.IsWithin p) (hb : b.IsWithin q) : (a.merge b).IsWithin (p ∪ q) := by
  have hleft := PlatformSet.subset_union_left
  have hright := PlatformSet.subset_union_right
  refine .mk (PlatformSet.union_subset ?_ ?_) (unite ?_ ?_)
  · exact PlatformSet.subset_trans ha.platforms (hleft p q)
  · exact PlatformSet.subset_trans hb.platforms (hright p q)
  · exact fun m hm => (ha.children m hm).mono (hleft _ _)
  · exact fun m hm => (hb.children m hm).mono (hright _ _)

theorem withoutFields (h : n.IsWithin p) : n.withoutFields.IsWithin p :=
  .mk h.platforms fun m hm => h.children m (List.mem_of_mem_filter hm)

theorem mergeAs (ha : a.IsWithin p) (hb : b.IsWithin q) (v : Variant) :
    (a.mergeAs v b).IsWithin (p ∪ q) := by
  rcases mergeAs_cases v a b with h | h
  · rw [h]
    exact ha.merge hb
  · rw [h]
    exact (ha.merge hb).withoutFields

end IsWithin

theorem IsOn.isWithin {p : PlatformSet} {n : Node} (h : n.IsOn p) : n.IsWithin p := by
  induction n using children_induction with
  | step n ih =>
    obtain ⟨hp, hc⟩ := isOn_iff.1 h
    refine .mk (hp ▸ PlatformSet.subset_refl p) fun m hm => ?_
    rw [hp]
    exact ih m hm (hc m hm)

end Node

/-- Every declaration of a namespace is filed where it belongs, types have the variant of their
element, and nothing is available where what holds it is not. -/
structure Namespace.IsCoherent (ns : Namespace) : Prop where
  filed : ns.IsFiled
  variants : ∀ e ∈ ns.types.entries, RegisteredType.ofNode? e.2.node = some e.2
  types : ∀ e ∈ ns.types.entries, e.2.node.IsWithin ns.platforms
  functions : ∀ n ∈ ns.functions, n.IsWithin ns.platforms
  constants : ∀ n ∈ ns.constants, n.IsWithin ns.platforms
  other : ∀ n ∈ ns.other, n.IsWithin ns.platforms

structure Repository.IsCoherent (r : Repository) : Prop where
  library : r.library.IsCoherent
  platforms : r.library.platforms = r.platforms

namespace RegisteredType

theorem ofNode?_eq_some_iff {n : Node} {t : RegisteredType} :
    ofNode? n = some t ↔ Variant.ofKind? n.kind = some t.variant ∧ t.node = n := by
  rw [ofNode?, Option.map_eq_some_iff]
  constructor
  · rintro ⟨v, hv, rfl⟩
    exact ⟨hv, rfl⟩
  · rintro ⟨hv, rfl⟩
    exact ⟨t.variant, hv, rfl⟩

theorem ofNode?_of_kind {t u : RegisteredType} (h : ofNode? t.node = some t)
    (hkind : u.node.kind = t.node.kind) (hvariant : u.variant = t.variant) :
    ofNode? u.node = some u := by
  rw [ofNode?_eq_some_iff] at h ⊢
  rw [hkind, hvariant]
  exact ⟨h.1, rfl⟩

end RegisteredType

namespace Patch

variable {ns : Namespace}

theorem exists_of_mem_renameFirst {old new : String} {n : Node} {ms : List Node}
    (h : n ∈ renameFirst old new ms) :
    ∃ m ∈ ms, m.platforms = n.platforms ∧ m.children = n.children := by
  induction ms with
  | nil => cases h
  | cons m ms ih =>
    rw [renameFirst] at h
    split at h
    case isTrue =>
      rcases List.mem_cons.1 h with rfl | h
      · exact ⟨m, List.mem_cons_self, rfl, rfl⟩
      · exact ⟨n, List.mem_cons_of_mem m h, rfl, rfl⟩
    case isFalse =>
      rcases List.mem_cons.1 h with rfl | h
      · exact ⟨n, List.mem_cons_self, rfl, rfl⟩
      · obtain ⟨k, hk, hn⟩ := ih h
        exact ⟨k, List.mem_cons_of_mem m hk, hn⟩

theorem isCoherent_editMembers (h : ns.IsCoherent) (type : String) {f : List Node → List Node}
    (hf : ∀ {p : PlatformSet} {ms : List Node}, (∀ m ∈ ms, m.IsWithin p) →
      ∀ m ∈ f ms, m.IsWithin p) : (editMembers ns type f).IsCoherent := by
  have hentry {e : String × RegisteredType} (he : e ∈ (editMembers ns type f).types.entries) :
      RegisteredType.ofNode? e.2.node = some e.2 ∧ e.2.node.IsWithin ns.platforms := by
    rw [editMembers, OrderedMap.entries_modify] at he
    obtain ⟨e', he', rfl⟩ := List.mem_map.1 he
    have hvariant := h.variants e' he'
    have hwithin := h.types e' he'
    split
    case isTrue =>
      exact ⟨RegisteredType.ofNode?_of_kind hvariant rfl rfl,
        .mk hwithin.platforms (hf hwithin.children)⟩
    case isFalse => exact ⟨hvariant, hwithin⟩
  exact ⟨isFiled_editMembers h.filed type f, fun e he => (hentry he).1,
    fun e he => (hentry he).2, h.functions, h.constants, h.other⟩

theorem isCoherent_edit (h : ns.IsCoherent) (p : Patch) : (p.edit ns).IsCoherent := by
  have hfiled := isFiled_edit h.filed p
  unfold edit at hfiled ⊢
  split
  case isTrue hname =>
    rw [if_pos hname] at hfiled
    cases p with
    | removeType library name =>
      exact ⟨hfiled, fun e he => h.variants e (List.mem_of_mem_filter he),
        fun e he => h.types e (List.mem_of_mem_filter he), h.functions, h.constants, h.other⟩
    | removeFunction library name =>
      exact ⟨hfiled, h.variants, h.types, fun n hn => h.functions n (List.mem_of_mem_filter hn),
        h.constants, h.other⟩
    | removeMethod library type name =>
      refine isCoherent_editMembers h type ?_
      intro q ms hms m hm
      exact hms m (List.mem_of_mem_filter hm)
    | renameMethod library type old new =>
      refine isCoherent_editMembers h type ?_
      intro q ms hms m hm
      obtain ⟨k, hk, hplatforms, hchildren⟩ := exists_of_mem_renameFirst hm
      have hwithin := hms k hk
      exact .mk (hplatforms ▸ hwithin.platforms) (hplatforms ▸ hchildren ▸ hwithin.children)
    | removeConstant library name =>
      exact ⟨hfiled, h.variants, h.types, h.functions,
        fun n hn => h.constants n (List.mem_of_mem_filter hn), h.other⟩
  case isFalse => exact h

end Patch

namespace Namespace

variable {p : PlatformSet} {ns ns' : Namespace} {n : Node}

theorem variants_addChild (hns : ∀ e ∈ ns.types.entries, RegisteredType.ofNode? e.2.node = some e.2)
    (h : ns.addChild n = .ok ns') :
    ∀ e ∈ ns'.types.entries, RegisteredType.ofNode? e.2.node = some e.2 := by
  rw [addChild] at h
  split at h
  case h_1 type htype =>
    obtain ⟨name, -, h⟩ := Attempt.bind_eq_ok_iff.1 h
    split at h
    case isTrue => cases h
    case isFalse hnew =>
      cases h
      intro e he
      rw [OrderedMap.entries_insert_of_not_contains hnew] at he
      rcases List.mem_append.1 he with he | he
      · exact hns e he
      · obtain rfl := List.mem_singleton.1 he
        rw [(RegisteredType.ofNode?_eq_some_iff.1 htype).2]
        exact htype
  case h_2 =>
    split at h
    case h_1 | h_2 =>
      obtain ⟨name, -, h⟩ := Attempt.bind_eq_ok_iff.1 h
      cases h
      exact hns
    all_goals cases h
    all_goals exact hns

theorem variants_ofNode (h : ofNode p n = .ok ns) :
    ∀ e ∈ ns.types.entries, RegisteredType.ofNode? e.2.node = some e.2 := by
  obtain ⟨name, -, h⟩ := Attempt.bind_eq_ok_iff.1 h
  refine Attempt.foldlM_induction (motive := fun ns : Namespace =>
    ∀ e ∈ ns.types.entries, RegisteredType.ofNode? e.2.node = some e.2) ?_ ?_ h
  · exact fun e he => absurd he List.not_mem_nil
  · exact fun _ _ _ _ hns hchild => variants_addChild hns hchild

end Namespace

theorem Namespace.IsOn.isCoherent {p : PlatformSet} {ns : Namespace} (h : ns.IsOn p)
    (hvariants : ∀ e ∈ ns.types.entries, RegisteredType.ofNode? e.2.node = some e.2) :
    ns.IsCoherent := by
  have hwithin {n : Node} (hn : n.IsOn p) : n.IsWithin ns.platforms := h.platforms ▸ hn.isWithin
  exact ⟨h.isFiled, hvariants, fun e he => hwithin (h.types e he).1,
    fun n hn => hwithin (h.functions n hn).1, fun n hn => hwithin (h.constants n hn).1,
    fun n hn => hwithin (h.other n hn)⟩

namespace Repository

variable {a b r : Repository}

theorem Draft.library_addChild {p : PlatformSet} {d d' : Draft} {n : Node}
    (h : d.addChild p n = .ok d') :
    d'.library = d.library ∨ ∃ ns, Namespace.ofNode p n = .ok ns ∧ d'.library = some ns := by
  rw [Draft.addChild] at h
  split at h
  case h_4 =>
    split at h
    case isTrue => cases h
    case isFalse =>
      obtain ⟨ns, hns, h⟩ := Attempt.bind_eq_ok_iff.1 h
      cases h
      exact .inr ⟨ns, hns, rfl⟩
  case h_5 | h_6 =>
    cases h
    exact .inl rfl
  case h_7 => cases h
  all_goals
    obtain ⟨name, -, h⟩ := Attempt.bind_eq_ok_iff.1 h
    cases h
    exact .inl rfl

theorem exists_library_of_ofNode {p : PlatformSet} {root : Node} (h : ofNode p root = .ok r) :
    ∃ n ∈ root.children, Namespace.ofNode p n = .ok r.library := by
  rw [ofNode] at h
  split at h
  case isTrue =>
    obtain ⟨d, hd, h⟩ := Attempt.bind_eq_ok_iff.1 h
    split at h
    case h_1 ns hns =>
      cases h
      refine Attempt.foldlM_induction (motive := fun d : Draft => ∀ ns, d.library = some ns →
        ∃ n ∈ root.children, Namespace.ofNode p n = .ok ns) ?_ ?_ hd ns hns
      · intro ns' hns'
        cases hns'
      · intro n hn d d' hdraft hstep ns' hns'
        rcases Draft.library_addChild hstep with hd' | ⟨ns'', hnode, hd'⟩
        · exact hdraft ns' (hd' ▸ hns')
        · obtain rfl := Option.some.inj (hd'.symm.trans hns')
          exact ⟨n, hn, hnode⟩
    case h_2 => cases h
  case isFalse => cases h

theorem isCoherent_read {s : Source} (h : s.repository = .ok r) : r.IsCoherent := by
  obtain ⟨hplatforms, hon⟩ := Source.repository_isOn h
  refine ⟨hon.isCoherent ?_, hon.platforms.trans hplatforms.symm⟩
  rw [Source.repository] at h
  split at h
  case h_1 => cases h
  case h_2 root _ =>
    split at h
    case h_1 => cases h
    case h_2 hnode =>
      cases h
      obtain ⟨n, -, hn⟩ := exists_library_of_ofNode hnode
      exact Namespace.variants_ofNode hn

theorem isCoherent_merge (ha : a.IsCoherent) (hb : b.IsCoherent) (h : a.merge b = .ok r) :
    r.IsCoherent := by
  obtain ⟨htypes, hfunctions, hconstants, hother, hplatforms⟩ := IsUnion.of_merge h
  rw [List.flatMap_singleton] at htypes hfunctions hconstants hother
  have hplatforms : r.library.platforms = a.library.platforms ∪ b.library.platforms := hplatforms
  have hleft {n : Node} (hn : n.IsWithin a.library.platforms) : n.IsWithin r.library.platforms :=
    hn.mono (hplatforms ▸ PlatformSet.subset_union_left _ _)
  have hright {n : Node} (hn : n.IsWithin b.library.platforms) : n.IsWithin r.library.platforms :=
    hn.mono (hplatforms ▸ PlatformSet.subset_union_right _ _)
  have hentries : ∀ e ∈ r.library.types.entries,
      RegisteredType.ofNode? e.2.node = some e.2 ∧ e.2.node.IsWithin r.library.platforms := by
    refine Gathering.forall_mem_addAll ?_ ?_ ?_ htypes
    · rintro e f g hjoin ⟨hvariant, he⟩ ⟨-, hf⟩
      obtain ⟨t, ht, rfl⟩ := Option.map_eq_some_iff.1 hjoin
      rw [RegisteredType.merge_toOption] at ht
      split at ht
      case isTrue =>
        cases ht
        obtain ⟨children, hnode⟩ := Node.mergeAs_eq e.2.variant e.2.node f.2.node
        refine ⟨RegisteredType.ofNode?_of_kind hvariant (by rw [hnode]) rfl, ?_⟩
        have hmerge := he.mergeAs hf e.2.variant
        rwa [PlatformSet.union_self] at hmerge
      case isFalse => cases ht
    · exact fun e he => ⟨ha.library.variants e he, hleft (ha.library.types e he)⟩
    · exact fun e he => ⟨hb.library.variants e he, hright (hb.library.types e he)⟩
  refine ⟨⟨isFiled_merge ha.library.filed hb.library.filed h, fun e he => (hentries e he).1,
    fun e he => (hentries e he).2, ?_, ?_, ?_⟩, ?_⟩
  · rw [hfunctions]
    exact Node.IsWithin.unite (fun n hn => hleft (ha.library.functions n hn))
      fun n hn => hright (hb.library.functions n hn)
  · rw [hconstants]
    exact Node.IsWithin.unite (fun n hn => hleft (ha.library.constants n hn))
      fun n hn => hright (hb.library.constants n hn)
  · rw [hother]
    exact Node.IsWithin.unite (fun n hn => hleft (ha.library.other n hn))
      fun n hn => hright (hb.library.other n hn)
  · rw [hplatforms, ha.platforms, hb.platforms]
    obtain ⟨ns, -, hns⟩ := Attempt.bind_eq_ok_iff.1 h
    cases hns
    rfl

theorem isCoherent_edit (h : r.IsCoherent) (p : Patch) :
    IsCoherent { r with library := p.edit r.library } := by
  obtain ⟨types, functions, constants, hedit⟩ := p.edit_eq r.library
  exact ⟨Patch.isCoherent_edit h.library p, hedit ▸ h.platforms⟩

theorem Derived.isCoherent (h : r.Derived) : r.IsCoherent := by
  induction h with
  | read h => exact isCoherent_read h
  | merge _ _ h iha ihb => exact isCoherent_merge iha ihb h
  | edit _ p ih => exact isCoherent_edit ih p

/-- One step of a run adds to the descriptions at hand. It reads a document, merges some of them,
or edits some of them. -/
inductive Step : List Repository → List Repository → Prop
  | read {rs : List Repository} {s : Source} {r : Repository} (h : s.repository = .ok r) :
    Step rs (rs ++ [r])
  | merge {rs chosen merged : List Repository} (hchosen : chosen ⊆ rs)
    (h : mergeAll chosen = .ok merged) : Step rs (rs ++ merged)
  | edit {rs chosen : List Repository} (hchosen : chosen ⊆ rs) (ps : List Patch) :
    Step rs (rs ++ (Patch.applyAll ps chosen).1)

def Reachable (r : Repository) : Prop := ∃ rs, Relation.ReflTransGen Step [] rs ∧ r ∈ rs

theorem Step.derived {rs rs' : List Repository} (hrs : ∀ r ∈ rs, r.Derived) (h : Step rs rs') :
    ∀ r ∈ rs', r.Derived := by
  cases h with
  | read h => exact List.forall_mem_append.2 ⟨hrs, List.forall_mem_singleton.2 (.read h)⟩
  | merge hchosen h =>
    exact List.forall_mem_append.2 ⟨hrs, .of_mergeAll (fun r hr => hrs r (hchosen hr)) h⟩
  | edit hchosen ps =>
    exact List.forall_mem_append.2 ⟨hrs, .of_applyAll (fun r hr => hrs r (hchosen hr)) ps⟩

theorem derived_of_run {rs : List Repository} (h : Relation.ReflTransGen Step [] rs) :
    ∀ r ∈ rs, r.Derived := by
  induction h with
  | refl => exact fun r hr => absurd hr List.not_mem_nil
  | tail _ hstep ih => exact hstep.derived ih

/-- Whatever documents a run reads, merges and edits, all its descriptions are coherent. -/
theorem isCoherent_of_reachable (h : r.Reachable) : r.IsCoherent := by
  obtain ⟨rs, hrun, hr⟩ := h
  exact (derived_of_run hrun r hr).isCoherent

def linuxWidget : Source :=
  ⟨"a", .linuxOnly, "<repository><namespace name='G'><class name='W'>
<method name='use'/></class></namespace></repository>"⟩

def windowsWidget : Source :=
  ⟨"b", .windowsOnly, "<repository><namespace name='G'><class name='W'>
<method name='use'/><method name='raise'/></class></namespace></repository>"⟩

def widgetEdits : List Patch := [.renameMethod "G" "W" "use" "use_widget"]

theorem tokens_linuxWidget : Markup.tokens linuxWidget.content = .ok [
    ⟨.startTag "repository" [] false, ⟨1, 1⟩⟩,
    ⟨.startTag "namespace" [("name", "G")] false, ⟨1, 13⟩⟩,
    ⟨.startTag "class" [("name", "W")] false, ⟨1, 33⟩⟩, ⟨.text "\n", ⟨1, 49⟩⟩,
    ⟨.startTag "method" [("name", "use")] true, ⟨2, 1⟩⟩, ⟨.endTag "class", ⟨2, 21⟩⟩,
    ⟨.endTag "namespace", ⟨2, 29⟩⟩, ⟨.endTag "repository", ⟨2, 41⟩⟩, ⟨.endOfInput, ⟨2, 54⟩⟩] :=
  (Markup.tokens_ofList _).trans (Attempt.toOption_eq_some_iff.1 (by decide +kernel))

theorem tokens_windowsWidget : Markup.tokens windowsWidget.content = .ok [
    ⟨.startTag "repository" [] false, ⟨1, 1⟩⟩,
    ⟨.startTag "namespace" [("name", "G")] false, ⟨1, 13⟩⟩,
    ⟨.startTag "class" [("name", "W")] false, ⟨1, 33⟩⟩, ⟨.text "\n", ⟨1, 49⟩⟩,
    ⟨.startTag "method" [("name", "use")] true, ⟨2, 1⟩⟩,
    ⟨.startTag "method" [("name", "raise")] true, ⟨2, 21⟩⟩, ⟨.endTag "class", ⟨2, 43⟩⟩,
    ⟨.endTag "namespace", ⟨2, 51⟩⟩, ⟨.endTag "repository", ⟨2, 63⟩⟩, ⟨.endOfInput, ⟨2, 76⟩⟩] :=
  (Markup.tokens_ofList _).trans (Attempt.toOption_eq_some_iff.1 (by decide +kernel))

theorem renamed_widgets : ∃ r s, linuxWidget.repository = .ok r ∧ windowsWidget.repository = .ok s ∧
    (mergeAll [r, s]).toOption.map (fun merged => (Patch.applyAll widgetEdits merged).1.map fun t =>
      (t.platforms, t.library.types.values.flatMap
        (·.node.children.map fun n => (n.name, n.platforms)))) =
      some [(⟨true, true, false⟩,
        [("use_widget", ⟨true, true, false⟩), ("raise", .windowsOnly)])] := by
  rw [Source.repository, Source.root, tokens_linuxWidget, Source.repository, Source.root,
    tokens_windowsWidget]
  exact ⟨_, _, rfl, rfl, by decide +kernel⟩

theorem isCoherent_of_widgets : ∃ r : Repository, r.Reachable ∧ r.IsCoherent ∧
    r.platforms = ⟨true, true, false⟩ ∧
    r.library.types.values.flatMap (·.node.children.map fun n => (n.name, n.platforms)) =
      [("use_widget", ⟨true, true, false⟩), ("raise", .windowsOnly)] := by
  obtain ⟨r, s, hr, hs, h⟩ := renamed_widgets
  obtain ⟨merged, hmerged, hlist⟩ := Option.map_eq_some_iff.1 h
  obtain ⟨t, hedited, ht⟩ := List.map_eq_singleton_iff.1 hlist
  obtain ⟨hplatforms, hmembers⟩ := Prod.mk.inj ht
  have hread : Relation.ReflTransGen Step [] [r, s] := .tail (.single (.read hr)) (.read hs)
  have hmerge := hread.tail
    (.merge (List.Subset.refl [r, s]) (Attempt.toOption_eq_some_iff.1 hmerged))
  have hedit := hmerge.tail (.edit (List.subset_append_right [r, s] merged) widgetEdits)
  have hreachable : t.Reachable :=
    ⟨_, hedit, List.mem_append_right _ (hedited ▸ List.mem_singleton_self t)⟩
  exact ⟨t, hreachable, isCoherent_of_reachable hreachable, hplatforms, hmembers⟩

end Repository
end GirBind
