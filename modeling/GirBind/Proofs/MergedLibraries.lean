import Mathlib.Data.List.Pairwise
import GirBind.Proofs.Availability
import GirBind.Proofs.Gathering.Success
import GirBind.Proofs.MemberUnion
import GirBind.Proofs.SymbolTable

namespace GirBind

open PlatformSet (unionAll)

namespace RegisteredType

/-- A type with everything that several declarations say about it. The first one prevails. -/
structure IsUnionOf (first : RegisteredType) (rest : List RegisteredType) (t : RegisteredType) :
    Prop where
  variant : t.variant = first.variant
  kind : t.node.kind = first.node.kind
  attributes : t.node.attributes = first.node.attributes
  text : t.node.text = first.node.text
  platforms : t.platforms = unionAll ((first :: rest).map platforms)
  children : t.variant ≠ .record → Node.IsMemberUnion first.node.children
    (rest.flatMap (·.node.children)) t.node.children

theorem isUnionOf_foldl {p : PlatformSet} {d : RegisteredType} (hd : d.node.IsOn p)
    (ds : List RegisteredType) :
    IsUnionOf d ds ⟨d.variant, (ds.map node).foldl (Node.mergeAs d.variant) d.node⟩ := by
  obtain ⟨children, line, h⟩ := Node.foldl_mergeAs_eq d.variant d.node (ds.map node)
  refine ⟨rfl, ?_, ?_, ?_, ?_, ?_⟩
  · rw [h]
  · rw [h]
  · rw [h]
  · rw [← List.map_cons, List.map_map] at h
    exact congrArg Node.platforms h
  · intro hv
    have hmerge : Node.mergeAs d.variant = Node.merge := by
      funext a b
      exact if_neg hv
    have hon : ∀ m ∈ d.node.children, m.platforms = p :=
      fun m hm => (Node.isOn_iff.1 ((Node.isOn_iff.1 hd).2 m hm)).1
    rw [hmerge, Node.foldl_merge, List.flatMap_map]
    exact Node.isMemberUnion_unite hon _

theorem decides_gathering : gathering.Decides fun e f => e.2.variant = f.2.variant where
  isSome_join := by
    intro e f _
    change ((e.2.merge f.2).toOption.map (e.1, ·)).isSome ↔ _
    rw [Option.isSome_map, merge_toOption]
    split
    case isTrue hv => exact ⟨fun _ => hv, fun _ => rfl⟩
    case isFalse hv => exact ⟨fun hnone => (Bool.false_ne_true hnone).elim, fun h => (hv h).elim⟩
  join := by
    intro e f z w _ _ hz
    obtain ⟨t, ht, rfl⟩ := Option.map_eq_some_iff.1 hz
    rw [merge_toOption] at ht
    split at ht
    case isTrue hv =>
      cases ht
      exact ⟨fun h => ⟨h, hv.symm.trans h⟩, And.left⟩
    case isFalse => cases ht

end RegisteredType

namespace Repository

variable {rs merged : List Repository} {first r s : Repository} {rest : List Repository}

def Agrees (r s : Repository) : Prop :=
  ∀ key t u, r.library.types.get? key = some t → s.library.types.get? key = some u →
    t.variant = u.variant

theorem isSome_merge_iff (h : r.library.name = s.library.name) :
    (r.merge s).toOption.isSome ↔ r.Agrees s := by
  have hdistinct (m : OrderedMap RegisteredType) := Namespace.distinct_types m
  rw [merge_toOption, Option.isSome_map, Namespace.merge_toOption, if_pos h, Option.isSome_map,
    ← Option.isSome_map (f := OrderedMap.entries), Namespace.mergeTypes_entries,
    RegisteredType.decides_gathering.isSome_addAll (hdistinct _)]
  constructor
  · rintro ⟨hall, -⟩ key t u ht hu
    exact hall (key, u) (OrderedMap.get?_eq_some_iff.1 hu) (key, t)
      (OrderedMap.get?_eq_some_iff.1 ht) (beq_self_eq_true key)
  · intro hagree
    refine ⟨?_, (hdistinct _).imp fun hne he => ?_⟩
    · rintro ⟨key, u⟩ hu ⟨key', t⟩ ht hkey
      obtain rfl : key' = key := eq_of_beq hkey
      exact hagree key' t u (OrderedMap.get?_eq_some_iff.2 ht) (OrderedMap.get?_eq_some_iff.2 hu)
    · rw [he] at hne
      cases hne

theorem IsUnion.keys (h : IsUnion first rest r) :
    r.library.types.keys = ((first :: rest).flatMap (·.library.types.keys)).eraseDups := by
  have hkeys := Gathering.keys_addAll (fun _ _ => rfl) h.types
  rw [Gathering.eraseDups_of_nodup r.library.types.nodup_keys, List.map_flatMap] at hkeys
  rw [List.flatMap_cons]
  exact hkeys

theorem IsUnion.agrees_iff (h : IsUnion first rest r) (s : Repository) :
    r.Agrees s ↔ ∀ d ∈ first :: rest, d.Agrees s := by
  constructor
  · intro hagree d hd key t u ht hu
    have hkey : key ∈ r.library.types.keys := by
      have hmem : key ∈ d.library.types.keys :=
        List.mem_map.2 ⟨_, OrderedMap.get?_eq_some_iff.1 ht, rfl⟩
      rw [h.keys, List.mem_eraseDups]
      exact List.mem_flatMap.2 ⟨d, hd, hmem⟩
    obtain ⟨⟨_, v⟩, hv, rfl⟩ := List.mem_map.1 hkey
    have hv := OrderedMap.get?_eq_some_iff.2 hv
    obtain ⟨e, es, hes, hvariant, rfl⟩ := h.type hv
    have hmem : t ∈ e :: es := hes ▸ List.mem_filterMap.2 ⟨d, hd, ht⟩
    rw [← hagree _ _ u hv hu]
    rcases List.mem_cons.1 hmem with rfl | hmem
    · rfl
    · exact hvariant t hmem
  · intro hagree key t u ht hu
    obtain ⟨e, es, hes, -, rfl⟩ := h.type ht
    obtain ⟨d, hd, he⟩ := List.mem_filterMap.1 (hes ▸ List.mem_cons_self : e ∈ _)
    exact hagree d hd key e u he hu

theorem decides_gathering : gathering.Decides Agrees where
  isSome_join h := isSome_merge_iff (eq_of_beq h)
  join := by
    intro r s m w _ _ hm
    have hjoin : gathering.joinAll [r, s] = some m := by
      change (gathering.join r s).bind some = some m
      rw [hm]
      rfl
    rw [(IsUnion.of_joinAll hjoin).agrees_iff, List.forall_mem_cons, List.forall_mem_singleton]

theorem agrees_symm (h : r.Agrees s) : s.Agrees r :=
  fun key t u ht hu => (h key u t hu ht).symm

theorem agrees_refl (r : Repository) : r.Agrees r := by
  intro key t u ht hu
  rw [ht] at hu
  cases hu
  rfl

theorem isSome_mergeAll_iff : (mergeAll rs).toOption.isSome ↔
    ∀ r ∈ rs, ∀ s ∈ rs, r.library.name = s.library.name → r.Agrees s := by
  rw [mergeAll_toOption, decides_gathering.isSome_addAll .nil]
  constructor
  · rintro ⟨-, hpairs⟩
    have hsymm : Std.Symm fun r s => gathering.same r s = true → r.Agrees s :=
      ⟨fun r s h hsame => agrees_symm (h ((gathering.same_comm r s).trans hsame))⟩
    have hall := hpairs.forall_of_forall fun r _ _ => agrees_refl r
    intro r hr s hs hname
    exact hall hr hs (beq_iff_eq.2 hname)
  · intro hall
    refine ⟨fun _ _ s hs => absurd hs List.not_mem_nil, ?_⟩
    apply List.pairwise_of_forall_mem_list
    intro r hr s hs hname
    exact hall r hr s hs (eq_of_beq hname)

/-- A library with everything that its documents declare. Type names come in order of first
occurrence. -/
structure IsFullUnion (first : Repository) (rest : List Repository) (r : Repository) : Prop where
  keys : r.library.types.keys = ((first :: rest).flatMap (·.library.types.keys)).eraseDups
  types : ∀ key t, r.library.types.get? key = some t → ∃ d ds,
    (first :: rest).filterMap (·.library.types.get? key) = d :: ds ∧ d.IsUnionOf ds t
  functions : Node.IsMemberUnion first.library.functions
    (rest.flatMap (·.library.functions)) r.library.functions
  constants : Node.IsMemberUnion first.library.constants
    (rest.flatMap (·.library.constants)) r.library.constants
  other : Node.IsMemberUnion first.library.other
    (rest.flatMap (·.library.other)) r.library.other

theorem IsUnion.isFullUnion (h : IsUnion first rest r)
    (hon : ∀ d ∈ first :: rest, d.library.IsOn d.platforms) : IsFullUnion first rest r := by
  have hfirst := hon first List.mem_cons_self
  refine ⟨h.keys, ?_, ?_, ?_, ?_⟩
  · intro key t ht
    obtain ⟨d, ds, hds, -, rfl⟩ := h.type ht
    obtain ⟨s, hs, hsd⟩ := List.mem_filterMap.1 (hds ▸ List.mem_cons_self : d ∈ _)
    have hd := ((hon s hs).types _ (OrderedMap.get?_eq_some_iff.1 hsd)).1
    exact ⟨d, ds, hds, RegisteredType.isUnionOf_foldl hd ds⟩
  · rw [h.functions]
    exact Node.isMemberUnion_unite (fun m hm => (Node.isOn_iff.1 (hfirst.functions m hm).1).1) _
  · rw [h.constants]
    exact Node.isMemberUnion_unite (fun m hm => (Node.isOn_iff.1 (hfirst.constants m hm).1).1) _
  · rw [h.other]
    exact Node.isMemberUnion_unite (fun m hm => (Node.isOn_iff.1 (hfirst.other m hm)).1) _

theorem names_of_mergeAll (h : mergeAll rs = .ok merged) :
    merged.map (·.library.name) = (rs.map (·.library.name)).eraseDups := by
  have hnodup := nodup_names_of_mergeAll h
  rw [← Attempt.toOption_eq_some_iff, mergeAll_toOption] at h
  rw [← Gathering.eraseDups_of_nodup hnodup]
  exact Gathering.keys_addAll (fun _ _ => rfl) h

/-- Documents can be merged unless two of them declare types of different variants under one name.
Merging then loses, doubles and reorders nothing. -/
theorem isFullUnion_of_mergeAll {sources : List Source} (h : readAll sources = .ok rs) :
    ((∃ e, mergeAll rs = .error e) ↔
      ∃ r ∈ rs, ∃ s ∈ rs, r.library.name = s.library.name ∧ ∃ key t u,
        r.library.types.get? key = some t ∧ s.library.types.get? key = some u ∧
          t.variant ≠ u.variant) ∧
    ∀ merged, mergeAll rs = .ok merged →
      merged.map (·.library.name) = (rs.map (·.library.name)).eraseDups ∧
      ∀ r ∈ merged, ∃ first rest, describing r.library.name rs = first :: rest ∧
        IsFullUnion first rest r := by
  refine ⟨?_, ?_⟩
  · have herror : (∃ e, mergeAll rs = .error e) ↔ ¬ (mergeAll rs).toOption.isSome = true := by
      cases mergeAll rs with
      | error e => exact ⟨fun _ => Bool.false_ne_true, fun _ => ⟨e, rfl⟩⟩
      | ok merged =>
        constructor
        · rintro ⟨e, he⟩
          cases he
        · intro hnone
          exact (hnone rfl).elim
    rw [herror, isSome_mergeAll_iff]
    simp only [Agrees, not_forall, exists_prop]
  · intro merged hmerged
    refine ⟨names_of_mergeAll hmerged, ?_⟩
    intro r hr
    obtain ⟨first, rest, hrs, hunion⟩ := isUnion_of_mergeAll hmerged hr
    refine ⟨first, rest, hrs, hunion.isFullUnion ?_⟩
    intro d hd
    exact isOn_of_readAll h (List.mem_of_mem_filter (hrs ▸ hd))

def doubledSource : Source :=
  ⟨"a", .linuxOnly, "<repository><namespace name='G'>
<union name='E'><field/><field/></union></namespace></repository>"⟩

def furtherSource : Source :=
  ⟨"b", .macosOnly, "<repository><namespace name='G'>
<union name='E'><doc/><field/></union></namespace></repository>"⟩

def overlappingSources : List Source := [doubledSource, furtherSource]

theorem tokens_doubledSource : Markup.tokens doubledSource.content = .ok [
    ⟨.startTag "repository" [] false, ⟨1, 1⟩⟩,
    ⟨.startTag "namespace" [("name", "G")] false, ⟨1, 13⟩⟩, ⟨.text "\n", ⟨1, 33⟩⟩,
    ⟨.startTag "union" [("name", "E")] false, ⟨2, 1⟩⟩, ⟨.startTag "field" [] true, ⟨2, 17⟩⟩,
    ⟨.startTag "field" [] true, ⟨2, 25⟩⟩, ⟨.endTag "union", ⟨2, 33⟩⟩,
    ⟨.endTag "namespace", ⟨2, 41⟩⟩, ⟨.endTag "repository", ⟨2, 53⟩⟩, ⟨.endOfInput, ⟨2, 66⟩⟩] :=
  (Markup.tokens_ofList _).trans (Attempt.toOption_eq_some_iff.1 (by decide +kernel))

theorem tokens_furtherSource : Markup.tokens furtherSource.content = .ok [
    ⟨.startTag "repository" [] false, ⟨1, 1⟩⟩,
    ⟨.startTag "namespace" [("name", "G")] false, ⟨1, 13⟩⟩, ⟨.text "\n", ⟨1, 33⟩⟩,
    ⟨.startTag "union" [("name", "E")] false, ⟨2, 1⟩⟩, ⟨.startTag "doc" [] true, ⟨2, 17⟩⟩,
    ⟨.startTag "field" [] true, ⟨2, 23⟩⟩, ⟨.endTag "union", ⟨2, 31⟩⟩,
    ⟨.endTag "namespace", ⟨2, 39⟩⟩, ⟨.endTag "repository", ⟨2, 51⟩⟩, ⟨.endOfInput, ⟨2, 64⟩⟩] :=
  (Markup.tokens_ofList _).trans (Attempt.toOption_eq_some_iff.1 (by decide +kernel))

theorem merged_overlappingSources : ∃ rs, readAll overlappingSources = .ok rs ∧
    (mergeAll rs).toOption.map (·.map fun r => (r.library.name,
      r.library.types.values.flatMap (·.node.children.map fun n => (n.kind, n.platforms)))) =
      some [("G", [(.field, ⟨true, false, true⟩), (.field, .linuxOnly), (.doc, .macosOnly)])] := by
  rw [readAll, overlappingSources, List.mapM_cons, List.mapM_cons, Source.repository, Source.root,
    tokens_doubledSource, Source.repository, Source.root, tokens_furtherSource]
  exact ⟨_, rfl, by decide +kernel⟩

theorem isFullUnion_of_overlappingSources : ∃ rs r first rest,
    readAll overlappingSources = .ok rs ∧ mergeAll rs = .ok [r] ∧
    describing "G" rs = first :: rest ∧ IsFullUnion first rest r ∧
    r.library.types.values.flatMap (·.node.children.map fun n => (n.kind, n.platforms)) =
      [(.field, ⟨true, false, true⟩), (.field, .linuxOnly), (.doc, .macosOnly)] := by
  obtain ⟨rs, hread, hmembers⟩ := merged_overlappingSources
  obtain ⟨merged, hmerged, hlist⟩ := Option.map_eq_some_iff.1 hmembers
  obtain ⟨r, rfl, hr⟩ := List.map_eq_singleton_iff.1 hlist
  obtain ⟨hname, hr⟩ := Prod.mk.inj hr
  have hmerged := Attempt.toOption_eq_some_iff.1 hmerged
  obtain ⟨-, hall⟩ := (isFullUnion_of_mergeAll hread).2 [r] hmerged
  obtain ⟨first, rest, hrs, hunion⟩ := hall r (List.mem_singleton_self r)
  rw [hname] at hrs
  exact ⟨rs, r, first, rest, hread, hmerged, hrs, hunion, hr⟩

end Repository
end GirBind
