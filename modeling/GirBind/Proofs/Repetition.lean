import GirBind.Compile
import GirBind.Proofs.Document
import GirBind.Proofs.Gathering.Absorption
import GirBind.Proofs.MemberMap

namespace GirBind

namespace Gathering

variable {α : Type u} {κ : Type v} [DecidableEq κ] {key : α → κ} {l : List α}

theorem keepFirst_regular (key : α → κ) (x : α) : (keepFirst key).Regular x :=
  ⟨rfl, fun _ => rfl⟩

theorem keepFirst_absorbs_of_mem {l m : List α} (h : ∀ x ∈ m, key x ∈ l.map key) :
    (keepFirst key).Absorbs l m := by
  intro x hx
  obtain ⟨y, hy, hkey⟩ := List.mem_map.1 (h x hx)
  have hany : l.any (key · == key x) = true := List.any_eq_true.2 ⟨y, hy, beq_iff_eq.2 hkey⟩
  rw [keepFirst_add, hany, if_pos rfl]

end Gathering

namespace Node

theorem withOwnPlatforms_self (n : Node) : n.withOwnPlatforms n.platforms = n := by
  cases n
  rfl

theorem gathering_regular (n : Node) : gathering.Regular n where
  self := by
    change some (n.withOwnPlatforms (n.platforms ∪ n.platforms)) = some n
    rw [PlatformSet.union_self, withOwnPlatforms_self]
  again := by
    rintro m z h
    cases h
    change some (n.withOwnPlatforms (n.platforms ∪ m.platforms ∪ n.platforms)) = _
    rw [PlatformSet.union_right_comm, PlatformSet.union_self]

/-- On the platforms of one document the first description of a member has all that the others
say. -/
theorem absorbs_of_platforms {p : PlatformSet} {ms : List Node} (h : ∀ m ∈ ms, m.platforms = p) :
    gathering.Absorbs ms ms := by
  intro m hm
  obtain ⟨n, hn⟩ : ∃ n, gathering.find? m ms = some n :=
    Option.isSome_iff_exists.1 (List.find?_isSome.2 ⟨m, hm, sameMember_refl m⟩)
  apply Gathering.add_eq_self_of_find? hn
  change some (n.withOwnPlatforms (n.platforms ∪ m.platforms)) = some n
  rw [h m hm, h n (List.mem_of_find?_eq_some hn), PlatformSet.union_self,
    ← h n (List.mem_of_find?_eq_some hn), withOwnPlatforms_self]

theorem unite_self {ms : List Node} (h : gathering.Absorbs ms ms) : unite ms ms = ms := by
  have hadd := h.addAll
  rw [addAll_eq_unite] at hadd
  exact Option.some.inj hadd

theorem unite_again {ms : List Node} (h : gathering.Absorbs ms ms) (ns : List Node) :
    unite (unite ms ns) ms = unite ms ns := by
  have hgrown := h.grown (fun m _ => gathering_regular m) (addAll_eq_unite ms ns)
  have hadd := hgrown.addAll
  rw [addAll_eq_unite] at hadd
  exact Option.some.inj hadd

structure Settled (n : Node) : Prop where
  line : n.line = 0
  children : gathering.Absorbs n.children n.children

variable {a : Node}

theorem Settled.merge_self (h : a.Settled) : a.merge a = a := by
  rw [merge, unite_self h.children, PlatformSet.union_self, ← h.line]
  cases a
  rfl

theorem Settled.merge_again (h : a.Settled) (b : Node) : (a.merge b).merge a = a.merge b := by
  simp only [merge, unite_again h.children, PlatformSet.union_right_comm _ b.platforms,
    PlatformSet.union_self]

theorem sameFields_refl (a : Node) : sameFields a a = true := sameShapes_refl _

theorem Settled.mergeAs_self (h : a.Settled) (v : Variant) : a.mergeAs v a = a := by
  rw [mergeAs, mergeRecord_of_sameFields a.sameFields_refl, h.merge_self, ite_self]

/-- Fields that have been left out come back in the union and are left out again. -/
theorem Settled.mergeAs_again (h : a.Settled) (v : Variant) (b : Node) :
    (a.mergeAs v b).mergeAs v a = a.mergeAs v b := by
  unfold mergeAs
  split
  case isTrue =>
    cases hab : sameFields a b with
    | true =>
      have haba : sameFields (a.merge b) a = true := by
        rw [sameFields_merge hab, sameFields_refl]
      rw [mergeRecord_of_sameFields hab, mergeRecord_of_sameFields haba, h.merge_again]
    | false =>
      rw [mergeRecord_of_differ hab, mergeRecord_withoutFields_left, h.merge_again]
  case isFalse => exact h.merge_again b

end Node

namespace RegisteredType

theorem gathering_regular {e : String × RegisteredType} (h : e.2.node.Settled) :
    gathering.Regular e where
  self := by
    change (e.2.merge e.2).toOption.map (e.1, ·) = some e
    rw [merge_toOption, if_pos rfl, h.mergeAs_self]
    rfl
  again := by
    intro f z hz
    obtain ⟨t, ht, rfl⟩ := Option.map_eq_some_iff.1
      (show (e.2.merge f.2).toOption.map (e.1, ·) = some z from hz)
    rw [merge_toOption] at ht
    split at ht
    case isTrue hv =>
      cases ht
      change (RegisteredType.merge ⟨_, _⟩ e.2).toOption.map (e.1, ·) = _
      rw [merge_toOption, if_pos rfl]
      exact congrArg (fun n => some (e.1, RegisteredType.mk e.2.variant n))
        (h.mergeAs_again e.2.variant f.2.node)
    case isFalse => cases ht

end RegisteredType

namespace Namespace

structure Settled (ns : Namespace) : Prop where
  types : ∀ e ∈ ns.types.entries, e.2.node.Settled
  functions : Node.gathering.Absorbs ns.functions ns.functions
  constants : Node.gathering.Absorbs ns.constants ns.constants
  other : Node.gathering.Absorbs ns.other ns.other

variable {ns : Namespace}

theorem foldl_insertNew_self (m : OrderedMap String) :
    m.entries.foldl (fun m e => m.insertNew e.1 e.2) m = m := by
  have h := (m.distinct_entries.absorbs fun e _ => Gathering.keepFirst_regular _ e).addAll
  rw [OrderedMap.addAll_entries] at h
  exact OrderedMap.ext_entries (Option.some.inj h)

theorem foldl_insertNew_again (m n : OrderedMap String) :
    m.entries.foldl (fun m e => m.insertNew e.1 e.2)
        (n.entries.foldl (fun m e => m.insertNew e.1 e.2) m) =
      n.entries.foldl (fun m e => m.insertNew e.1 e.2) m := by
  have hself := m.distinct_entries.absorbs fun e _ => Gathering.keepFirst_regular _ e
  have h := (hself.grown (fun e _ => Gathering.keepFirst_regular _ e)
    (OrderedMap.addAll_entries m n.entries)).addAll
  rw [OrderedMap.addAll_entries] at h
  exact OrderedMap.ext_entries (Option.some.inj h)

theorem Settled.absorbs_types (h : ns.Settled) :
    RegisteredType.gathering.Absorbs ns.types.entries ns.types.entries :=
  (distinct_types ns.types).absorbs fun e he => RegisteredType.gathering_regular (h.types e he)

theorem Settled.merge_self (h : ns.Settled) : (ns.merge ns).toOption = some ns := by
  have htypes : (mergeTypes ns.types ns.types).toOption = some ns.types := by
    refine Option.map_injective (fun _ _ => OrderedMap.ext_entries) ?_
    rw [mergeTypes_entries, h.absorbs_types.addAll, Option.map_some]
  rw [merge_toOption, if_pos rfl, htypes, Option.map_some, mergeWith, foldl_insertNew_self,
    Node.unite_self h.functions, Node.unite_self h.constants, Node.unite_self h.other,
    PlatformSet.union_self]

theorem Settled.merge_again (h : ns.Settled) {b c : Namespace}
    (hc : (ns.merge b).toOption = some c) : (c.merge ns).toOption = some c := by
  rw [merge_toOption] at hc
  split at hc
  case isTrue =>
    obtain ⟨types, ht, rfl⟩ := Option.map_eq_some_iff.1 hc
    have hentries := congrArg (Option.map OrderedMap.entries) ht
    rw [mergeTypes_entries] at hentries
    have hgrown := h.absorbs_types.grown
      (fun e he => RegisteredType.gathering_regular (h.types e he)) hentries
    have htypes : (mergeTypes types ns.types).toOption = some types := by
      refine Option.map_injective (fun _ _ => OrderedMap.ext_entries) ?_
      rw [mergeTypes_entries, hgrown.addAll, Option.map_some]
    rw [merge_toOption]
    refine (if_pos rfl).trans ?_
    change Option.map _ (mergeTypes types ns.types).toOption = _
    rw [htypes, Option.map_some]
    simp only [mergeWith, foldl_insertNew_again, Node.unite_again h.functions,
      Node.unite_again h.constants, Node.unite_again h.other,
      PlatformSet.union_right_comm _ b.platforms, PlatformSet.union_self]
  case isFalse => cases hc

theorem IsOn.settled {p : PlatformSet} (h : ns.IsOn p) : (ns.mapMembers id).Settled where
  types := by
    intro e he
    obtain ⟨e', he', rfl⟩ := List.mem_map.1 he
    refine ⟨rfl, ?_⟩
    change Node.gathering.Absorbs (e'.2.node.children.map id) (e'.2.node.children.map id)
    rw [List.map_id]
    exact Node.absorbs_of_platforms fun m hm =>
      (Node.isOn_iff.1 ((Node.isOn_iff.1 (h.types e' he').1).2 m hm)).1
  functions := by
    change Node.gathering.Absorbs (ns.functions.map id) (ns.functions.map id)
    rw [List.map_id]
    exact Node.absorbs_of_platforms fun m hm => (Node.isOn_iff.1 (h.functions m hm).1).1
  constants := by
    change Node.gathering.Absorbs (ns.constants.map id) (ns.constants.map id)
    rw [List.map_id]
    exact Node.absorbs_of_platforms fun m hm => (Node.isOn_iff.1 (h.constants m hm).1).1
  other := by
    change Node.gathering.Absorbs (ns.other.map id) (ns.other.map id)
    rw [List.map_id]
    exact Node.absorbs_of_platforms fun m hm => (Node.isOn_iff.1 (h.other m hm)).1

end Namespace

namespace Repository

variable {α : Type} [DecidableEq α]

theorem absorbs_values (l : List α) : (Gathering.keepFirst (α := α) id).Absorbs l l :=
  Gathering.keepFirst_absorbs_of_mem fun _ hx => List.mem_map_of_mem hx

theorem uniteValues_self (l : List α) : uniteValues l l = l := by
  have h := (absorbs_values l).addAll
  rw [addAll_uniteValues] at h
  exact Option.some.inj h

theorem uniteValues_again (l m : List α) : uniteValues (uniteValues l m) l = uniteValues l m := by
  have h := ((absorbs_values l).grown (fun x _ => Gathering.keepFirst_regular id x)
    (addAll_uniteValues l m)).addAll
  rw [addAll_uniteValues] at h
  exact Option.some.inj h

theorem gathering_regular {r : Repository} (h : r.library.Settled) : gathering.Regular r where
  self := by
    change (r.merge r).toOption = some r
    rw [merge_toOption, h.merge_self, Option.map_some, mergeWith]
    simp only [uniteValues_self, PlatformSet.union_self]
  again := by
    intro s z hz
    change (z.merge r).toOption = some z
    rw [show gathering.join r s = (r.merge s).toOption from rfl, merge_toOption] at hz
    obtain ⟨ns, hns, rfl⟩ := Option.map_eq_some_iff.1 hz
    rw [merge_toOption]
    change (ns.merge r.library).toOption.map _ = _
    rw [h.merge_again hns, Option.map_some]
    simp only [mergeWith, uniteValues_again, PlatformSet.union_right_comm _ s.platforms,
      PlatformSet.union_self]

/-- Forgets where the elements of types stand, which is no part of what they say. A merge of two of
them stands nowhere. -/
def withoutTypeLines (r : Repository) : Repository := r.mapMembers id

/-- A description of a document that has been merged may be merged once more, and that changes
nothing but the lines of type elements. -/
theorem mergeAll_repeated {s : Source} {r : Repository} (hr : s.repository = .ok r)
    (before mid after : List Repository) {merged : List Repository}
    (h : mergeAll (before ++ r :: (mid ++ after)) = .ok merged) :
    ∃ again, mergeAll (before ++ r :: (mid ++ r :: after)) = .ok again ∧
      again.map withoutTypeLines = merged.map withoutTypeLines := by
  have hregular : gathering.Regular r.withoutTypeLines :=
    gathering_regular (Source.repository_isOn hr).2.settled
  have hmap (rs : List Repository) : (mergeAll rs).toOption.map (List.map withoutTypeLines) =
      gathering.addAll [] (rs.map withoutTypeLines) := by
    rw [← mergeAll_toOption]
    exact (mergeAll_mapMembers Node.keepsMembers_id rs).symm
  have hinsert : (mergeAll (before ++ r :: (mid ++ r :: after))).toOption.map
      (List.map withoutTypeLines) = some (merged.map withoutTypeLines) := by
    rw [hmap]
    simp only [List.map_append, List.map_cons]
    rw [hregular.addAll_insert, ← List.map_append, ← List.map_cons, ← List.map_append, ← hmap, h]
    rfl
  obtain ⟨again, hagain, heq⟩ := Option.map_eq_some_iff.1 hinsert
  exact ⟨again, Attempt.toOption_eq_some_iff.1 hagain, heq⟩

def fieldSource : Source :=
  ⟨"a", .linuxOnly,
    "<repository><namespace name='G'><record name='R'><field/></record></namespace></repository>"⟩

def plainSource : Source :=
  ⟨"b", .macosOnly,
    "<repository><namespace name='G'><record name='R'/></namespace></repository>"⟩

theorem tokens_fieldSource : Markup.tokens fieldSource.content = .ok [
    ⟨.startTag "repository" [] false, ⟨1, 1⟩⟩,
    ⟨.startTag "namespace" [("name", "G")] false, ⟨1, 13⟩⟩,
    ⟨.startTag "record" [("name", "R")] false, ⟨1, 33⟩⟩,
    ⟨.startTag "field" [] true, ⟨1, 50⟩⟩, ⟨.endTag "record", ⟨1, 58⟩⟩,
    ⟨.endTag "namespace", ⟨1, 67⟩⟩, ⟨.endTag "repository", ⟨1, 79⟩⟩, ⟨.endOfInput, ⟨1, 92⟩⟩] :=
  (Markup.tokens_ofList _).trans (Attempt.toOption_eq_some_iff.1 (by decide +kernel))

theorem tokens_plainSource : Markup.tokens plainSource.content = .ok [
    ⟨.startTag "repository" [] false, ⟨1, 1⟩⟩,
    ⟨.startTag "namespace" [("name", "G")] false, ⟨1, 13⟩⟩,
    ⟨.startTag "record" [("name", "R")] true, ⟨1, 33⟩⟩, ⟨.endTag "namespace", ⟨1, 51⟩⟩,
    ⟨.endTag "repository", ⟨1, 63⟩⟩, ⟨.endOfInput, ⟨1, 76⟩⟩] :=
  (Markup.tokens_ofList _).trans (Attempt.toOption_eq_some_iff.1 (by decide +kernel))

/-- The field is left out, and its record brings it along once more. -/
theorem mergeAll_variants_repeated : ∃ first second merged again,
    fieldSource.repository = .ok first ∧ plainSource.repository = .ok second ∧
    mergeAll [first, second] = .ok merged ∧
    merged.flatMap (·.library.types.values.map fun t => t.fields.length) = [0] ∧
    mergeAll [first, second, first] = .ok again ∧
    again.map withoutTypeLines = merged.map withoutTypeLines := by
  obtain ⟨first, second, hfirst, hsecond, hmerge⟩ : ∃ first second,
      fieldSource.repository = .ok first ∧ plainSource.repository = .ok second ∧
      (mergeAll [first, second]).toOption.map
        (·.flatMap (·.library.types.values.map fun t => t.fields.length)) = some [0] := by
    rw [Source.repository, Source.root, tokens_fieldSource, Source.repository, Source.root,
      tokens_plainSource]
    exact ⟨_, _, rfl, rfl, by decide +kernel⟩
  obtain ⟨merged, hmerged, hfields⟩ := Option.map_eq_some_iff.1 hmerge
  rw [Attempt.toOption_eq_some_iff] at hmerged
  obtain ⟨again, hagain, hsame⟩ := mergeAll_repeated hfirst [] [second] [] hmerged
  exact ⟨first, second, merged, again, hfirst, hsecond, hmerged, hfields, hagain, hsame⟩

end Repository
end GirBind
