import Mathlib.Data.List.Sort
import GirBind.Config.Basic
import GirBind.Proofs.Attempt
import GirBind.Proofs.OrderedMap

namespace GirBind

theorem PlatformSet.rank_injective : Function.Injective rank := by
  rintro ⟨l, w, m⟩ ⟨l', w', m'⟩
  revert l w m l' w' m'
  decide

theorem OrderedMap.exists_first {α : Type u} {m : OrderedMap α} {e : String × α}
    (h : e ∈ m.entries) :
    ∃ n : OrderedMap α, n.entries.Perm m.entries ∧ ∃ rest, n.entries = e :: rest := by
  obtain ⟨before, after, hsplit⟩ := List.append_of_mem h
  have hperm : (e :: (before ++ after)).Perm m.entries := hsplit ▸ List.perm_middle.symm
  have hkeys : ((e :: (before ++ after)).map Prod.fst).Nodup :=
    (hperm.map Prod.fst).nodup_iff.2 m.nodup_keys
  exact ⟨⟨_, hkeys⟩, hperm, _, rfl⟩

namespace Config

def inPlatformOrder (dirs : List (PlatformSet × String)) : List (PlatformSet × String) :=
  dirs.mergeSort fun a b => a.1.rank ≤ b.1.rank

section InPlatformOrder

variable {dirs dirs' : List (PlatformSet × String)}

theorem perm_inPlatformOrder (dirs : List (PlatformSet × String)) :
    (inPlatformOrder dirs).Perm dirs :=
  List.mergeSort_perm _ _

theorem rank_le_trans (a b c : PlatformSet × String) (hab : decide (a.1.rank ≤ b.1.rank) = true)
    (hbc : decide (b.1.rank ≤ c.1.rank) = true) : decide (a.1.rank ≤ c.1.rank) = true := by
  rw [decide_eq_true_eq] at *
  exact Nat.le_trans hab hbc

theorem rank_le_total (a b : PlatformSet × String) :
    (decide (a.1.rank ≤ b.1.rank) || decide (b.1.rank ≤ a.1.rank)) = true := by
  rw [Bool.or_eq_true, decide_eq_true_eq, decide_eq_true_eq]
  exact Nat.le_total _ _

theorem pairwise_inPlatformOrder (dirs : List (PlatformSet × String)) :
    (inPlatformOrder dirs).Pairwise (·.1.rank ≤ ·.1.rank) := by
  apply (List.pairwise_mergeSort rank_le_trans rank_le_total dirs).imp
  intro a b hab
  exact of_decide_eq_true hab

/-- The directories of one platform set stay in the order in which they are listed. -/
theorem filter_inPlatformOrder (dirs : List (PlatformSet × String)) (platforms : PlatformSet) :
    (inPlatformOrder dirs).filter (·.1 == platforms) = dirs.filter (·.1 == platforms) := by
  have hties : (dirs.filter (·.1 == platforms)).Pairwise
      fun a b => decide (a.1.rank ≤ b.1.rank) = true := by
    apply List.pairwise_of_forall_mem_list
    intro a ha b hb
    have ha := beq_iff_eq.1 (List.mem_filter.1 ha).2
    have hb := beq_iff_eq.1 (List.mem_filter.1 hb).2
    rw [ha, hb, decide_eq_true_eq]
  have hsub := List.sublist_mergeSort rank_le_trans rank_le_total hties List.filter_sublist
  have hlength := ((perm_inPlatformOrder dirs).filter (·.1 == platforms)).length_eq
  have hfilter := hsub.filter (·.1 == platforms)
  rw [List.filter_filter] at hfilter
  simp only [Bool.and_self] at hfilter
  exact (hfilter.eq_of_length hlength.symm).symm

theorem map_fst_inPlatformOrder (h : dirs.Perm dirs') :
    (inPlatformOrder dirs).map Prod.fst = (inPlatformOrder dirs').map Prod.fst := by
  have hperm := (perm_inPlatformOrder dirs).trans (h.trans (perm_inPlatformOrder dirs').symm)
  have hsorted (dirs : List (PlatformSet × String)) :
      ((inPlatformOrder dirs).map Prod.fst).Pairwise fun p q => p.rank ≤ q.rank :=
    List.pairwise_map.2 (pairwise_inPlatformOrder dirs)
  refine List.Perm.eq_of_pairwise ?_ (hsorted dirs) (hsorted dirs') (hperm.map Prod.fst)
  intro p q _ _ hpq hqp
  exact PlatformSet.rank_injective (Nat.le_antisymm hpq hqp)

theorem inPlatformOrder_congr (h : dirs.Perm dirs')
    (hone : ∀ a ∈ dirs, ∀ b ∈ dirs, a.1 = b.1 → a.2 = b.2) :
    inPlatformOrder dirs = inPlatformOrder dirs' := by
  have hsame := perm_inPlatformOrder dirs
  have hsame' := (perm_inPlatformOrder dirs').trans h.symm
  refine List.Perm.eq_of_pairwise ?_ (pairwise_inPlatformOrder dirs)
    (pairwise_inPlatformOrder dirs') (hsame.trans hsame'.symm)
  intro a b ha hb hab hba
  have hplatforms : a.1 = b.1 := PlatformSet.rank_injective (Nat.le_antisymm hab hba)
  exact Prod.ext hplatforms (hone a (hsame.subset ha) b (hsame'.subset hb) hplatforms)

end InPlatformOrder

def placed (entries : List (String × String)) : List (PlatformSet × String) :=
  entries.filterMap fun e => (PlatformSet.ofName? e.1).map (·, e.2)

def isUnknown (e : String × String) : Bool := (PlatformSet.ofName? e.1).isNone

theorem isUnknown_iff {e : String × String} :
    isUnknown e = true ↔ PlatformSet.ofName? e.1 = none := by
  rw [isUnknown, Option.isNone_iff_eq_none]

theorem mapM_inputDirectory (entries : List (String × String)) :
    (entries.mapM fun e => inputDirectory e.1 e.2) =
      match entries.find? isUnknown with
      | some e => .error (.invalidFormat (.unknownPlatform e.1))
      | none => .ok (placed entries) := by
  induction entries with
  | nil => rfl
  | cons e entries ih =>
    rw [List.mapM_cons, ih, List.find?_cons]
    cases hp : PlatformSet.ofName? e.1 with
    | none =>
      simp only [inputDirectory, isUnknown, hp]
      rfl
    | some platforms =>
      simp only [inputDirectory, isUnknown, placed, List.filterMap_cons, hp]
      cases entries.find? isUnknown with
      | none => rfl
      | some f => rfl

/-- An unknown name is reported, the first one that is met, and otherwise the directories are in the
order of their platforms. -/
theorem inputDirectories_eq (c : Config) :
    c.inputDirectories =
      match c.inputs.entries.find? isUnknown with
      | some e => .error (.invalidFormat (.unknownPlatform e.1))
      | none => .ok (inPlatformOrder (placed c.inputs.entries)) := by
  rw [inputDirectories, mapM_inputDirectory]
  cases c.inputs.entries.find? isUnknown with
  | none => rfl
  | some e => rfl

def SameInputs (c c' : Config) : Prop := c'.inputs.entries.Perm c.inputs.entries

/-- There is at most one unknown name, and if there is none, then names of the same platforms have
the same directory. -/
@[mk_iff]
structure IsUnambiguous (c : Config) : Prop where
  unknown : ∀ e ∈ c.inputs.entries, ∀ f ∈ c.inputs.entries,
    isUnknown e = true → isUnknown f = true → e = f
  known : (∀ e ∈ c.inputs.entries, isUnknown e = false) →
    ∀ e ∈ c.inputs.entries, ∀ f ∈ c.inputs.entries,
      PlatformSet.ofName? e.1 = PlatformSet.ofName? f.1 → e.2 = f.2

/-- What two results about the same inputs have in common in any case: both report a name of theirs
that is unknown, or both give the same directories, platform set by platform set. -/
inductive AgreeUpToTies (inputs : OrderedMap String) :
    Except Error (List (PlatformSet × String)) → Except Error (List (PlatformSet × String)) → Prop
  | refused {e f : String × String} (he : e ∈ inputs.entries) (hf : f ∈ inputs.entries)
      (hunknown : isUnknown e = true ∧ isUnknown f = true) :
      AgreeUpToTies inputs (.error (.invalidFormat (.unknownPlatform e.1)))
        (.error (.invalidFormat (.unknownPlatform f.1)))
  | listed {dirs dirs' : List (PlatformSet × String)} (hdirs : dirs.Perm dirs')
      (hplatforms : dirs.map Prod.fst = dirs'.map Prod.fst) :
      AgreeUpToTies inputs (.ok dirs) (.ok dirs')

namespace SameInputs

variable {c c' : Config}

theorem exists_first {e : String × String} (he : e ∈ c.inputs.entries) :
    ∃ c', SameInputs c c' ∧ ∃ rest, c'.inputs.entries = e :: rest := by
  obtain ⟨inputs, hperm, hfirst⟩ := OrderedMap.exists_first he
  exact ⟨{ c with inputs }, hperm, hfirst⟩

theorem find?_eq_none_iff (h : SameInputs c c') :
    c'.inputs.entries.find? isUnknown = none ↔ c.inputs.entries.find? isUnknown = none := by
  rw [List.find?_eq_none, List.find?_eq_none]
  constructor
  · intro hnone e he
    exact hnone e (h.symm.subset he)
  · intro hnone e he
    exact hnone e (h.subset he)

theorem agreeUpToTies (h : SameInputs c c') :
    AgreeUpToTies c.inputs c.inputDirectories c'.inputDirectories := by
  have hiff := h.find?_eq_none_iff
  rw [inputDirectories_eq, inputDirectories_eq]
  cases hfind : c.inputs.entries.find? isUnknown with
  | none =>
    rw [hiff.2 hfind]
    have hplaced : (placed c.inputs.entries).Perm (placed c'.inputs.entries) := h.symm.filterMap _
    apply AgreeUpToTies.listed
    · exact (perm_inPlatformOrder _).trans (hplaced.trans (perm_inPlatformOrder _).symm)
    · exact map_fst_inPlatformOrder hplaced
  | some e =>
    cases hfind' : c'.inputs.entries.find? isUnknown with
    | none =>
      rw [hiff.1 hfind'] at hfind
      cases hfind
    | some f =>
      apply AgreeUpToTies.refused
      · exact List.mem_of_find?_eq_some hfind
      · exact h.subset (List.mem_of_find?_eq_some hfind')
      · exact ⟨List.find?_some hfind, List.find?_some hfind'⟩

end SameInputs

theorem IsUnambiguous.inputDirectories_eq {c c' : Config} (hc : c.IsUnambiguous)
    (h : SameInputs c c') : c'.inputDirectories = c.inputDirectories := by
  have hiff := h.find?_eq_none_iff
  rw [Config.inputDirectories_eq, Config.inputDirectories_eq]
  cases hfind : c.inputs.entries.find? isUnknown with
  | none =>
    rw [hiff.2 hfind]
    have hknown : ∀ e ∈ c.inputs.entries, isUnknown e = false := by
      intro e he
      exact Bool.eq_false_iff.2 (List.find?_eq_none.1 hfind e he)
    have hplaced : (placed c.inputs.entries).Perm (placed c'.inputs.entries) := h.symm.filterMap _
    refine congrArg Except.ok (inPlatformOrder_congr hplaced ?_).symm
    intro a ha b hb hab
    obtain ⟨e, he, hea⟩ := List.mem_filterMap.1 ha
    obtain ⟨f, hf, hfb⟩ := List.mem_filterMap.1 hb
    obtain ⟨p, hp, rfl⟩ := Option.map_eq_some_iff.1 hea
    obtain ⟨q, hq, rfl⟩ := Option.map_eq_some_iff.1 hfb
    obtain rfl : p = q := hab
    exact hc.known hknown e he f hf (hp.trans hq.symm)
  | some e =>
    cases hfind' : c'.inputs.entries.find? isUnknown with
    | none =>
      rw [hiff.1 hfind'] at hfind
      cases hfind
    | some f =>
      have hf := h.subset (List.mem_of_find?_eq_some hfind')
      rw [hc.unknown e (List.mem_of_find?_eq_some hfind) f hf (List.find?_some hfind)
        (List.find?_some hfind')]

theorem isUnambiguous_of_inputDirectories_eq {c : Config}
    (h : ∀ c', SameInputs c c' → c'.inputDirectories = c.inputDirectories) : c.IsUnambiguous := by
  constructor
  · intro e he f hf hue huf
    -- Each of the two unknown names is reported where it comes first.
    have hreport {e : String × String} (he : e ∈ c.inputs.entries) (hue : isUnknown e = true) :
        c.inputDirectories = .error (.invalidFormat (.unknownPlatform e.1)) := by
      obtain ⟨c', hsame, rest, hfirst⟩ := SameInputs.exists_first he
      rw [← h c' hsame, inputDirectories_eq, hfirst, List.find?_cons_of_pos hue]
    have hreports := (hreport he hue).symm.trans (hreport hf huf)
    injection hreports with hreports
    injection hreports with hreports
    injection hreports with hname
    exact OrderedMap.eq_of_mem_of_key_eq he hf hname
  · intro hknown e he f hf hplatforms
    -- Each of the two directories leads those of its platforms where it comes first.
    have hlead {e : String × String} (he : e ∈ c.inputs.entries) {p : PlatformSet}
        (hp : PlatformSet.ofName? e.1 = some p) :
        ∃ rest, (inPlatformOrder (placed c.inputs.entries)).filter (·.1 == p) =
          (p, e.2) :: rest := by
      obtain ⟨c', hsame, rest, hfirst⟩ := SameInputs.exists_first he
      have hnone : c.inputs.entries.find? isUnknown = none := by
        rw [List.find?_eq_none]
        intro g hg
        rw [hknown g hg]
        exact Bool.false_ne_true
      have hresult := h c' hsame
      rw [inputDirectories_eq, inputDirectories_eq, hsame.find?_eq_none_iff.2 hnone, hnone] at hresult
      injection hresult with hresult
      rw [← hresult, filter_inPlatformOrder, hfirst, placed, List.filterMap_cons, hp]
      exact ⟨_, List.filter_cons_of_pos (beq_self_eq_true p)⟩
    cases hp : PlatformSet.ofName? e.1 with
    | none => exact absurd (isUnknown_iff.2 hp) (Bool.eq_false_iff.1 (hknown e he))
    | some p =>
      obtain ⟨rest, hrest⟩ := hlead he hp
      obtain ⟨rest', hrest'⟩ := hlead hf (hplatforms.symm.trans hp)
      rw [hrest] at hrest'
      injection hrest' with hdirs
      exact (Prod.mk.inj hdirs).2

/-- The order in which inputs are listed does not count exactly if they are unambiguous. In any case
the same inputs are refused or accepted, and if accepted then every platform set gets the same
directories at the same places. -/
theorem inputDirectories_order (c : Config) :
    ((∀ c', SameInputs c c' → c'.inputDirectories = c.inputDirectories) ↔ c.IsUnambiguous) ∧
      ∀ c', SameInputs c c' →
        AgreeUpToTies c.inputs c.inputDirectories c'.inputDirectories := by
  refine ⟨⟨isUnambiguous_of_inputDirectories_eq, ?_⟩, ?_⟩
  · intro hc c' h
    exact hc.inputDirectories_eq h
  · intro c' h
    exact h.agreeUpToTies

def plainInputs : Config :=
  { empty with inputs := ⟨[("all", "x"), ("Windows", "w"), ("linux", "l")], by decide⟩ }

def plainInputs' : Config :=
  { empty with inputs := ⟨[("Windows", "w"), ("linux", "l"), ("all", "x")], by decide⟩ }

theorem isUnambiguous_plainInputs : plainInputs.IsUnambiguous := by
  rw [isUnambiguous_iff]
  decide +kernel

theorem inputDirectories_of_plainInputs : SameInputs plainInputs plainInputs' ∧
    plainInputs.IsUnambiguous ∧ plainInputs'.inputDirectories = plainInputs.inputDirectories := by
  have hsame : SameInputs plainInputs plainInputs' := by
    rw [SameInputs]
    decide
  exact ⟨hsame, isUnambiguous_plainInputs,
    (inputDirectories_order plainInputs).1.2 isUnambiguous_plainInputs _ hsame⟩

def twoSpellings : Config :=
  { empty with inputs := ⟨[("linux", "a"), ("Linux", "b")], by decide⟩ }

def twoSpellings' : Config :=
  { empty with inputs := ⟨[("Linux", "b"), ("linux", "a")], by decide⟩ }

theorem inputDirectories_of_one_platform {c : Config} {platforms : PlatformSet}
    {first second : String} (hnone : c.inputs.entries.find? isUnknown = none)
    (hplaced : placed c.inputs.entries = [(platforms, first), (platforms, second)]) :
    c.inputDirectories = .ok [(platforms, first), (platforms, second)] := by
  rw [inputDirectories_eq, hnone, hplaced]
  exact congrArg Except.ok (List.mergeSort_of_pairwise
    (List.pairwise_pair.2 (decide_eq_true (Nat.le_refl _))))

/-- Which of two directories of one platform comes first is left to the order of the inputs. -/
theorem exists_listed_order : ∃ c c', SameInputs c c' ∧
    c.inputDirectories = .ok [(.linuxOnly, "a"), (.linuxOnly, "b")] ∧
    c'.inputDirectories = .ok [(.linuxOnly, "b"), (.linuxOnly, "a")] ∧
    c'.inputDirectories ≠ c.inputDirectories := by
  have hfirst : twoSpellings.inputDirectories = .ok [(.linuxOnly, "a"), (.linuxOnly, "b")] :=
    inputDirectories_of_one_platform (by decide +kernel) (by decide +kernel)
  have hsecond : twoSpellings'.inputDirectories = .ok [(.linuxOnly, "b"), (.linuxOnly, "a")] :=
    inputDirectories_of_one_platform (by decide +kernel) (by decide +kernel)
  refine ⟨twoSpellings, twoSpellings', .swap _ _ _, hfirst, hsecond, ?_⟩
  rw [hfirst, hsecond]
  decide

end Config
end GirBind
