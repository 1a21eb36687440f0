import Mathlib.Data.List.Nodup
import Mathlib.Data.List.Perm.Subperm
import GirBind.OrderedMap

namespace GirBind.OrderedMap

variable {α : Type u} {β : Type v} {m n : OrderedMap α} {key : String} {value : α}

theorem nodup_entries (m : OrderedMap α) : m.entries.Nodup := .of_map Prod.fst m.nodup_keys

theorem eq_of_mem_of_key_eq {e f : String × α} (he : e ∈ m.entries) (hf : f ∈ m.entries)
    (h : e.1 = f.1) : e = f :=
  List.inj_on_of_nodup_map m.nodup_keys he hf h

theorem get?_eq_some_iff : m.get? key = some value ↔ (key, value) ∈ m.entries := by
  rw [get?, Option.map_eq_some_iff]
  constructor
  · rintro ⟨e, he, rfl⟩
    have hkey := List.find?_some he
    rw [beq_iff_eq] at hkey
    rw [← hkey]
    exact List.mem_of_find?_eq_some he
  · intro h
    cases hf : m.entries.find? fun e => e.1 == key with
    | none => exact absurd (beq_self_eq_true key) (List.find?_eq_none.1 hf _ h)
    | some e =>
      have hkey := List.find?_some hf
      rw [beq_iff_eq] at hkey
      exact ⟨e, rfl, congrArg Prod.snd (eq_of_mem_of_key_eq (List.mem_of_find?_eq_some hf) h hkey)⟩

theorem map_values_eq_keys {f : α → String} (h : ∀ e ∈ m.entries, f e.2 = e.1) :
    m.values.map f = m.keys := by
  rw [values, keys, List.map_map]
  exact List.map_congr_left h

theorem mem_values_of_get? (h : m.get? key = some value) : value ∈ m.values :=
  List.mem_map.2 ⟨_, get?_eq_some_iff.1 h, rfl⟩

theorem get?_eq_none_iff : m.get? key = none ↔ key ∉ m.keys := by
  rw [get?, Option.map_eq_none_iff, List.find?_eq_none]
  constructor
  · intro h hk
    obtain ⟨e, he, rfl⟩ := List.mem_map.1 hk
    exact h e he (beq_self_eq_true e.1)
  · intro h e he hk
    rw [beq_iff_eq] at hk
    exact h (hk ▸ List.mem_map_of_mem he)

theorem contains_iff : m.contains key = true ↔ key ∈ m.keys := by
  rw [contains, List.any_eq_true, keys, List.mem_map]
  simp only [beq_iff_eq]

theorem contains_eq_isSome (m : OrderedMap α) (key : String) :
    m.contains key = (m.get? key).isSome := by
  rw [contains, get?, Option.isSome_map, List.isSome_find?]

theorem get?_eq_of_perm (h : m.entries.Perm n.entries) (key : String) :
    m.get? key = n.get? key := by
  ext value
  rw [get?_eq_some_iff, get?_eq_some_iff, h.mem_iff]

/-- Maps with the same entries differ at most in the order of their keys. -/
theorem sameEntries_iff_perm [BEq α] [LawfulBEq α] :
    m.sameEntries n = true ↔ m.entries.Perm n.entries := by
  rw [sameEntries, Bool.and_eq_true, List.all_eq_true, beq_iff_eq]
  simp only [beq_iff_eq, get?_eq_some_iff]
  constructor
  · rintro ⟨hsize, hsub⟩
    exact (List.subperm_of_subset m.nodup_entries hsub).perm_of_length_le (Nat.le_of_eq hsize.symm)
  · intro h
    exact ⟨h.length_eq, fun e he => h.subset he⟩

theorem entries_insert_of_not_contains (h : ¬ m.contains key = true) :
    (m.insert key value).entries = m.entries ++ [(key, value)] := by
  rw [insert, dif_neg h]

theorem entries_insertNew (m : OrderedMap α) (key : String) (value : α) :
    (m.insertNew key value).entries =
      if m.contains key then m.entries else m.entries ++ [(key, value)] := by
  unfold insertNew insert
  split
  · rfl
  · rfl

theorem entries_modify (m : OrderedMap α) (key : String) (f : α → α) :
    (m.modify key f).entries = m.entries.map fun e => if e.1 == key then (e.1, f e.2) else e := rfl

theorem entries_map (m : OrderedMap α) (f : α → β) :
    (m.map f).entries = m.entries.map fun e => (e.1, f e.2) := rfl

theorem values_map (m : OrderedMap α) (f : α → β) : (m.map f).values = m.values.map f := by
  rw [values, values, entries_map, List.map_map, List.map_map]
  rfl

theorem map_map {γ : Type w} (m : OrderedMap α) (f : α → β) (g : β → γ) :
    (m.map f).map g = m.map (g ∘ f) := by
  apply ext_entries
  rw [entries_map, entries_map, entries_map, List.map_map]
  rfl

theorem get?_map (m : OrderedMap α) (f : α → β) (key : String) :
    (m.map f).get? key = (m.get? key).map f := by
  rw [get?, get?, entries_map, List.find?_map, Option.map_map, Option.map_map]
  rfl

theorem contains_map (m : OrderedMap α) (f : α → β) (key : String) :
    (m.map f).contains key = m.contains key := by
  rw [contains_eq_isSome, contains_eq_isSome, get?_map, Option.isSome_map]

theorem modify_map (m : OrderedMap α) (key : String) {f : α → β} {g : α → α} {g' : β → β}
    (h : ∀ a, g' (f a) = f (g a)) : (m.map f).modify key g' = (m.modify key g).map f := by
  apply ext_entries
  rw [entries_modify, entries_map, entries_map, entries_modify, List.map_map, List.map_map]
  refine List.map_congr_left fun e _ => ?_
  simp only [Function.comp_apply]
  split
  case isTrue => rw [h]
  case isFalse => rfl

theorem insert_map (m : OrderedMap α) (f : α → β) (key : String) (value : α) :
    (m.map f).insert key (f value) = (m.insert key value).map f := by
  unfold insert
  by_cases h : m.contains key = true
  · rw [dif_pos h, dif_pos ((contains_map m f key).trans h)]
    exact modify_map m key fun _ => rfl
  · rw [dif_neg h, dif_neg (contains_map m f key ▸ h)]
    apply ext_entries
    simp only [entries_map, List.map_append, List.map_singleton]

theorem insertNew_map (m : OrderedMap α) (f : α → β) (key : String) (value : α) :
    (m.map f).insertNew key (f value) = (m.insertNew key value).map f := by
  rw [insertNew, insertNew, contains_map, insert_map]
  split
  case isTrue => rfl
  case isFalse => rfl

theorem erase_map (m : OrderedMap α) (f : α → β) (key : String) :
    (m.map f).erase key = (m.erase key).map f := by
  apply ext_entries
  exact List.filter_map

theorem key_ne_of_split {e : String × α} {before after : List (String × α)}
    (h : m.entries = before ++ e :: after) : ∀ f ∈ before ++ after, (f.1 == e.1) = false := by
  have hkeys := m.nodup_keys
  rw [h, List.map_append, List.map_cons, List.nodup_append, List.nodup_cons] at hkeys
  obtain ⟨-, ⟨hafter, -⟩, hbefore⟩ := hkeys
  intro f hf
  rw [beq_eq_false_iff_ne]
  rcases List.mem_append.1 hf with hf | hf
  · exact hbefore f.1 (List.mem_map_of_mem hf) e.1 List.mem_cons_self
  · intro he
    exact hafter (he ▸ List.mem_map_of_mem hf)

theorem entries_insert_of_split {e : String × α} {before after : List (String × α)}
    (h : m.entries = before ++ e :: after) (value : α) :
    (m.insert e.1 value).entries = before ++ (e.1, value) :: after := by
  have hother := key_ne_of_split h
  have hid (l : List (String × α)) (hl : ∀ f ∈ l, (f.1 == e.1) = false) :
      (l.map fun f => if f.1 == e.1 then (f.1, value) else f) = l := by
    refine (List.map_congr_left fun f hf => ?_).trans (List.map_id l)
    rw [hl f hf, if_neg Bool.false_ne_true, id]
  have hmem : e ∈ m.entries := h ▸ List.mem_append_right _ List.mem_cons_self
  have hcontains : m.contains e.1 = true := contains_iff.2 (List.mem_map_of_mem hmem)
  rw [insert, dif_pos hcontains, entries_modify, h, List.map_append, List.map_cons,
    hid before fun f hf => hother f (List.mem_append_left _ hf),
    hid after fun f hf => hother f (List.mem_append_right _ hf), beq_self_eq_true, if_pos rfl]

theorem mem_entries_insert {e : String × α} (h : e ∈ (m.insert key value).entries) :
    e = (key, value) ∨ e ∈ m.entries := by
  unfold insert at h
  split at h
  case isTrue =>
    rw [entries_modify] at h
    obtain ⟨e', he', rfl⟩ := List.mem_map.1 h
    split
    case isTrue hkey => exact .inl (by rw [beq_iff_eq.1 hkey])
    case isFalse => exact .inr he'
  case isFalse =>
    rcases List.mem_append.1 h with h | h
    · exact .inr h
    · exact .inl (List.mem_singleton.1 h)

theorem mem_values_insert {v : α} (h : v ∈ (m.insert key value).values) :
    v = value ∨ v ∈ m.values := by
  obtain ⟨e, he, rfl⟩ := List.mem_map.1 h
  rcases mem_entries_insert he with rfl | he
  · exact .inl rfl
  · exact .inr (List.mem_map_of_mem he)

theorem filter_entries (m : OrderedMap α) (key : String) :
    m.entries.filter (·.1 == key) = ((m.get? key).map (key, ·)).toList := by
  cases h : m.get? key with
  | none =>
    apply List.filter_eq_nil_iff.2
    intro e he hk
    exact get?_eq_none_iff.1 h (eq_of_beq hk ▸ List.mem_map_of_mem he)
  | some value =>
    obtain ⟨before, after, hsplit⟩ := List.append_of_mem (get?_eq_some_iff.1 h)
    have hother := key_ne_of_split hsplit
    have hnil (l : List (String × α)) (hl : ∀ f ∈ l, (f.1 == key) = false) :
        l.filter (·.1 == key) = [] :=
      List.filter_eq_nil_iff.2 fun f hf => Bool.eq_false_iff.1 (hl f hf)
    rw [hsplit, List.filter_append, hnil before fun f hf => hother f (List.mem_append_left _ hf),
      List.filter_cons_of_pos (p := fun e => e.1 == key) (a := (key, value))
        (beq_self_eq_true key),
      hnil after fun f hf => hother f (List.mem_append_right _ hf)]
    rfl

theorem find?_entries (m : OrderedMap α) (key : String) :
    m.entries.find? (·.1 == key) = (m.get? key).map (key, ·) := by
  rw [← List.head?_filter, filter_entries, Option.head?_toList]

theorem foldl_insert_entries (m : OrderedMap α) {l : List (String × α)}
    (h : (m.entries ++ l).Pairwise (·.1 ≠ ·.1)) :
    (l.foldl (fun m e => m.insert e.1 e.2) m).entries = m.entries ++ l := by
  induction l generalizing m with
  | nil => exact (List.append_nil _).symm
  | cons e l ih =>
    have hnew : ¬ m.contains e.1 = true := by
      rw [contains_iff]
      intro hkey
      obtain ⟨f, hf, hfe⟩ := List.mem_map.1 hkey
      exact (List.pairwise_append.1 h).2.2 f hf e List.mem_cons_self hfe
    have hentries : (m.insert e.1 e.2).entries = m.entries ++ [e] :=
      entries_insert_of_not_contains hnew
    rw [List.append_cons] at h ⊢
    rw [List.foldl_cons, ih, hentries]
    rwa [hentries]

theorem ofList_entries (m : OrderedMap α) : ofList m.entries = m := by
  apply ext_entries
  rw [ofList, foldl_insert_entries]
  · rfl
  · exact List.pairwise_map.1 m.nodup_keys

theorem get?_modify (m : OrderedMap α) (key : String) (f : α → α) :
    (m.modify key f).get? key = (m.get? key).map f := by
  have hkeys : ∀ e : String × α, (if e.1 == key then (e.1, f e.2) else e).1 = e.1 := by
    intro e
    split
    case isTrue => rfl
    case isFalse => rfl
  rw [get?, get?, entries_modify, List.find?_map]
  simp only [Function.comp_def, hkeys]
  cases h : m.entries.find? fun e => e.1 == key with
  | none => rfl
  | some e => simp only [Option.map_some, if_pos (List.find?_some h)]

theorem get?_modify_of_ne {f : α → α} {other : String} (h : key ≠ other) :
    (m.modify key f).get? other = m.get? other := by
  ext value
  rw [get?_eq_some_iff, get?_eq_some_iff, entries_modify, List.mem_map]
  constructor
  · rintro ⟨e, he, heq⟩
    split at heq
    case isTrue hkey => exact absurd ((beq_iff_eq.1 hkey).symm.trans (Prod.mk.inj heq).1) h
    case isFalse => exact heq ▸ he
  · intro hmem
    refine ⟨_, hmem, ?_⟩
    rw [if_neg fun hkey => h (beq_iff_eq.1 hkey).symm]

theorem keys_modify (m : OrderedMap α) (key : String) (f : α → α) :
    (m.modify key f).keys = m.keys := by
  rw [keys, keys, entries_modify, List.map_map]
  apply List.map_congr_left
  intro e _
  rw [Function.comp_apply]
  split
  case isTrue => rfl
  case isFalse => rfl

theorem keys_insert_of_contains (h : m.contains key = true) : (m.insert key value).keys = m.keys := by
  rw [insert, dif_pos h, keys_modify]

theorem keys_insert_of_not_contains (h : ¬ m.contains key = true) :
    (m.insert key value).keys = m.keys ++ [key] := by
  rw [keys, entries_insert_of_not_contains h, List.map_append]
  rfl

theorem modify_eq_self_iff {f : α → α} : m.modify key f = m ↔ (m.get? key).map f = m.get? key := by
  constructor
  · intro h
    rw [← get?_modify, h]
  · intro h
    apply ext_entries
    rw [entries_modify]
    refine (List.map_congr_left fun e he => ?_).trans (List.map_id _)
    split
    case isTrue hkey =>
      have hget : m.get? key = some e.2 := get?_eq_some_iff.2 (eq_of_beq hkey ▸ he)
      rw [hget, Option.map_some] at h
      rw [Option.some.inj h, id]
    case isFalse => rfl

theorem get?_insert (m : OrderedMap α) (key : String) (value : α) :
    (m.insert key value).get? key = some value := by
  by_cases h : m.contains key = true
  · rw [insert, dif_pos h, get?_modify]
    obtain ⟨old, hold⟩ := Option.isSome_iff_exists.1 ((contains_eq_isSome m key).symm.trans h)
    rw [hold, Option.map_some]
  · rw [get?_eq_some_iff, entries_insert_of_not_contains h]
    exact List.mem_append_right _ (List.mem_singleton_self _)

theorem get?_insert_of_ne {other : String} (h : key ≠ other) :
    (m.insert key value).get? other = m.get? other := by
  unfold insert
  split
  case isTrue => exact get?_modify_of_ne h
  case isFalse =>
    have hlast : [(key, value)].find? (fun e => e.1 == other) = none := by
      rw [List.find?_singleton, if_neg]
      exact fun hkey => h (beq_iff_eq.1 hkey)
    rw [get?, get?, List.find?_append, hlast, Option.or_none]

theorem insert_eq_self_iff : m.insert key value = m ↔ m.get? key = some value := by
  constructor
  · intro h
    rw [← get?_insert m key value, h]
  · intro h
    have hcontains : m.contains key = true := by
      rw [contains_eq_isSome, h]
      rfl
    rw [insert, dif_pos hcontains, modify_eq_self_iff, h]
    rfl

theorem erase_eq_self_iff : m.erase key = m ↔ ¬ m.contains key = true := by
  rw [contains_iff, keys, List.mem_map]
  constructor
  · rintro h ⟨e, he, rfl⟩
    have hkept := congrArg entries h
    rw [← hkept] at he
    exact bne_iff_ne.1 (List.mem_filter.1 he).2 rfl
  · intro h
    apply ext_entries
    apply List.filter_eq_self.2
    intro e he
    exact bne_iff_ne.2 fun hkey => h ⟨e, he, hkey⟩

theorem not_contains_erase (m : OrderedMap α) (key : String) :
    ¬ (m.erase key).contains key = true := by
  rw [← erase_eq_self_iff]
  apply ext_entries
  exact List.filter_filter.trans (by simp only [Bool.and_self]; rfl)

end GirBind.OrderedMap
