import GirBind.Binding.Namespace
import GirBind.Proofs.LibraryMerge

namespace GirBind

namespace SymbolTable

theorem entries_foldl_add {table : SymbolTable} {rs : List Repository}
    (h : (table.libraries.keys ++ rs.map (·.library.name)).Nodup) :
    (rs.foldl (fun table r => table.add r.library) table).libraries.entries =
      table.libraries.entries ++ rs.map fun r => (r.library.name, r.library) := by
  induction rs generalizing table with
  | nil => exact (List.append_nil _).symm
  | cons r rs ih =>
    rw [List.map_cons, List.nodup_append] at h
    obtain ⟨hkeys, hnames, hnew⟩ := h
    have habsent : ¬ table.libraries.contains r.library.name = true := fun hc =>
      hnew _ (OrderedMap.contains_iff.1 hc) _ List.mem_cons_self rfl
    have hadd : (table.add r.library).libraries.entries =
        table.libraries.entries ++ [(r.library.name, r.library)] :=
      OrderedMap.entries_insert_of_not_contains habsent
    have hnext : ((table.add r.library).libraries.keys ++ rs.map (·.library.name)).Nodup := by
      rw [OrderedMap.keys, hadd, List.map_append, List.append_assoc, List.nodup_append]
      exact ⟨hkeys, hnames, hnew⟩
    rw [List.foldl_cons, ih hnext, hadd, List.append_assoc]
    rfl

variable {rs : List Repository} {naming : PackageNaming}

theorem entries_build (h : (rs.map (·.library.name)).Nodup) :
    (build rs naming).libraries.entries = rs.map fun r => (r.library.name, r.library) :=
  entries_foldl_add h

theorem namespaces_build (h : (rs.map (·.library.name)).Nodup) :
    (build rs naming).namespaces = rs.map Repository.library := by
  rw [namespaces, OrderedMap.values, entries_build h, List.map_map]
  rfl

theorem bind_build (h : (rs.map (·.library.name)).Nodup) (naming : PackageNaming)
    (floating : FloatingTable) :
    (build rs naming).bind floating =
      rs.map fun r => BindingContext.bindNamespace ⟨build rs naming, r.library⟩ floating := by
  rw [bind, namespaces_build h, List.map_map]
  rfl

theorem naming_build (rs : List Repository) (naming : PackageNaming) :
    (build rs naming).naming = naming := by
  have h (table : SymbolTable) :
      (rs.foldl (fun table r => table.add r.library) table).naming = table.naming := by
    induction rs generalizing table with
    | nil => rfl
    | cons r rs ih => exact ih (table.add r.library)
  exact h (empty naming)

theorem mem_namespaces_foldl_add {table : SymbolTable} {ns : Namespace}
    (h : ns ∈ (rs.foldl (fun table r => table.add r.library) table).namespaces) :
    ns ∈ table.namespaces ∨ ∃ r ∈ rs, r.library = ns := by
  induction rs generalizing table with
  | nil => exact .inl h
  | cons r rs ih =>
    rcases ih h with hadd | ⟨s, hs, rfl⟩
    · rcases OrderedMap.mem_values_insert hadd with rfl | hold
      · exact .inr ⟨r, List.mem_cons_self, rfl⟩
      · exact .inl hold
    · exact .inr ⟨s, List.mem_cons_of_mem r hs, rfl⟩

theorem exists_of_mem_namespaces {ns : Namespace} (h : ns ∈ (build rs naming).namespaces) :
    ∃ r ∈ rs, r.library = ns :=
  (mem_namespaces_foldl_add h).resolve_left List.not_mem_nil

end SymbolTable

theorem Repository.nodup_names_of_mergeAll {rs merged : List Repository}
    (h : mergeAll rs = .ok merged) : (merged.map (·.library.name)).Nodup := by
  rw [← Attempt.toOption_eq_some_iff, mergeAll_toOption] at h
  have hdistinct : gathering.Distinct merged := Gathering.Distinct.addAll .nil h
  exact List.pairwise_map.2 (hdistinct.imp fun hne => beq_eq_false_iff_ne.1 hne)

end GirBind
