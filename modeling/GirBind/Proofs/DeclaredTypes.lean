import GirBind.Proofs.Agreement.Table
import GirBind.Proofs.Derived
import GirBind.Proofs.Mention
import GirBind.Proofs.SymbolTable

namespace GirBind.SymbolTable

variable {table : SymbolTable} {e e' : TypeEntry}

def Declares (table : SymbolTable) (e : TypeEntry) : Prop :=
  ∃ ns ∈ table.namespaces, ns.name = e.library ∧ e.type ∈ ns.types.values

def TellsApart (table : SymbolTable) : Prop :=
  ∀ e e', table.Declares e → table.Declares e' → e.identity = e'.identity → e = e'

def entries (table : SymbolTable) : List TypeEntry :=
  table.namespaces.flatMap fun ns => ns.types.values.map fun t => ⟨ns.name, t⟩

theorem mem_entries_iff : e ∈ table.entries ↔ table.Declares e := by
  rw [entries, List.mem_flatMap]
  constructor
  · rintro ⟨ns, hns, h⟩
    obtain ⟨t, ht, rfl⟩ := List.mem_map.1 h
    exact ⟨ns, hns, rfl, ht⟩
  · rintro ⟨ns, hns, hname, ht⟩
    refine ⟨ns, hns, List.mem_map.2 ⟨e.type, ht, ?_⟩⟩
    rw [hname]

theorem map_identity_entries (table : SymbolTable) :
    table.entries.map TypeEntry.identity = table.identities := by
  rw [entries, identities, List.map_flatMap]
  simp only [List.map_map]
  rfl

theorem not_mem_otherThan {l : List (String × String)} {i j : String × String} :
    i ∉ otherThan l j ↔ i ∉ l ∨ i = j := by
  rw [otherThan, List.mem_filter, bne_iff_ne, not_and_or, not_not]

theorem declares_of_lookup? {current name : String} (h : table.lookup? current name = some e) :
    table.Declares e :=
  mem_of_lookup? h

theorem Declares.identity_mem (h : table.Declares e) : e.identity ∈ table.identities := by
  rw [← map_identity_entries]
  exact List.mem_map_of_mem (mem_entries_iff.2 h)

theorem isFiled_add (h : table.IsFiled) (ns : Namespace) : (table.add ns).IsFiled := by
  intro name found hfound
  have hentry : (name, found) ∈ (table.add ns).libraries.entries :=
    OrderedMap.get?_eq_some_iff.1 hfound
  rcases OrderedMap.mem_entries_insert hentry with hnew | hold
  · cases hnew
    rfl
  · exact h name found (OrderedMap.get?_eq_some_iff.2 hold)

variable {rs : List Repository}

/-- Of namespaces with one name the last one is indexed, still under its own name. -/
theorem isFiled_foldl_add (h : table.IsFiled) :
    (rs.foldl (fun table r => table.add r.library) table).IsFiled := by
  induction rs generalizing table with
  | nil => exact h
  | cons r rs ih => exact ih (isFiled_add h r.library)

theorem isFiled_build (rs : List Repository) (naming : PackageNaming) :
    (build rs naming).IsFiled := by
  apply isFiled_foldl_add
  intro name ns hns
  cases hns

theorem nodup_identities_build (hrs : ∀ r ∈ rs, r.Derived) (naming : PackageNaming) :
    (build rs naming).identities.Nodup := by
  apply List.nodup_flatMap.2
  constructor
  · intro ns hns
    obtain ⟨r, hr, rfl⟩ := exists_of_mem_namespaces hns
    have hnames : r.library.types.values.map RegisteredType.name = r.library.types.keys :=
      OrderedMap.map_values_eq_keys fun e he => (hrs r hr).isFiled.type_name he
    apply List.Nodup.of_map Prod.snd
    rw [List.map_map]
    exact hnames ▸ r.library.types.nodup_keys
  · have hnames : (build rs naming).namespaces.map Namespace.name =
        (build rs naming).libraries.keys :=
      OrderedMap.map_values_eq_keys fun e he =>
        isFiled_build rs naming e.1 e.2 (OrderedMap.get?_eq_some_iff.2 he)
    have hnodup : ((build rs naming).namespaces.map Namespace.name).Nodup :=
      hnames ▸ (build rs naming).libraries.nodup_keys
    apply (List.pairwise_map.1 hnodup).imp
    intro ns ns' hne i hi hi'
    obtain ⟨t, -, rfl⟩ := List.mem_map.1 hi
    obtain ⟨t', -, heq⟩ := List.mem_map.1 hi'
    exact hne (Prod.mk.inj heq).1.symm

/-- Declarations that come from documents and edits are told apart by their names. -/
theorem tellsApart_build (hrs : ∀ r ∈ rs, r.Derived) (naming : PackageNaming) :
    (build rs naming).TellsApart := by
  intro e e' he he' hsame
  have hnodup : ((build rs naming).entries.map TypeEntry.identity).Nodup := by
    rw [map_identity_entries]
    exact nodup_identities_build hrs naming
  exact List.inj_on_of_nodup_map hnodup (mem_entries_iff.2 he) (mem_entries_iff.2 he') hsame

end GirBind.SymbolTable
