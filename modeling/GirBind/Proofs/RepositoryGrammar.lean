import GirBind.Proofs.Attempt
import GirBind.Proofs.Document
import GirBind.Proofs.OrderedMap
import GirBind.Source

namespace GirBind

namespace NodeKind

def declaresType : NodeKind → Bool
  | aliasType | boxed | callback | classType | interface | record | union | enumeration
  | bitfield => true
  | _ => false

def isAside : NodeKind → Bool
  | functionMacro | functionInline | docsection | doc | metadata => true
  | _ => false

def isReference : NodeKind → Bool
  | dependency | package | cInclude => true
  | _ => false

def isRemark : NodeKind → Bool
  | doc | metadata => true
  | _ => false

theorem declaresType_eq (k : NodeKind) : k.declaresType = (Variant.ofKind? k).isSome := by
  cases k with
  | _ => rfl

theorem declaresType_of_ofKind? {k : NodeKind} {v : Variant} (h : Variant.ofKind? k = some v) :
    k.declaresType = true := by
  rw [declaresType_eq, h, Option.isSome_some]

theorem of_declaresType {k : NodeKind} (h : k.declaresType = true) :
    (k == .function) = false ∧ (k == .constant) = false ∧ k.isAside = false := by
  revert h
  cases k with
  | _ => decide

theorem of_isAside {k : NodeKind} (h : k.isAside = true) :
    k.declaresType = false ∧ (k == .function) = false ∧ (k == .constant) = false := by
  revert h
  cases k with
  | _ => decide

theorem of_isReference {k : NodeKind} (h : k.isReference = true) :
    k.isRemark = false ∧ (k == .library) = false := by
  revert h
  cases k with
  | _ => decide

end NodeKind

namespace Node

def isLibraryPart (n : Node) : Bool :=
  n.kind.isAside ||
    (n.kind.declaresType || n.kind == .function || n.kind == .constant) && n.name?.isSome

def isRepositoryPart (n : Node) : Bool :=
  n.kind.isRemark || (n.kind.isReference || n.kind == .library) && n.name?.isSome

/-- The element of a namespace. No two of the types that it declares have one name. -/
structure IsLibrary (n : Node) : Prop where
  named : n.name?.isSome
  parts : ∀ m ∈ n.children, m.isLibraryPart = true
  distinct : ((n.children.filter (·.kind.declaresType)).map Node.name?).Nodup

structure IsDescription (root : Node) : Prop where
  kind : root.kind = .repository
  parts : ∀ n ∈ root.children, n.isRepositoryPart = true
  library : ∃ n, root.childrenOf .library = [n] ∧ n.IsLibrary

/-- The element may not stand in a namespace element behind the given siblings. -/
def offendsInLibrary (before : List Node) (n : Node) : Bool :=
  !n.isLibraryPart ||
    n.kind.declaresType && before.any fun m => m.kind.declaresType && m.name? == n.name?

def offendsInRepository (before : List Node) (n : Node) : Bool :=
  !n.isRepositoryPart || n.kind == .library && before.any (·.kind == .library)

/-- What is found at the items of a list, each behind those before it. -/
def inspect (f : List Node → Node → List Node) : List Node → List Node → List Node
  | _, [] => []
  | before, n :: ns => f before n ++ inspect f (before ++ [n]) ns

def offenderInLibrary (before : List Node) (n : Node) : List Node :=
  if n.offendsInLibrary before then [n] else []

theorem isLibraryPart_of_named {n : Node} (h : n.kind = .function ∨ n.kind = .constant) :
    n.isLibraryPart = n.name?.isSome := by
  rcases h with h | h
  · rw [isLibraryPart, h]
    rfl
  · rw [isLibraryPart, h]
    rfl

theorem offenderInLibrary_of_named {n : Node} (h : n.kind = .function ∨ n.kind = .constant)
    (before : List Node) :
    n.offenderInLibrary before = if n.name?.isSome then [] else [n] := by
  have htype : n.kind.declaresType = false := by
    rcases h with h | h
    · rw [h]
      rfl
    · rw [h]
      rfl
  rw [offenderInLibrary, offendsInLibrary, isLibraryPart_of_named h, htype]
  cases n.name?.isSome with
  | true => rfl
  | false => rfl

def offendersInRepository (before : List Node) (n : Node) : List Node :=
  (if n.offendsInRepository before then [n] else []) ++
    if n.kind == .library then inspect offenderInLibrary [] n.children else []

theorem isRepositoryPart_of_isReference {n : Node} (h : n.kind.isReference = true) :
    n.isRepositoryPart = n.name?.isSome := by
  rw [isRepositoryPart, h, (NodeKind.of_isReference h).1]
  rfl

theorem offendersInRepository_of_isReference {n : Node} (h : n.kind.isReference = true)
    (before : List Node) :
    n.offendersInRepository before = if n.name?.isSome then [] else [n] := by
  rw [offendersInRepository, offendsInRepository, isRepositoryPart_of_isReference h,
    (NodeKind.of_isReference h).2]
  cases n.name?.isSome with
  | true => rfl
  | false => rfl

/-- The elements that offend where they stand, in document order. -/
def offenders (root : Node) : List Node :=
  (if root.kind == .repository then [] else [root]) ++
    inspect offendersInRepository [] root.children

theorem exists_of_mem_inspect {f : List Node → Node → List Node} {before ns : List Node} {m : Node}
    (h : m ∈ inspect f before ns) :
    ∃ first n rest, ns = first ++ n :: rest ∧ m ∈ f (before ++ first) n := by
  induction ns generalizing before with
  | nil => cases h
  | cons n ns ih =>
    rcases List.mem_append.1 h with h | h
    · exact ⟨[], n, ns, rfl, (List.append_nil before).symm ▸ h⟩
    · obtain ⟨first, k, rest, rfl, hk⟩ := ih h
      rw [List.append_assoc] at hk
      exact ⟨n :: first, k, rest, rfl, hk⟩

theorem IsLibrary.inspect_eq_nil {n : Node} (h : n.IsLibrary) :
    inspect offenderInLibrary [] n.children = [] := by
  apply List.eq_nil_iff_forall_not_mem.2
  intro k hk
  obtain ⟨first, m, rest, hsplit, hk⟩ := exists_of_mem_inspect hk
  rw [List.nil_append, offenderInLibrary] at hk
  split at hk
  case isTrue hm =>
    have hmem : m ∈ n.children := hsplit ▸ List.mem_append_right first List.mem_cons_self
    rw [offendsInLibrary, h.parts m hmem, Bool.not_true, Bool.false_or, Bool.and_eq_true,
      List.any_eq_true] at hm
    obtain ⟨htype, j, hj, hsame⟩ := hm
    rw [Bool.and_eq_true, beq_iff_eq] at hsame
    have hdistinct := h.distinct
    rw [hsplit, List.filter_append,
      List.filter_cons_of_pos (p := fun m : Node => m.kind.declaresType) htype, List.map_append,
      List.map_cons] at hdistinct
    have hearlier : m.name? ∈ (first.filter (·.kind.declaresType)).map name? :=
      List.mem_map.2 ⟨j, List.mem_filter.2 ⟨hj, hsame.1⟩, hsame.2⟩
    exact (List.nodup_append.1 hdistinct).2.2 _ hearlier _ List.mem_cons_self rfl
  case isFalse => cases hk

theorem IsDescription.offenders_eq_nil {root : Node} (h : root.IsDescription) :
    root.offenders = [] := by
  obtain ⟨n, hone, hlibrary⟩ := h.library
  rw [offenders, beq_iff_eq.2 h.kind, if_pos rfl, List.nil_append]
  apply List.eq_nil_iff_forall_not_mem.2
  intro k hk
  obtain ⟨first, m, rest, hsplit, hk⟩ := exists_of_mem_inspect hk
  have hmem : m ∈ root.children := hsplit ▸ List.mem_append_right first List.mem_cons_self
  rw [List.nil_append, offendersInRepository, offendsInRepository, h.parts m hmem, Bool.not_true,
    Bool.false_or] at hk
  cases hkind : m.kind == .library with
  | true =>
    rw [childrenOf, hsplit, List.filter_append,
      List.filter_cons_of_pos (p := fun m : Node => m.kind == .library) hkind] at hone
    rcases List.append_eq_singleton_iff.1 hone with ⟨hfirst, hm⟩ | ⟨-, hm⟩
    · have hnone : first.any (·.kind == .library) = false := by
        rw [List.any_eq_false]
        exact List.filter_eq_nil_iff.1 hfirst
      rw [hkind, hnone, (List.cons.inj hm).1, if_pos rfl, hlibrary.inspect_eq_nil] at hk
      cases hk
    · cases hm
  | false =>
    rw [hkind] at hk
    cases hk

/-- An attempt has a result that meets the condition if no element offends, and otherwise fails at
the line of the first that does. -/
def Reports {α : Type} (found : List Node) (q : α → Prop)
    (x : Except (Located RepositoryFault) α) : Prop :=
  match x with
  | .ok a => found = [] ∧ q a
  | .error e => found.head?.map Node.line = some e.line

namespace Reports

variable {α β : Type} {found found' : List Node} {q : α → Prop} {r : β → Prop}
  {x : Except (Located RepositoryFault) α} {f : α → Except (Located RepositoryFault) β}

theorem bind (hx : Reports found q x) (hf : ∀ a, q a → Reports found' r (f a)) :
    Reports (found ++ found') r (x >>= f) := by
  cases x with
  | error e =>
    obtain ⟨n, hn, hline⟩ := Option.map_eq_some_iff.1 hx
    apply Option.map_eq_some_iff.2
    refine ⟨n, ?_, hline⟩
    rw [List.head?_append, hn, Option.some_or]
  | ok a =>
    obtain ⟨rfl, ha⟩ := hx
    exact hf a ha

theorem requireName (n : Node) :
    Reports (if n.name?.isSome then [] else [n]) (fun name => n.name? = some name)
      n.requireName := by
  rw [Node.requireName]
  cases h : n.name? with
  | none => rfl
  | some name => exact ⟨rfl, rfl⟩

theorem named {n : Node} {g : String → α}
    (hfound : found = if n.name?.isSome then [] else [n])
    (hg : ∀ name, n.name? = some name → q (g name)) :
    Reports found q (do
      let name ← n.requireName
      return g name) := by
  rw [hfound, Node.requireName]
  cases hname : n.name? with
  | none => rfl
  | some name => exact ⟨rfl, hg name hname⟩

theorem mono {q' : α → Prop} (h : Reports found q x) (hq : ∀ a, q a → q' a) :
    Reports found q' x := by
  cases x with
  | error e => exact h
  | ok a => exact ⟨h.1, hq a h.2⟩

theorem foldlM {b : β} {before ns : List Node} {found : List Node → Node → List Node}
    {r : List Node → β → Prop} {step : β → Node → Except (Located RepositoryFault) β}
    (hb : r before b)
    (hstep : ∀ before b n, r before b → Reports (found before n) (r (before ++ [n])) (step b n)) :
    Reports (inspect found before ns) (r (before ++ ns)) (ns.foldlM step b) := by
  induction ns generalizing before b with
  | nil => exact ⟨rfl, (List.append_nil before).symm ▸ hb⟩
  | cons n ns ih =>
    rw [List.foldlM_cons, inspect]
    apply bind (hstep before b n hb)
    intro c hc
    rw [List.append_cons before n ns]
    exact ih hc

end Reports

end Node

namespace Namespace

/-- A namespace holds the given children of its element, and nothing else besides what its element
itself says. -/
structure Files (header : Namespace) (ms : List Node) (ns : Namespace) : Prop where
  header : { ns with types := ∅, functions := [], constants := [], other := [] } = header
  types : ns.types.values.map RegisteredType.node = ms.filter (·.kind.declaresType)
  keyed : ∀ e ∈ ns.types.entries,
    e.2.node.name? = some e.1 ∧ Variant.ofKind? e.2.node.kind = some e.2.variant
  functions : ns.functions = ms.filter (·.kind == .function)
  constants : ns.constants = ms.filter (·.kind == .constant)
  other : ns.other = ms.filter (·.kind.isAside)
  parts : ∀ m ∈ ms, m.isLibraryPart = true

namespace Files

variable {header ns : Namespace} {ms : List Node} {n : Node}

theorem names (h : Files header ms ns) :
    ns.types.keys.map some = (ms.filter (·.kind.declaresType)).map Node.name? := by
  rw [← h.types, OrderedMap.keys, OrderedMap.values, List.map_map, List.map_map, List.map_map]
  apply List.map_congr_left
  intro e he
  exact (h.keyed e he).1.symm

theorem contains_types (h : Files header ms ns) (name : String) : ns.types.contains name =
    ms.any fun m => m.kind.declaresType && m.name? == some name := by
  have hnames := congrArg (·.any (· == some name)) h.names
  rw [OrderedMap.keys, List.map_map] at hnames
  simp only [List.any_map, List.any_filter] at hnames
  exact hnames

theorem fileType (h : Files header ms ns) {v : Variant} {name : String}
    (hv : Variant.ofKind? n.kind = some v) (hname : n.name? = some name)
    (hnew : ¬ ns.types.contains name = true) :
    Files header (ms ++ [n]) { ns with types := ns.types.insert name ⟨v, n⟩ } := by
  have hkind := NodeKind.declaresType_of_ofKind? hv
  obtain ⟨hfunction, hconstant, haside⟩ := NodeKind.of_declaresType hkind
  have hpart : n.isLibraryPart = true := by
    rw [Node.isLibraryPart, hname, hkind]
    exact Bool.or_true _
  have hentries : (ns.types.insert name ⟨v, n⟩).entries = ns.types.entries ++ [(name, ⟨v, n⟩)] :=
    OrderedMap.entries_insert_of_not_contains hnew
  refine ⟨h.header, ?_, ?_, ?_, ?_, ?_, List.forall_mem_append.2 ⟨h.parts, ?_⟩⟩
  · rw [OrderedMap.values, hentries, List.map_append, List.map_append, List.filter_append,
      ← h.types, List.filter_cons_of_pos (p := fun m : Node => m.kind.declaresType) hkind]
    rfl
  · rw [hentries]
    exact List.forall_mem_append.2 ⟨h.keyed, List.forall_mem_singleton.2 ⟨hname, hv⟩⟩
  · simpa [hfunction] using h.functions
  · simpa [hconstant] using h.constants
  · simpa [haside] using h.other
  · exact List.forall_mem_singleton.2 hpart

theorem fileOther (h : Files header ms ns) (hpart : n.isLibraryPart = true)
    (htype : n.kind.declaresType = false) : Files header (ms ++ [n]) { ns with
      functions := ns.functions ++ [n].filter (·.kind == .function)
      constants := ns.constants ++ [n].filter (·.kind == .constant)
      other := ns.other ++ [n].filter (·.kind.isAside) } where
  header := h.header
  types := by simpa [htype] using h.types
  keyed := h.keyed
  functions := by rw [List.filter_append, h.functions]
  constants := by rw [List.filter_append, h.constants]
  other := by rw [List.filter_append, h.other]
  parts := List.forall_mem_append.2 ⟨h.parts, List.forall_mem_singleton.2 hpart⟩

theorem addType (h : Files header ms ns) {v : Variant} (hv : Variant.ofKind? n.kind = some v) :
    Node.Reports (n.offenderInLibrary ms) (Files header (ms ++ [n])) (do
      let name ← n.requireName
      if ns.types.contains name then
        .error ⟨n.line, .duplicateType name ns.name⟩
      else
        return { ns with types := ns.types.insert name ⟨v, n⟩ }) := by
  have hkind := NodeKind.declaresType_of_ofKind? hv
  rw [Node.requireName, Node.offenderInLibrary, Node.offendsInLibrary, Node.isLibraryPart, hkind,
    (NodeKind.of_declaresType hkind).2.2]
  cases hname : n.name? with
  | none => rfl
  | some name =>
    have hany := h.contains_types name
    change Node.Reports (if (ms.any fun m => m.kind.declaresType && m.name? == some name) = true
      then [n] else []) _ (if ns.types.contains name = true then _ else _)
    rw [← hany]
    split
    case isTrue => rfl
    case isFalse hnew => exact ⟨rfl, h.fileType hv hname hnew⟩

theorem addAside (h : Files header ms ns) (haside : n.kind.isAside = true) :
    Node.Reports (n.offenderInLibrary ms) (Files header (ms ++ [n]))
      (.ok { ns with other := ns.other ++ [n] }) := by
  have hpart : n.isLibraryPart = true := by
    rw [Node.isLibraryPart, haside]
    rfl
  obtain ⟨htype, hfunction, hconstant⟩ := NodeKind.of_isAside haside
  rw [Node.offenderInLibrary, Node.offendsInLibrary, hpart, htype]
  exact ⟨rfl, by simpa [hfunction, hconstant, haside] using h.fileOther hpart htype⟩

theorem addChild (h : Files header ms ns) (n : Node) :
    Node.Reports (n.offenderInLibrary ms) (Files header (ms ++ [n])) (ns.addChild n) := by
  rw [Namespace.addChild]
  split
  case h_1 type htype =>
    obtain ⟨v, hv, rfl⟩ := Option.map_eq_some_iff.1 htype
    exact h.addType hv
  case h_2 htype =>
    have htype : n.kind.declaresType = false := by
      rw [NodeKind.declaresType_eq, Option.map_eq_none_iff.1 htype]
      rfl
    split
    case h_1 hkind | h_2 hkind =>
      have hnamed : n.kind = .function ∨ n.kind = .constant := by simp [hkind]
      apply Node.Reports.named (Node.offenderInLibrary_of_named hnamed ms)
      intro name hname
      have hpart := (Node.isLibraryPart_of_named hnamed).trans (congrArg Option.isSome hname)
      simpa [hkind, NodeKind.isAside] using h.fileOther hpart htype
    case h_3 hkind | h_4 hkind | h_5 hkind | h_6 hkind | h_7 hkind =>
      apply h.addAside
      rw [hkind]
      rfl
    case h_8 hfunction hconstant hmacro hinline hsection hdoc hmetadata =>
      have haside : n.kind.isAside = false := by
        cases hkind : n.kind with
        | functionMacro => exact absurd hkind hmacro
        | functionInline => exact absurd hkind hinline
        | docsection => exact absurd hkind hsection
        | doc => exact absurd hkind hdoc
        | metadata => exact absurd hkind hmetadata
        | _ => rfl
      have hpart : n.isLibraryPart = false := by
        rw [Node.isLibraryPart, haside, htype, beq_eq_false_iff_ne.2 hfunction,
          beq_eq_false_iff_ne.2 hconstant]
        rfl
      rw [Node.offenderInLibrary, Node.offendsInLibrary, hpart]
      rfl

end Files

end Namespace

namespace Node

def DescribesLibrary (p : PlatformSet) (n : Node) (ns : Namespace) : Prop :=
  ∃ name, n.name? = some name ∧ (Namespace.header p n name).Files n.children ns

theorem reports_library (p : PlatformSet) (n : Node) :
    Reports ((if n.name?.isSome then [] else [n]) ++ inspect offenderInLibrary [] n.children)
      (n.DescribesLibrary p) (Namespace.ofNode p n) := by
  apply Reports.bind (Reports.requireName n)
  intro name hname
  have hempty : (Namespace.header p n name).Files [] (Namespace.header p n name) :=
    ⟨rfl, rfl, fun _ he => absurd he List.not_mem_nil, rfl, rfl, rfl,
      fun _ hm => absurd hm List.not_mem_nil⟩
  apply (Reports.foldlM hempty fun _ _ m h => h.addChild m).mono
  intro ns hns
  exact ⟨name, hname, hns⟩

end Node

namespace Repository.Draft

structure Files (p : PlatformSet) (ms : List Node) (r : Draft) : Prop where
  includes : r.includes = (ms.filter (·.kind == .dependency)).map fun n => ⟨n.name, n.version?⟩
  packages : r.packages = (ms.filter (·.kind == .package)).map Node.name
  cIncludes : r.cIncludes = (ms.filter (·.kind == .cInclude)).map Node.name
  library : List.Forall₂ (Node.DescribesLibrary p) (ms.filter (·.kind == .library))
    r.library.toList
  parts : ∀ m ∈ ms, m.isRepositoryPart = true

namespace Files

variable {p : PlatformSet} {r : Draft} {ms : List Node} {n : Node}

theorem any_library (h : Files p ms r) : ms.any (·.kind == .library) = r.library.isSome := by
  have hrest := h.library
  cases hlibrary : r.library with
  | none =>
    rw [hlibrary, Option.toList_none, List.forall₂_nil_right_iff] at hrest
    exact List.any_eq_false.2 (List.filter_eq_nil_iff.1 hrest)
  | some ns =>
    rw [hlibrary, Option.toList_some, List.forall₂_cons_right_iff] at hrest
    obtain ⟨n, _, -, -, hn⟩ := hrest
    have hmem := List.mem_filter.1 (hn ▸ List.mem_cons_self)
    exact List.any_eq_true.2 ⟨n, hmem⟩

theorem fileOther (h : Files p ms r) (hpart : n.isRepositoryPart = true)
    (hlibrary : (n.kind == .library) = false) : Files p (ms ++ [n]) { r with
      includes := r.includes ++
        ([n].filter (·.kind == .dependency)).map fun n => ⟨n.name, n.version?⟩
      packages := r.packages ++ ([n].filter (·.kind == .package)).map Node.name
      cIncludes := r.cIncludes ++ ([n].filter (·.kind == .cInclude)).map Node.name } where
  includes := by rw [List.filter_append, List.map_append, h.includes]
  packages := by rw [List.filter_append, List.map_append, h.packages]
  cIncludes := by rw [List.filter_append, List.map_append, h.cIncludes]
  library := by simpa [hlibrary] using h.library
  parts := List.forall_mem_append.2 ⟨h.parts, List.forall_mem_singleton.2 hpart⟩

theorem fileLibrary (h : Files p ms r) {ns : Namespace} (hpart : n.isRepositoryPart = true)
    (hkind : n.kind = .library) (hnone : r.library = none) (hns : n.DescribesLibrary p ns) :
    Files p (ms ++ [n]) { r with library := some ns } where
  includes := by simpa [hkind] using h.includes
  packages := by simpa [hkind] using h.packages
  cIncludes := by simpa [hkind] using h.cIncludes
  library := by
    have hfirst := h.library
    rw [hnone, Option.toList_none, List.forall₂_nil_right_iff] at hfirst
    rw [List.filter_append, hfirst]
    simpa [hkind] using hns
  parts := List.forall_mem_append.2 ⟨h.parts, List.forall_mem_singleton.2 hpart⟩

theorem addLibrary (h : Files p ms r) (hkind : n.kind = .library) :
    Node.Reports (n.offendersInRepository ms) (Files p (ms ++ [n]))
      (if r.library.isSome then
        .error ⟨n.line, .severalNamespaces⟩
      else do
        let ns ← Namespace.ofNode p n
        return { r with library := some ns }) := by
  have hpart : n.isRepositoryPart = n.name?.isSome := by
    rw [Node.isRepositoryPart, hkind]
    rfl
  have hoffends : n.offendsInRepository ms = (!n.name?.isSome || r.library.isSome) := by
    rw [Node.offendsInRepository, hpart, hkind, h.any_library]
    rfl
  rw [Node.offendersInRepository, hoffends, hkind]
  cases hlibrary : r.library with
  | some ns =>
    rw [Option.isSome_some, Bool.or_true]
    rfl
  | none =>
    have hlines : (if (!n.name?.isSome || false) = true then [n] else []) =
        if n.name?.isSome then [] else [n] := by
      cases n.name?.isSome with
      | true => rfl
      | false => rfl
    have hfiled : Node.Reports (((if n.name?.isSome then [] else [n]) ++
        Node.inspect Node.offenderInLibrary [] n.children) ++ []) (Files p (ms ++ [n])) (do
          let ns ← Namespace.ofNode p n
          return { r with library := some ns }) := by
      apply (Node.reports_library p n).bind
      intro ns hns
      obtain ⟨name, hname, hfiles⟩ := hns
      have hnamed := hpart.trans (congrArg Option.isSome hname)
      exact ⟨rfl, h.fileLibrary hnamed hkind hlibrary ⟨name, hname, hfiles⟩⟩
    rw [List.append_nil, ← hlines] at hfiled
    exact hfiled

theorem addChild (h : Files p ms r) (n : Node) :
    Node.Reports (n.offendersInRepository ms) (Files p (ms ++ [n])) (r.addChild p n) := by
  have hfile (hreference : n.kind.isReference = true) {name : String}
      (hname : n.name? = some name) :=
    h.fileOther ((Node.isRepositoryPart_of_isReference hreference).trans
      (congrArg Option.isSome hname)) (NodeKind.of_isReference hreference).2
  rw [Draft.addChild]
  split
  case h_1 hkind | h_2 hkind | h_3 hkind =>
    have hreference : n.kind.isReference = true := hkind ▸ rfl
    apply Node.Reports.named (Node.offendersInRepository_of_isReference hreference ms)
    intro name hname
    simpa [hkind, Node.name, hname] using hfile hreference hname
  case h_4 hkind => exact h.addLibrary hkind
  case h_5 hkind | h_6 hkind =>
    have hpart : n.isRepositoryPart = true := by
      rw [Node.isRepositoryPart, hkind]
      rfl
    rw [Node.offendersInRepository, Node.offendsInRepository, hpart, hkind]
    refine ⟨rfl, ?_⟩
    simpa [hkind] using h.fileOther hpart (beq_eq_false_iff_ne.2 (hkind ▸ NodeKind.noConfusion))
  case h_7 hdependency hpackage hcInclude hlibrary hdoc hmetadata =>
    have hkinds : n.kind.isRemark = false ∧ n.kind.isReference = false := by
      cases hkind : n.kind with
      | dependency => exact absurd hkind hdependency
      | package => exact absurd hkind hpackage
      | cInclude => exact absurd hkind hcInclude
      | doc => exact absurd hkind hdoc
      | metadata => exact absurd hkind hmetadata
      | _ => exact ⟨rfl, rfl⟩
    rw [Node.offendersInRepository, Node.offendsInRepository, Node.isRepositoryPart, hkinds.1,
      hkinds.2, beq_eq_false_iff_ne.2 hlibrary]
    rfl

end Files
end Repository.Draft

namespace Node

variable {p : PlatformSet} {root n : Node}

theorem DescribesLibrary.isLibrary {ns : Namespace} (h : n.DescribesLibrary p ns) :
    n.IsLibrary := by
  obtain ⟨name, hname, hfiles⟩ := h
  refine ⟨Option.isSome_of_eq_some hname, hfiles.parts, ?_⟩
  rw [← hfiles.names]
  exact ns.types.nodup_keys.map fun _ _ => Option.some.inj

theorem filter_or_perm {p q : Node → Bool} (h : ∀ n, p n = true → q n = false) (ns : List Node) :
    (ns.filter p ++ ns.filter q).Perm (ns.filter fun n => p n || q n) := by
  have hleft (n : Node) : (p n && (p n || q n)) = p n := by
    cases p n with
    | true => rfl
    | false => rfl
  have hright (n : Node) : (!p n && (p n || q n)) = q n := by
    cases hp : p n with
    | true => exact (h n hp).symm
    | false => rfl
  have hperm := List.filter_append_perm p (ns.filter fun n => p n || q n)
  simpa only [List.filter_filter, hleft, hright] using hperm

/-- Each child of a namespace element belongs in one of four places. -/
theorem filters_perm {ns : List Node} (h : ∀ n ∈ ns, n.isLibraryPart = true) :
    (ns.filter (·.kind.declaresType) ++ ns.filter (·.kind == .function) ++
      ns.filter (·.kind == .constant) ++ ns.filter (·.kind.isAside)).Perm ns := by
  have htypes : ∀ n : Node, n.kind.declaresType = true → (n.kind == .function) = false := by
    intro n hn
    exact (NodeKind.of_declaresType hn).1
  have hconstants : ∀ n : Node, (n.kind.declaresType || n.kind == .function) = true →
      (n.kind == .constant) = false := by
    intro n hn
    rcases Bool.or_eq_true_iff.1 hn with hn | hn
    · exact (NodeKind.of_declaresType hn).2.1
    · rw [eq_of_beq hn]
      rfl
  have hasides : ∀ n : Node,
      (n.kind.declaresType || n.kind == .function || n.kind == .constant) = true →
        n.kind.isAside = false := by
    intro n hn
    cases haside : n.kind.isAside with
    | false => rfl
    | true =>
      obtain ⟨htype, hfunction, hconstant⟩ := NodeKind.of_isAside haside
      rw [htype, hfunction, hconstant] at hn
      cases hn
  have hall : ns.filter (fun n => n.kind.declaresType || n.kind == .function ||
      n.kind == .constant || n.kind.isAside) = ns := by
    apply List.filter_eq_self.2
    intro n hn
    have hpart := h n hn
    rw [isLibraryPart, Bool.or_eq_true, Bool.and_eq_true, or_comm] at hpart
    exact Bool.or_eq_true_iff.2 (hpart.imp_left And.left)
  have hnamed := ((filter_or_perm htypes ns).append_right (ns.filter (·.kind == .constant))).trans
    (filter_or_perm hconstants ns)
  have hperm := (hnamed.append_right (ns.filter (·.kind.isAside))).trans (filter_or_perm hasides ns)
  rwa [hall] at hperm

theorem DescribesLibrary.perm {ns : Namespace} (h : n.DescribesLibrary p ns) :
    (ns.types.values.map RegisteredType.node ++ ns.functions ++ ns.constants ++ ns.other).Perm
      n.children := by
  obtain ⟨name, -, hfiles⟩ := h
  rw [hfiles.types, hfiles.functions, hfiles.constants, hfiles.other]
  exact filters_perm hfiles.parts

theorem reports_draft (p : PlatformSet) (root : Node) :
    Reports (inspect offendersInRepository [] root.children)
      (Repository.Draft.Files p root.children)
      (root.children.foldlM (Repository.Draft.addChild p) ⟨[], [], [], none⟩) := by
  have hempty : Repository.Draft.Files p [] ⟨[], [], [], none⟩ :=
    ⟨rfl, rfl, rfl, .nil, fun _ hm => absurd hm List.not_mem_nil⟩
  exact Reports.foldlM hempty fun _ _ n h => h.addChild n

structure DescribesRepository (p : PlatformSet) (root : Node) (r : Repository) : Prop where
  includes : r.includes = (root.childrenOf .dependency).map fun n => ⟨n.name, n.version?⟩
  packages : r.packages = (root.childrenOf .package).map Node.name
  cIncludes : r.cIncludes = (root.childrenOf .cInclude).map Node.name
  platforms : r.platforms = p
  library : ∃ n, root.childrenOf .library = [n] ∧ n.DescribesLibrary p r.library

theorem reports_repository (p : PlatformSet) (root : Node) :
    match Repository.ofNode p root with
    | .ok r => root.IsDescription ∧ root.DescribesRepository p r
    | .error e => ¬ root.IsDescription ∧ e.line = (root.offenders.head?.getD root).line ∧
      (root.offenders ≠ [] ∨ root.childrenOf .library = []) := by
  have hdraft := reports_draft p root
  rw [Repository.ofNode]
  by_cases hkind : root.kind = .repository
  · have hoffenders : root.offenders = inspect offendersInRepository [] root.children := by
      rw [offenders, beq_iff_eq.2 hkind]
      rfl
    rw [if_pos hkind]
    rw [← hoffenders] at hdraft
    cases hfold : root.children.foldlM (Repository.Draft.addChild p) ⟨[], [], [], none⟩ with
    | error e =>
      rw [hfold] at hdraft
      obtain ⟨n, hn, hline⟩ := Option.map_eq_some_iff.1 hdraft
      have hne : root.offenders ≠ [] := by
        intro h
        rw [h] at hn
        cases hn
      refine ⟨fun h => hne h.offenders_eq_nil, ?_, .inl hne⟩
      rw [hn]
      exact hline.symm
    | ok r =>
      rw [hfold] at hdraft
      obtain ⟨hnil, hfiles⟩ := hdraft
      have hlibrary := hfiles.library
      obtain ⟨includes, packages, cIncludes, library⟩ := r
      cases library with
      | none =>
        rw [Option.toList_none, List.forall₂_nil_right_iff] at hlibrary
        refine ⟨fun h => ?_, by rw [hnil]; rfl, .inr hlibrary⟩
        obtain ⟨n, hone, -⟩ := h.library
        cases hlibrary.symm.trans hone
      | some ns =>
        rw [Option.toList_some, List.forall₂_cons_right_iff] at hlibrary
        obtain ⟨n, rest, hn, hrest, hone⟩ := hlibrary
        rw [List.forall₂_nil_right_iff.1 hrest] at hone
        exact ⟨⟨hkind, hfiles.parts, n, hone, hn.isLibrary⟩,
          hfiles.includes, hfiles.packages, hfiles.cIncludes, rfl, n, hone, hn⟩
  · have hoffenders : root.offenders = root :: inspect offendersInRepository [] root.children := by
      rw [offenders, beq_eq_false_iff_ne.2 hkind]
      rfl
    rw [if_neg hkind, hoffenders]
    exact ⟨fun h => hkind h.kind, rfl, .inl (List.cons_ne_nil _ _)⟩

end Node

namespace Source

def describe (s : Source) (root : Node) : Except Error Repository :=
  (Repository.ofNode s.platforms root).mapError fun e => .schema s.file (e.map .repository)

theorem repository_eq (s : Source) : s.repository = s.root >>= s.describe := by
  rw [repository]
  cases s.root with
  | error e => rfl
  | ok root =>
    have hroot : (Except.ok root >>= s.describe) = s.describe root := rfl
    rw [hroot, describe]
    dsimp only
    cases Repository.ofNode s.platforms root with
    | error e => rfl
    | ok r => rfl

/-- A root describes a repository exactly if it has the form of a description, and each child of
its namespace is then filed once. Otherwise the error is at the first element that offends, and at
the root if only the namespace is missing. -/
theorem describes_or_reports (s : Source) (root : Node) : s.repository = s.root >>= s.describe ∧
    match s.describe root with
    | .ok r => root.IsDescription ∧ root.DescribesRepository s.platforms r ∧
        (r.library.types.values.map RegisteredType.node ++ r.library.functions ++
          r.library.constants ++ r.library.other).Perm
            ((root.childrenOf .library).flatMap Node.children)
    | .error e => ¬ root.IsDescription ∧
      (∃ fault, e = .schema s.file ⟨(root.offenders.head?.getD root).line, .repository fault⟩) ∧
      (root.offenders ≠ [] ∨ root.childrenOf .library = []) := by
  refine ⟨s.repository_eq, ?_⟩
  have h := Node.reports_repository s.platforms root
  rw [describe]
  cases hr : Repository.ofNode s.platforms root with
  | error e =>
    rw [hr] at h
    obtain ⟨hnot, hline, hnone⟩ := h
    exact ⟨hnot, ⟨e.fault, by rw [← hline]; rfl⟩, hnone⟩
  | ok r =>
    rw [hr] at h
    obtain ⟨n, hone, hlibrary⟩ := h.2.library
    refine ⟨h.1, h.2, ?_⟩
    rw [hone, List.flatMap_singleton]
    exact hlibrary.perm

end Source
end GirBind
