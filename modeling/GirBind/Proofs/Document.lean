import GirBind.Proofs.Attempt
import GirBind.Proofs.OrderedMap
import GirBind.Source

namespace GirBind

namespace Node

/-- An element is on given platforms if it and everything below it is. -/
def IsOn (p : PlatformSet) (n : Node) : Prop := n.withPlatforms p = n

theorem isOn_iff {p : PlatformSet} {n : Node} :
    n.IsOn p ↔ n.platforms = p ∧ ∀ m ∈ n.children, m.IsOn p := by
  cases n with
  | mk kind attributes children text platforms line =>
    simp only [IsOn, withPlatforms, allWithPlatforms_eq_map, mk.injEq, true_and, and_true]
    constructor
    · rintro ⟨hc, rfl⟩
      refine ⟨rfl, ?_⟩
      intro m hm
      exact List.map_inj_left.1 (hc.trans (List.map_id children).symm) m hm
    · rintro ⟨rfl, hc⟩
      exact ⟨(List.map_congr_left hc).trans (List.map_id children), rfl⟩

structure Builder.IsOn (p : PlatformSet) (b : Builder) : Prop where
  path : ∀ o ∈ b.path, ∀ n ∈ o.children, n.IsOn p
  root : ∀ n, b.root = some n → n.IsOn p

variable {p : PlatformSet} {b b' : Builder} {line : Nat}

theorem Open.close_isOn {o : Open} (h : ∀ n ∈ o.children, n.IsOn p) : (o.close p).IsOn p :=
  isOn_iff.2 ⟨rfl, fun n hn => h n (List.mem_reverse.1 hn)⟩

theorem Builder.IsOn.add (hb : b.IsOn p) {n : Node} (hn : n.IsOn p) : (b.add n).IsOn p := by
  obtain ⟨path, root⟩ := b
  cases path with
  | nil =>
    refine ⟨fun o ho => absurd ho List.not_mem_nil, ?_⟩
    intro m hm
    cases hm
    exact hn
  | cons o os =>
    obtain ⟨ho, hos⟩ := List.forall_mem_cons.1 hb.path
    exact ⟨List.forall_mem_cons.2 ⟨List.forall_mem_cons.2 ⟨hn, ho⟩, hos⟩, hb.root⟩

theorem Builder.IsOn.startTag (hb : b.IsOn p) {tag : String}
    {attributes : List (String × String)} {selfClosing : Bool}
    (h : b.startTag p line tag attributes selfClosing = .ok b') : b'.IsOn p := by
  rw [Builder.startTag] at h
  split at h
  case isTrue => cases h
  case isFalse =>
    split at h
    case h_1 => cases h
    case h_2 =>
      cases h
      have hnone : ∀ n ∈ ([] : List Node), n.IsOn p := fun n hn => absurd hn List.not_mem_nil
      split
      case isTrue => exact hb.add (Open.close_isOn hnone)
      case isFalse => exact ⟨List.forall_mem_cons.2 ⟨hnone, hb.path⟩, hb.root⟩

theorem Builder.IsOn.endTag (hb : b.IsOn p) {tag : String}
    (h : b.endTag p line tag = .ok b') : b'.IsOn p := by
  obtain ⟨path, root⟩ := b
  cases path with
  | nil => cases h
  | cons o os =>
    obtain ⟨ho, hos⟩ := List.forall_mem_cons.1 hb.path
    simp only [Builder.endTag] at h
    split at h
    case isTrue =>
      cases h
      have hrest : Builder.IsOn p ⟨os, root⟩ := ⟨hos, hb.root⟩
      exact hrest.add (Open.close_isOn ho)
    case isFalse => cases h

theorem Builder.IsOn.text (hb : b.IsOn p) {content : String}
    (h : b.text line content = .ok b') : b'.IsOn p := by
  obtain ⟨path, root⟩ := b
  cases path with
  | nil =>
    simp only [Builder.text] at h
    split at h
    case isTrue =>
      cases h
      exact hb
    case isFalse => cases h
  | cons o os =>
    simp only [Builder.text] at h
    split at h
    case isTrue =>
      cases h
      exact ⟨List.forall_mem_cons.2 (List.forall_mem_cons.1 hb.path), hb.root⟩
    case isFalse =>
      split at h
      case isTrue =>
        cases h
        exact hb
      case isFalse => cases h

theorem Builder.IsOn.finish (hb : b.IsOn p) {n : Node} (h : b.finish line = .ok n) :
    n.IsOn p := by
  rw [Builder.finish] at h
  split at h
  case h_1 => cases h
  case h_2 =>
    split at h
    case h_1 hroot =>
      cases h
      exact hb.root n hroot
    case h_2 => cases h

theorem Builder.IsOn.run (hb : b.IsOn p) {tokens : List Markup.PlacedToken} {n : Node}
    (h : b.run p tokens = .ok n) : n.IsOn p := by
  induction tokens generalizing b with
  | nil => exact hb.finish h
  | cons t tokens ih =>
    obtain ⟨token, position⟩ := t
    cases token with
    | endOfInput => exact hb.finish h
    | comment => exact ih hb h
    | declaration => exact ih hb h
    | text content =>
      obtain ⟨c, hc, hrun⟩ := Attempt.bind_eq_ok_iff.1 h
      exact ih (hb.text hc) hrun
    | endTag tag =>
      obtain ⟨c, hc, hrun⟩ := Attempt.bind_eq_ok_iff.1 h
      exact ih (hb.endTag hc) hrun
    | startTag tag attributes selfClosing =>
      obtain ⟨c, hc, hrun⟩ := Attempt.bind_eq_ok_iff.1 h
      exact ih (hb.startTag hc) hrun

theorem ofTokens_isOn {tokens : List Markup.PlacedToken} {n : Node}
    (h : ofTokens p tokens = .ok n) : n.IsOn p := by
  have hstart : Builder.start.IsOn p := by
    refine ⟨fun o ho => absurd ho List.not_mem_nil, ?_⟩
    intro n hn
    cases hn
  exact hstart.run h

theorem requireName_eq_ok_iff {n : Node} {name : String} :
    n.requireName = .ok name ↔ n.name? = some name := by
  rw [requireName]
  split
  case h_1 name' h => rw [h, Except.ok.injEq, Option.some.injEq]
  case h_2 h => simp only [h, reduceCtorEq]

end Node

structure Namespace.IsOn (p : PlatformSet) (ns : Namespace) : Prop where
  types : ∀ e ∈ ns.types.entries, e.2.node.IsOn p ∧ e.2.node.name? = some e.1
  functions : ∀ n ∈ ns.functions, n.IsOn p ∧ n.kind = .function ∧ n.name?.isSome
  constants : ∀ n ∈ ns.constants, n.IsOn p ∧ n.kind = .constant ∧ n.name?.isSome
  other : ∀ n ∈ ns.other, n.IsOn p
  platforms : ns.platforms = p

namespace Namespace

variable {p : PlatformSet} {ns ns' : Namespace} {n : Node}

theorem IsOn.addChild (hns : ns.IsOn p) (hn : n.IsOn p) (h : ns.addChild n = .ok ns') :
    ns'.IsOn p := by
  have hnamed {name : String} (hname : n.requireName = .ok name) : n.name?.isSome := by
    rw [Node.requireName_eq_ok_iff.1 hname, Option.isSome_some]
  rw [Namespace.addChild] at h
  split at h
  case h_1 type htype =>
    obtain ⟨name, hname, h⟩ := Attempt.bind_eq_ok_iff.1 h
    split at h
    case isTrue => cases h
    case isFalse hnew =>
      cases h
      obtain ⟨v, -, rfl⟩ := Option.map_eq_some_iff.1 htype
      refine ⟨?_, hns.functions, hns.constants, hns.other, hns.platforms⟩
      intro e he
      rw [OrderedMap.entries_insert_of_not_contains hnew] at he
      rcases List.mem_append.1 he with he | he
      · exact hns.types e he
      · obtain rfl := List.mem_singleton.1 he
        exact ⟨hn, Node.requireName_eq_ok_iff.1 hname⟩
  case h_2 =>
    split at h
    case h_1 hkind =>
      obtain ⟨name, hname, h⟩ := Attempt.bind_eq_ok_iff.1 h
      cases h
      refine ⟨hns.types, ?_, hns.constants, hns.other, hns.platforms⟩
      intro m hm
      rcases List.mem_append.1 hm with hm | hm
      · exact hns.functions m hm
      · obtain rfl := List.mem_singleton.1 hm
        exact ⟨hn, hkind, hnamed hname⟩
    case h_2 hkind =>
      obtain ⟨name, hname, h⟩ := Attempt.bind_eq_ok_iff.1 h
      cases h
      refine ⟨hns.types, hns.functions, ?_, hns.other, hns.platforms⟩
      intro m hm
      rcases List.mem_append.1 hm with hm | hm
      · exact hns.constants m hm
      · obtain rfl := List.mem_singleton.1 hm
        exact ⟨hn, hkind, hnamed hname⟩
    all_goals cases h
    all_goals
      refine ⟨hns.types, hns.functions, hns.constants, ?_, hns.platforms⟩
      intro m hm
      rcases List.mem_append.1 hm with hm | hm
      · exact hns.other m hm
      · exact List.mem_singleton.1 hm ▸ hn

theorem ofNode_isOn (hn : n.IsOn p) (h : ofNode p n = .ok ns) : ns.IsOn p := by
  obtain ⟨name, -, h⟩ := Attempt.bind_eq_ok_iff.1 h
  have hheader : (header p n name).IsOn p := {
    types := fun e he => absurd he List.not_mem_nil
    functions := fun m hm => absurd hm List.not_mem_nil
    constants := fun m hm => absurd hm List.not_mem_nil
    other := fun m hm => absurd hm List.not_mem_nil
    platforms := rfl }
  exact Attempt.foldlM_induction hheader
    (fun m hm _ _ hns => hns.addChild ((Node.isOn_iff.1 hn).2 m hm)) h

end Namespace

namespace Repository

variable {p : PlatformSet}

theorem Draft.addChild_isOn {d d' : Draft} {n : Node} (hd : ∀ ns, d.library = some ns → ns.IsOn p)
    (hn : n.IsOn p) (h : d.addChild p n = .ok d') : ∀ ns, d'.library = some ns → ns.IsOn p := by
  rw [Draft.addChild] at h
  split at h
  case h_4 =>
    split at h
    case isTrue => cases h
    case isFalse =>
      obtain ⟨ns, hns, h⟩ := Attempt.bind_eq_ok_iff.1 h
      cases h
      intro ns' hns'
      cases hns'
      exact Namespace.ofNode_isOn hn hns
  case h_5 | h_6 =>
    cases h
    exact hd
  case h_7 => cases h
  all_goals
    obtain ⟨name, -, h⟩ := Attempt.bind_eq_ok_iff.1 h
    cases h
    exact hd

theorem ofNode_isOn {root : Node} {r : Repository} (hroot : root.IsOn p)
    (h : ofNode p root = .ok r) : r.platforms = p ∧ r.library.IsOn p := by
  rw [ofNode] at h
  split at h
  case isTrue =>
    obtain ⟨d, hd, h⟩ := Attempt.bind_eq_ok_iff.1 h
    split at h
    case h_1 ns hns =>
      cases h
      have hstart : ∀ ns, (⟨[], [], [], none⟩ : Draft).library = some ns → ns.IsOn p := by
        intro ns' hns'
        cases hns'
      refine ⟨rfl, Attempt.foldlM_induction
        (motive := fun d => ∀ ns, d.library = some ns → ns.IsOn p) hstart ?_ hd ns hns⟩
      intro m hm _ _ hdraft
      exact Draft.addChild_isOn hdraft ((Node.isOn_iff.1 hroot).2 m hm)
    case h_2 => cases h
  case isFalse => cases h

end Repository

/-- What a document declares is on its platforms. -/
theorem Source.repository_isOn {s : Source} {r : Repository} (h : s.repository = .ok r) :
    r.platforms = s.platforms ∧ r.library.IsOn s.platforms := by
  rw [repository] at h
  split at h
  case h_1 => cases h
  case h_2 n hn =>
    split at h
    case h_1 => cases h
    case h_2 r' hr =>
      cases h
      refine Repository.ofNode_isOn ?_ hr
      rw [root] at hn
      split at hn
      case h_1 => cases hn
      case h_2 tokens _ =>
        split at hn
        case h_1 => cases hn
        case h_2 n' hn' =>
          cases hn
          exact Node.ofTokens_isOn hn'

end GirBind
