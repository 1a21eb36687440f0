import GirBind.Proofs.OutlineReading

namespace GirBind

def NodeKind.mutedText (kind : NodeKind) (text : String) : String :=
  if kind.holdsText then "" else text

theorem NodeKind.mutedText_mutedText (kind : NodeKind) (text : String) :
    kind.mutedText (kind.mutedText text) = kind.mutedText text := by
  unfold mutedText
  split
  case isTrue => rfl
  case isFalse => rfl

namespace Node

mutual

def mute : Node → Node
  | ⟨kind, attributes, children, text, platforms, _⟩ =>
    ⟨kind, attributes, allMuted children, kind.mutedText text, platforms, 0⟩

def allMuted : List Node → List Node
  | [] => []
  | n :: ns => mute n :: allMuted ns

end

theorem allMuted_eq_map (ns : List Node) : allMuted ns = ns.map mute := by
  induction ns with
  | nil => rw [allMuted, List.map_nil]
  | cons n ns ih => rw [allMuted, List.map_cons, ih]

theorem mute_eq (n : Node) : n.mute =
    ⟨n.kind, n.attributes, n.children.map mute, n.kind.mutedText n.text, n.platforms, 0⟩ := by
  cases n
  rw [mute, allMuted_eq_map]

/-- An element without documentation, platforms and lines. -/
def gist (n : Node) : Node := n.mute.bare

/-- A member without documentation, with its own platforms only. -/
def sketch (n : Node) : Node := n.mute.outline

theorem gist_eq (n : Node) : n.gist =
    ⟨n.kind, n.attributes, n.children.map gist, n.kind.mutedText n.text, .empty, 0⟩ := by
  rw [gist, bare_eq, mute_eq, List.map_map]
  rfl

theorem gist_mute (n : Node) : n.mute.gist = n.gist := by
  induction n using children_induction with
  | step n ih =>
    rw [gist_eq, gist_eq n, mute_eq, List.map_map, NodeKind.mutedText_mutedText]
    exact congrArg (Node.mk _ _ · _ _ _) (List.map_congr_left ih)

theorem gist_bare (n : Node) : n.bare.gist = n.gist := by
  induction n using children_induction with
  | step n ih =>
    rw [gist_eq, gist_eq n, bare_eq, List.map_map]
    exact congrArg (Node.mk _ _ · _ _ _) (List.map_congr_left ih)

theorem gist_outline (n : Node) : n.outline.gist = n.gist := by
  rw [← gist_bare n, gist_eq, gist_eq n.bare, outline_eq, bare_eq]

theorem gist_sketch (n : Node) : n.sketch.gist = n.gist := by
  rw [sketch, gist_outline, gist_mute]

theorem platforms_sketch (n : Node) : n.sketch.platforms = n.platforms := by
  rw [sketch, outline_eq, mute_eq]

theorem sketch_congr {m n : Node} (h : m.gist = n.gist) (hp : m.platforms = n.platforms) :
    m.sketch = n.sketch := by
  have heq (n : Node) : n.sketch = n.gist.withOwnPlatforms n.platforms := by
    rw [sketch, outline, gist, mute_eq]
  rw [heq, heq n, h, hp]

theorem forgets_gist : Forgets (fun _ => none) gist where
  kind n := by rw [gist_eq]
  attributes n := by rw [gist_eq]
  children n := by rw [gist_eq]
  doc? _ := rfl
  docDeprecated? _ := rfl

theorem hides_sketch : Hides (fun _ => none) gist sketch where
  toForgets := forgets_gist
  member := gist_sketch
  owner n := by
    rw [gist_eq, gist_eq n, mapMembers, List.map_map]
    exact congrArg (Node.mk _ _ · _ _ _) (List.map_congr_left fun m _ => gist_sketch m)
  platforms := platforms_sketch

theorem sketch_sketch (n : Node) : n.sketch.sketch = n.sketch :=
  sketch_congr n.gist_sketch n.platforms_sketch

theorem sketch_outline (n : Node) : n.outline.sketch = n.sketch :=
  sketch_congr n.gist_outline (by rw [outline_eq])

end Node

def RegisteredType.sketch (t : RegisteredType) : RegisteredType := t.mapMembers Node.sketch

/-- A namespace with sketches of its members, without those that are never bound. -/
def Namespace.sketch (ns : Namespace) : Namespace := { ns.mapMembers Node.sketch with other := [] }

def Repository.sketch (r : Repository) : Repository := { r with library := r.library.sketch }

theorem RegisteredType.sketch_mapMembers {φ : Node → Node} (h : ∀ n, (φ n).sketch = n.sketch)
    (t : RegisteredType) : (t.mapMembers φ).sketch = t.sketch := by
  rw [sketch, mapMembers_mapMembers]
  exact congrArg t.mapMembers (funext h)

theorem Namespace.sketch_mapMembers {φ : Node → Node} (h : ∀ n, (φ n).sketch = n.sketch)
    (ns : Namespace) : (ns.mapMembers φ).sketch = ns.sketch := by
  rw [sketch, mapMembers_mapMembers]
  exact congrArg (fun φ => { ns.mapMembers φ with other := [] }) (funext h)

theorem RegisteredType.sketch_outline (t : RegisteredType) : t.outline.sketch = t.sketch :=
  t.sketch_mapMembers Node.sketch_outline

theorem Namespace.sketch_outline (ns : Namespace) : ns.outline.sketch = ns.sketch :=
  ns.sketch_mapMembers Node.sketch_outline

theorem Namespace.sketch_sketch (ns : Namespace) : ns.sketch.sketch = ns.sketch :=
  ns.sketch_mapMembers Node.sketch_sketch

theorem Namespace.get?_types_sketch (ns : Namespace) (key : String) :
    ns.sketch.types.get? key = (ns.types.get? key).map RegisteredType.sketch :=
  OrderedMap.get?_map ns.types _ key

theorem Namespace.values_types_sketch (ns : Namespace) :
    ns.sketch.types.values = ns.types.values.map RegisteredType.sketch :=
  OrderedMap.values_map ns.types _

theorem Namespace.isSome_function?_sketch (ns : Namespace) (name : String) :
    (ns.sketch.function? name).isSome = (ns.function? name).isSome := by
  have hname : ((·.name? == some name) ∘ Node.sketch : Node → Bool) = (·.name? == some name) := by
    funext n
    rw [Function.comp_apply, Node.hides_sketch.memberName?]
  rw [function?, sketch, mapMembers, List.find?_map, hname, Option.isSome_map]
  rfl

end GirBind
