import GirBind.Proofs.Content
import GirBind.Proofs.MemberMap
import GirBind.Proofs.Replatform
import GirBind.Signature.Callable

namespace GirBind

namespace Node

def bare (n : Node) : Node := n.asRead .empty

/-- A member with its own platforms only. -/
def outline (n : Node) : Node := n.bare.withOwnPlatforms n.platforms

theorem bare_eq (n : Node) :
    n.bare = ⟨n.kind, n.attributes, n.children.map bare, n.text, .empty, 0⟩ :=
  asRead_eq .empty n

theorem outline_eq (n : Node) :
    n.outline = ⟨n.kind, n.attributes, n.children.map bare, n.text, n.platforms, 0⟩ := by
  rw [outline, bare_eq]
  rfl

theorem bare_withPlatforms (p : PlatformSet) (n : Node) : (n.withPlatforms p).bare = n.bare := by
  induction n using children_induction with
  | step n ih =>
    rw [bare_eq, bare_eq, withPlatforms_eq, List.map_map]
    exact congrArg (Node.mk _ _ · _ _ _) (List.map_congr_left ih)

theorem bare_bare (n : Node) : n.bare.bare = n.bare := by
  induction n using children_induction with
  | step n ih =>
    rw [bare_eq, bare_eq, List.map_map]
    exact congrArg (Node.mk _ _ · _ _ _) (List.map_congr_left ih)

theorem bare_outline (n : Node) : n.outline.bare = n.bare := by
  rw [← bare_bare n, bare_eq n.outline, bare_eq n.bare, outline_eq, bare_eq n]

theorem sameShape_bare (n : Node) : sameShape n.bare n = true := by
  induction n using children_induction with
  | step n ih =>
    rw [bare_eq]
    exact sameShape_iff.2 ⟨rfl, .refl _, rfl, sameShapes_map_left ih⟩

theorem sameShape_withPlatforms (p : PlatformSet) (n : Node) :
    sameShape (n.withPlatforms p) n = true := by
  induction n using children_induction with
  | step n ih =>
    rw [withPlatforms_eq]
    exact sameShape_iff.2 ⟨rfl, .refl _, rfl, sameShapes_map_left ih⟩

theorem keepsMembers_outline : KeepsMembers outline where
  shape n := (sameShape_withOwnPlatforms n.bare n n.platforms).trans (sameShape_bare n)
  platforms n := by rw [outline_eq]
  withOwnPlatforms n p := by
    rw [outline_eq, outline_eq]
    rfl

theorem bare_mapMembers_outline (n : Node) : (n.mapMembers outline).bare = n.bare := by
  rw [bare_eq, bare_eq n, mapMembers, List.map_map]
  exact congrArg (Node.mk _ _ · _ _ _) (List.map_congr_left fun m _ => bare_outline m)

end Node
end GirBind
