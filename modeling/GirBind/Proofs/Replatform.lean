import GirBind.Proofs.Document
import GirBind.Proofs.Recast

namespace GirBind

theorem Node.withPlatforms_eq (p : PlatformSet) (n : Node) : n.withPlatforms p =
    ⟨n.kind, n.attributes, n.children.map (withPlatforms p), n.text, p, n.line⟩ := by
  cases n
  rw [withPlatforms, allWithPlatforms_eq_map]

def RegisteredType.withPlatforms (p : PlatformSet) (t : RegisteredType) : RegisteredType :=
  { t with node := t.node.withPlatforms p }

def Namespace.withPlatforms (p : PlatformSet) (ns : Namespace) : Namespace :=
  { ns with
    types := ns.types.map (·.withPlatforms p)
    functions := ns.functions.map (Node.withPlatforms p)
    constants := ns.constants.map (Node.withPlatforms p)
    other := ns.other.map (Node.withPlatforms p)
    platforms := p }

def Repository.withPlatforms (p : PlatformSet) (r : Repository) : Repository :=
  { r with library := r.library.withPlatforms p, platforms := p }

def Recast.replatform (p : PlatformSet) : Recast where
  node := Node.withPlatforms p
  type := RegisteredType.withPlatforms p
  drops _ := false
  holdsText_of_drops h := absurd h Bool.false_ne_true
  platforms _ := p
  position := id
  line := id
  line_position _ := rfl
  line_zero := rfl
  node_eq := Node.withPlatforms_eq p
  ofNode?_node n := by
    rw [RegisteredType.ofNode?, RegisteredType.ofNode?, Node.withPlatforms_eq, Option.map_map,
      Function.comp_def]
    simp only [RegisteredType.withPlatforms, Node.withPlatforms_eq]

variable (p q : PlatformSet)

/-- The platforms of a document are put on what is read of it, and decide nothing. -/
theorem Node.ofTokens_withPlatforms (tokens : List Markup.PlacedToken) :
    ofTokens p tokens = (ofTokens q tokens).map (withPlatforms p) := by
  have hrun := (Recast.replatform p).run_tokens q .start tokens
  have htokens : (Recast.replatform p).tokens (Recast.path .start) tokens = tokens :=
    (List.map_id _).trans (withoutText_none _ tokens)
  have hfault : (Recast.replatform p).treeFault = id := by
    funext l
    exact ite_self l
  rw [htokens, hfault, Attempt.mapError_id] at hrun
  exact hrun

theorem Source.repository_withPlatforms (s : Source) :
    { s with platforms := p }.repository = s.repository.map (Repository.withPlatforms p) := by
  have hread (n : Node) : Repository.ofNode p (n.withPlatforms p) =
      (Repository.ofNode s.platforms n).map (Repository.withPlatforms p) := by
    have h := (Recast.replatform p).ofNode_repository s.platforms n
    have hfault : (Recast.replatform p).fault = (id : Located RepositoryFault → _) := rfl
    rw [hfault, Attempt.mapError_id] at h
    exact h
  rw [repository, repository, root, root]
  cases Markup.tokens s.content with
  | error e => rfl
  | ok tokens =>
    simp only [Node.ofTokens_withPlatforms p s.platforms tokens]
    cases Node.ofTokens s.platforms tokens with
    | error e => rfl
    | ok n =>
      dsimp only [Except.map]
      rw [hread]
      cases Repository.ofNode s.platforms n with
      | error e => rfl
      | ok r => rfl

end GirBind
