import GirBind.Proofs.Agreement.Documentation
import GirBind.Proofs.Agreement.Signature

namespace GirBind.BindingContext

open Attempt (Persists)

variable {recovers : Prop} {f : Doc.Converted → Doc.Converted} {table table' : SymbolTable}
  {ns : Namespace} {declaration : String}

theorem memberDecision_agrees (h : table.Agrees recovers table')
    (hd : Doc.Context.Agrees f ⟨table, ns.name⟩ ⟨table', ns.name⟩) (owner : Option RegisteredType)
    (c : Callable) (sig : Signature) :
    (memberDecision ⟨table, ns⟩ owner c sig).mapDoc f =
      (memberDecision ⟨table', ns⟩ owner c sig).mapDoc f := by
  have hhelper (t : RegisteredType) (form : BindingForm) :
      constructorHelper ⟨table, ns⟩ t form c = constructorHelper ⟨table', ns⟩ t form c := by
    rw [constructorHelper, constructorHelper, h.qualifiedJavaName]
  have hdoc := hd.callableComment c
  simp only [memberDecision, MemberDecision.mapDoc, hhelper, doc, hdoc]
  rfl

theorem bindCallable_agrees (h : table.Agrees recovers table') (hk : table.Knows ns.name)
    (hd : Doc.Context.Agrees f ⟨table, ns.name⟩ ⟨table', ns.name⟩) (owner : Option RegisteredType)
    (c : Callable) :
    Persists recovers (fun d d' => d.mapDoc f = d'.mapDoc f)
      (bindCallable ⟨table, ns⟩ declaration owner c)
      (bindCallable ⟨table', ns⟩ declaration owner c) := by
  refine (boundSignature_agrees h hk owner c).map fun sig _ hsig => ?_
  rw [← hsig]
  exact memberDecision_agrees h hd owner c sig

theorem callbackPart_agrees (h : table.Agrees recovers table') (hk : table.Knows ns.name)
    (hd : Doc.Context.Agrees f ⟨table, ns.name⟩ ⟨table', ns.name⟩) (t : RegisteredType) :
    Persists recovers (fun m m' => m.map (·.mapDoc f) = m'.map (·.mapDoc f))
      (callbackPart ⟨table, ns⟩ t) (callbackPart ⟨table', ns⟩ t) := by
  unfold callbackPart
  split
  case isFalse => exact .ok rfl
  case isTrue =>
    split
    case h_1 c _ => exact (bindCallable_agrees h hk hd (some t) c).map fun _ _ => congrArg some
    case h_2 => exact .ok rfl

/-- The decisions about one type in two settings, with the same super types and the same meaning of
an alias. -/
inductive BoundAlike (f : Doc.Converted → Doc.Converted) (table table' : SymbolTable)
    (ns : Namespace) (floating floating' : FloatingTable) (t : RegisteredType) :
    TypeDecision × List SkippedDeclaration → TypeDecision × List SkippedDeclaration → Prop
  | intro (parent : Option String) (implements : List String) (aliasType : Option AliasDecision)
    {callback callback' : Option MemberDecision}
    (hcallback : callback.map (·.mapDoc f) = callback'.map (·.mapDoc f)) :
    BoundAlike f table table' ns floating floating' t
      (typeDecision ⟨table, ns⟩ floating t parent implements aliasType callback,
        refused (memberAttempts ⟨table, ns⟩ t))
      (typeDecision ⟨table', ns⟩ floating' t parent implements aliasType callback',
        refused (memberAttempts ⟨table', ns⟩ t))

theorem bindType_agrees (h : table.Agrees recovers table') (hk : table.Knows ns.name)
    (hd : Doc.Context.Agrees f ⟨table, ns.name⟩ ⟨table', ns.name⟩)
    (floating floating' : FloatingTable) (t : RegisteredType) :
    Persists recovers (BoundAlike f table table' ns floating floating' t)
      (bindType ⟨table, ns⟩ floating t) (bindType ⟨table', ns⟩ floating' t) := by
  refine (Persists.optionMapM fun name _ => superType_agrees h name).bind fun parent _ hp => ?_
  refine (Persists.mapM fun name _ => superType_agrees h name).bind fun implements _ hi => ?_
  refine (aliasPart_agrees h hk t).bind fun aliasType _ ha => ?_
  refine (callbackPart_agrees h hk hd t).bind fun callback _ hc => ?_
  rw [← hp, ← hi, ← ha]
  exact .ok (.intro parent implements aliasType hc)

theorem bindConstant_agrees (h : table.Agrees recovers table') (hk : table.Knows ns.name)
    (hd : Doc.Context.Agrees f ⟨table, ns.name⟩ ⟨table', ns.name⟩) (n : Node) :
    Persists recovers (fun d d' => d.mapDoc f = d'.mapDoc f)
      (bindConstant ⟨table, ns⟩ n) (bindConstant ⟨table', ns⟩ n) := by
  have hdoc := hd.nodeComment n
  unfold bindConstant
  split
  case h_1 => exact .failed _
  case h_2 t _ =>
    refine (h.resolveRef hk t).bind fun r r' hr => ?_
    refine (h.underlying hr).bind fun u u' hu => ?_
    cases hu with
    | registered => exact .failed _
    | primitive p =>
      dsimp only
      split
      case h_1 => exact .failed _
      case h_2 => exact .ok (by simp only [ConstantDecision.mapDoc, doc, hdoc])

end GirBind.BindingContext
