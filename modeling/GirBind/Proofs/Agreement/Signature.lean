import GirBind.Proofs.Agreement.Table

namespace GirBind

open Attempt (Finds Persists)

namespace SymbolTable

theorem Alike.ruleOf {table : SymbolTable} {r r' : ResolvedType} (h : table.Alike r r')
    (library declaration : String) (isPointer isReturn : Bool) :
    SymbolTable.ruleOf library declaration isPointer isReturn r =
      SymbolTable.ruleOf library declaration isPointer isReturn r' := by
  cases h with
  | primitive p => rfl
  | registered he hk =>
    rw [SymbolTable.ruleOf, SymbolTable.ruleOf, TypeEntry.variant_congr he]

namespace Agrees

variable {recovers : Prop} {table table' : SymbolTable} {library declaration : String}

theorem marshalRule (h : table.Agrees recovers table') (hk : table.Knows library) (t : TypeRef)
    (direction : Direction) (isReturn : Bool) :
    Persists recovers Eq (table.marshalRule library declaration t direction isReturn)
      (table'.marshalRule library declaration t direction isReturn) := by
  refine (h.resolveRef hk t).bind fun r r' hr => ?_
  split
  case isTrue => exact .ok rfl
  case isFalse =>
    refine (h.underlying hr).bind fun u u' hu => ?_
    exact .of_eq (hu.ruleOf library declaration t.isPointer isReturn)

mutual

theorem inputJavaType (h : table.Agrees recovers table') (hk : table.Knows library) :
    ∀ t : TypeRef, Persists recovers Eq (table.inputJavaType library declaration t)
      (table'.inputJavaType library declaration t)
  | ⟨true, _, _, element, _, _, _⟩ => h.arrayJavaType hk element
  | ⟨false, none, _, _, _, _, _⟩ => .ok rfl
  | ⟨false, some name, _, _, _, _, _⟩ => by
    refine (h.resolve hk name).map fun r r' hr => ?_
    cases hr with
    | primitive p => rfl
    | @registered e e' he hk =>
      obtain ⟨hlibrary, hname⟩ := TypeEntry.name_congr he
      change table.qualifiedJavaName e.library e.type.name =
        table'.qualifiedJavaName e'.library e'.type.name
      rw [h.qualifiedJavaName, hlibrary, hname]

theorem arrayJavaType (h : table.Agrees recovers table') (hk : table.Knows library) :
    ∀ element : Option TypeRef,
      Persists recovers Eq (table.arrayJavaType library declaration element)
        (table'.arrayJavaType library declaration element)
  | some t => (h.inputJavaType hk t).map_same (· ++ "[]")
  | none => .ok rfl

end

theorem javaType (h : table.Agrees recovers table') (hk : table.Knows library) (t : TypeRef)
    (direction : Direction) :
    Persists recovers Eq (table.javaType library declaration t direction)
      (table'.javaType library declaration t direction) :=
  (h.inputJavaType hk t).map_same _

theorem parameterRule (h : table.Agrees recovers table') (hk : table.Knows library)
    (p : Parameter) : Persists recovers Eq (table.parameterRule library declaration p)
      (table'.parameterRule library declaration p) := by
  unfold SymbolTable.parameterRule
  split
  case h_1 t _ => exact h.marshalRule hk t p.direction false
  case h_2 => exact .failed _

theorem returnRule (h : table.Agrees recovers table') (hk : table.Knows library) (c : Callable) :
    Persists recovers Eq (table.returnRule library declaration c)
      (table'.returnRule library declaration c) := by
  unfold SymbolTable.returnRule
  split
  case h_1 t _ => exact h.marshalRule hk t .input true
  case h_2 => exact .ok rfl

theorem descriptor (h : table.Agrees recovers table') (hk : table.Knows library) (c : Callable) :
    Persists recovers Eq (table.descriptor library declaration c)
      (table'.descriptor library declaration c) := by
  refine (h.returnRule hk c).bind fun result _ hresult => ?_
  refine (Persists.mapM fun p _ => h.parameterRule hk p).bind fun rules _ hrules => ?_
  rw [hresult, hrules]
  exact .ok rfl

end Agrees
end SymbolTable

namespace BindingContext

variable {recovers : Prop} {table table' : SymbolTable} {ns : Namespace} {declaration : String}

theorem parameterType_agrees (h : table.Agrees recovers table') (hk : table.Knows ns.name)
    (p : Parameter) : Persists recovers Eq (parameterType ⟨table, ns⟩ declaration p)
      (parameterType ⟨table', ns⟩ declaration p) := by
  unfold parameterType
  split
  case isTrue => exact .ok rfl
  case isFalse =>
    split
    case h_1 t _ => exact h.javaType hk t p.direction
    case h_2 => exact .ok rfl

theorem parameterDecisions_agrees (h : table.Agrees recovers table') (hk : table.Knows ns.name)
    (ps : List Parameter) :
    Persists recovers Eq (parameterDecisions ⟨table, ns⟩ declaration ps)
      (parameterDecisions ⟨table', ns⟩ declaration ps) :=
  Persists.mapM fun (p, _) _ => (parameterType_agrees h hk p).map_same _

theorem returnType_agrees (h : table.Agrees recovers table') (hk : table.Knows ns.name)
    (owner : Option RegisteredType) (c : Callable) :
    Persists recovers Eq (returnType ⟨table, ns⟩ declaration owner c)
      (returnType ⟨table', ns⟩ declaration owner c) := by
  unfold returnType
  split
  case h_1 => exact .ok (h.qualifiedJavaName _ _)
  case h_2 =>
    split
    case h_1 t _ => exact h.javaType hk t .input
    case h_2 => exact .ok rfl

theorem signature_agrees (h : table.Agrees recovers table') (hk : table.Knows ns.name)
    (owner : Option RegisteredType) (c : Callable) :
    Persists recovers Eq (signature ⟨table, ns⟩ declaration owner c)
      (signature ⟨table', ns⟩ declaration owner c) := by
  refine (h.descriptor hk c).bind fun _ _ hdescriptor => ?_
  refine (returnType_agrees h hk owner c).bind fun _ _ hreturn => ?_
  refine (parameterDecisions_agrees h hk c.parameters).bind fun _ _ hparameters => ?_
  rw [hdescriptor, hreturn, hparameters]
  exact .ok rfl

theorem boundSignature_agrees (h : table.Agrees recovers table') (hk : table.Knows ns.name)
    (owner : Option RegisteredType) (c : Callable) :
    Persists recovers Eq (boundSignature ⟨table, ns⟩ declaration owner c)
      (boundSignature ⟨table', ns⟩ declaration owner c) := by
  unfold boundSignature
  split
  case isTrue => exact .ok rfl
  case isFalse => exact signature_agrees h hk owner c

theorem superType_agrees (h : table.Agrees recovers table') (name : String) :
    Persists recovers Eq (superType ⟨table, ns⟩ declaration name)
      (superType ⟨table', ns⟩ declaration name) := by
  have hlookup := h.lookup? ns.name name
  unfold superType
  dsimp only
  revert hlookup
  generalize table.lookup? ns.name name = x
  generalize table'.lookup? ns.name name = y
  intro hlookup
  cases hlookup with
  | @found e e' he =>
    obtain ⟨hlibrary, hname⟩ := TypeEntry.name_congr he
    refine .ok ?_
    rw [h.qualifiedJavaName, hlibrary, hname]
  | missed => exact .failed _
  | recovered hr e => exact .recovered hr.1 _ _

theorem fieldType_agrees (h : table.Agrees recovers table') (hk : table.Knows ns.name)
    (field : Node) : Persists recovers Eq (fieldType ⟨table, ns⟩ declaration field)
      (fieldType ⟨table', ns⟩ declaration field) := by
  unfold fieldType
  split
  case h_1 => exact .ok rfl
  case h_2 t _ =>
    refine (h.marshalRule hk t .input false).bind fun _ _ hrule => ?_
    refine (h.javaType hk t .input).bind fun _ _ hjava => ?_
    rw [hrule, hjava]
    exact .ok rfl

theorem aliasPart_agrees (h : table.Agrees recovers table') (hk : table.Knows ns.name)
    (t : RegisteredType) : Persists recovers Eq (aliasPart ⟨table, ns⟩ t)
      (aliasPart ⟨table', ns⟩ t) := by
  unfold aliasPart
  split
  case isFalse => exact .ok rfl
  case isTrue =>
    refine Persists.map_same ?_ some
    unfold aliasDecision
    split
    case h_1 => exact .failed _
    case h_2 target _ =>
      refine (h.resolveRef hk target).bind fun r r' hr => ?_
      refine (h.underlying hr).bind fun u u' hu => ?_
      refine (h.javaType hk target .input).bind fun _ _ hjava => ?_
      rw [hu.primitive?, hjava]
      exact .ok rfl

end BindingContext
end GirBind
