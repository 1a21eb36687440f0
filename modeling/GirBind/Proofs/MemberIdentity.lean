import GirBind.Proofs.NodeIdentity

namespace GirBind.Node

mutual

/-- The same element as another document may state it: on other platforms and lines, here and
below, and with its attributes in another order. -/
inductive Restated : Node → Node → Prop
  | mk {kind : NodeKind} {attributes attributes' : OrderedMap String} {children children' : List Node}
      {text : String} {platforms platforms' : PlatformSet} {line line' : Nat}
      (hattributes : attributes.entries.Perm attributes'.entries)
      (hchildren : AllRestated children children') :
      Restated ⟨kind, attributes, children, text, platforms, line⟩
        ⟨kind, attributes', children', text, platforms', line'⟩

inductive AllRestated : List Node → List Node → Prop
  | nil : AllRestated [] []
  | cons {m m' : Node} {ms ms' : List Node} (hm : Restated m m') (hms : AllRestated ms ms') :
      AllRestated (m :: ms) (m' :: ms')

end

mutual

theorem Restated.sameShape : ∀ {m m' : Node}, Restated m m' → sameShape m m' = true
  | _, _, .mk hattributes hchildren =>
    sameShape_iff.2 ⟨rfl, hattributes, rfl, hchildren.sameShapes⟩

theorem AllRestated.sameShapes :
    ∀ {ms ms' : List Node}, AllRestated ms ms' → sameShapes ms ms' = true
  | _, _, .nil => by rw [Node.sameShapes]
  | _, _, .cons hm hms => sameShapes_cons.2 ⟨hm.sameShape, hms.sameShapes⟩

end

mutual

theorem restated_of_sameShape : ∀ {m m' : Node}, sameShape m m' = true → Restated m m'
  | ⟨_, _, _, _, _, _⟩, ⟨_, _, _, _, _, _⟩, h => by
    obtain ⟨rfl, ha, rfl, hc⟩ := sameShape_iff.1 h
    exact .mk ha (allRestated_of_sameShapes hc)

theorem allRestated_of_sameShapes :
    ∀ {ms ms' : List Node}, sameShapes ms ms' = true → AllRestated ms ms'
  | [], [], _ => .nil
  | [], _ :: _, h => by simp only [sameShapes, Bool.false_eq_true] at h
  | _ :: _, [], h => by simp only [sameShapes, Bool.false_eq_true] at h
  | _ :: _, _ :: _, h => by
    obtain ⟨hm, hms⟩ := sameShapes_cons.1 h
    exact .cons (restated_of_sameShape hm) (allRestated_of_sameShapes hms)

end

mutual

def masks : Node → List PlatformSet
  | ⟨_, _, children, _, platforms, _⟩ => platforms :: allMasks children

def allMasks : List Node → List PlatformSet
  | [] => []
  | n :: ns => masks n ++ allMasks ns

end

mutual

theorem length_masks : ∀ {m n : Node}, sameShape m n = true → m.masks.length = n.masks.length
  | ⟨_, _, _, _, _, _⟩, ⟨_, _, _, _, _, _⟩, h => by
    rw [masks, masks, List.length_cons, List.length_cons, length_allMasks (sameShape_iff.1 h).2.2.2]

theorem length_allMasks : ∀ {ms ns : List Node}, sameShapes ms ns = true →
    (allMasks ms).length = (allMasks ns).length
  | [], [], _ => rfl
  | [], _ :: _, h => by simp only [sameShapes, Bool.false_eq_true] at h
  | _ :: _, [], h => by simp only [sameShapes, Bool.false_eq_true] at h
  | _ :: _, _ :: _, h => by
    obtain ⟨hm, hms⟩ := sameShapes_cons.1 h
    rw [allMasks, allMasks, List.length_append, List.length_append, length_masks hm,
      length_allMasks hms]

end

mutual

/-- Equality is the same shape with the same platforms at every place. -/
theorem equal_iff : ∀ {m n : Node},
    equal m n = true ↔ sameShape m n = true ∧ m.masks = n.masks
  | ⟨_, _, cs, _, _, _⟩, ⟨_, _, cs', _, _, _⟩ => by
    have hchildren := @equals_iff cs cs'
    simp only [equal, sameShape, masks, Bool.and_eq_true, beq_iff_eq, List.cons.injEq, hchildren]
    tauto

theorem equals_iff : ∀ {ms ns : List Node},
    equals ms ns = true ↔ sameShapes ms ns = true ∧ allMasks ms = allMasks ns
  | [], [] => by simp only [equals, sameShapes, allMasks, and_self]
  | [], _ :: _ => by simp only [equals, sameShapes, Bool.false_eq_true, false_and]
  | _ :: _, [] => by simp only [equals, sameShapes, Bool.false_eq_true, false_and]
  | m :: ms, n :: ns => by
    rw [equals, Bool.and_eq_true, equal_iff, equals_iff, sameShapes_cons, allMasks, allMasks]
    constructor
    · rintro ⟨⟨hm, hmask⟩, hms, hmasks⟩
      exact ⟨⟨hm, hms⟩, by rw [hmask, hmasks]⟩
    · rintro ⟨⟨hm, hms⟩, happend⟩
      obtain ⟨hmask, hmasks⟩ := List.append_inj happend (length_masks hm)
      exact ⟨⟨hm, hmask⟩, hms, hmasks⟩

end

theorem sameShape_equivalence : Equivalence fun m n : Node => sameShape m n = true :=
  ⟨sameShape_refl, sameShape_symm, sameShape_trans⟩

theorem sameMember_equivalence : Equivalence fun m n : Node => sameMember m n = true :=
  ⟨sameMember_refl, sameMember_symm, sameMember_trans⟩

/-- Equality is finer than shape, by the platforms at every place and by nothing else, and shape is
finer than member identity. Shape and member identity sort elements into classes and see neither
platforms nor lines nor the order of attributes. -/
theorem sameMember_isCongruence :
    Equivalence (fun m n : Node => sameShape m n = true) ∧
    Equivalence (fun m n : Node => sameMember m n = true) ∧
    (∀ m n : Node, equal m n = true ↔ sameShape m n = true ∧ m.masks = n.masks) ∧
    (∀ m n : Node, sameShape m n = true ↔ Restated m n) ∧
    (∀ m n : Node, sameShape m n = true → sameMember m n = true) ∧
    ∀ m m' n n' : Node, Restated m m' → Restated n n' →
      sameShape m' n' = sameShape m n ∧ sameMember m' n' = sameMember m n := by
  refine ⟨sameShape_equivalence, sameMember_equivalence, ?_, ?_, ?_, ?_⟩
  · intro m n
    exact equal_iff
  · intro m n
    exact ⟨restated_of_sameShape, Restated.sameShape⟩
  · intro m n h
    exact sameMember_of_sameShape h
  · intro m m' n n' hm hn
    have hshape := sameShape_congr hm.sameShape hn.sameShape
    have hmember := sameMember_congr_shape hm.sameShape hn.sameShape
    exact ⟨hshape.symm, hmember.symm⟩

def unnamedUnion (field : String) (attributes : OrderedMap String) (platforms : PlatformSet)
    (line : Nat) : Node :=
  ⟨.union, attributes,
    [⟨.field, ⟨[("name", field)], List.nodup_singleton _⟩, [], "", platforms, line + 1⟩], "",
    platforms, line⟩

def foreignAttributes : OrderedMap String := ⟨[("c:type", "U"), ("foreign", "1")], by decide⟩

def foreignAttributes' : OrderedMap String := ⟨[("foreign", "1"), ("c:type", "U")], by decide⟩

theorem restated_unnamedUnion (field : String) : Restated
    (unnamedUnion field foreignAttributes .linuxOnly 3)
    (unnamedUnion field foreignAttributes' .macosOnly 8) :=
  .mk (.swap _ _ _) (.cons (.mk (.refl _) .nil) .nil)

/-- Without names it is the shape that decides, on any platforms. Equality tells platforms apart. -/
theorem sameMember_of_unnamedUnions :
    let linux := unnamedUnion "a" foreignAttributes .linuxOnly 3
    let macos := unnamedUnion "a" foreignAttributes' .macosOnly 8
    let other := unnamedUnion "b" foreignAttributes .linuxOnly 3
    let other' := unnamedUnion "b" foreignAttributes' .macosOnly 8
    Restated linux macos ∧ Restated other other' ∧ sameMember linux macos = true ∧
      sameMember macos other' = false ∧ equal linux macos = false := by
  obtain ⟨-, -, hequal, -, hmember, hsame⟩ := sameMember_isCongruence
  have hrestated := restated_unnamedUnion "a"
  have hrestated' := restated_unnamedUnion "b"
  refine ⟨hrestated, hrestated', hmember _ _ hrestated.sameShape, ?_, ?_⟩
  · rw [(hsame _ _ _ _ hrestated hrestated').2]
    decide
  · rw [Bool.eq_false_iff, ne_eq, hequal]
    decide

end GirBind.Node
