import GirBind.Proofs.Attempt

namespace GirBind.Attempt

/-- The outcomes of one search in two settings: what the first finds the second finds alike, and
what it does not find the second may find if that can be made up for. -/
inductive Finds {α : Type u} {β : Type v} (recovers : Prop) (R : α → β → Prop) :
    Option α → Option β → Prop
  | found {a : α} {b : β} (h : R a b) : Finds recovers R (some a) (some b)
  | missed : Finds recovers R none none
  | recovered (h : recovers) (b : β) : Finds recovers R none (some b)

/-- The outcomes of one attempt in two settings: a success stays a success, and a failure stays the
same failure unless it can be made up for. -/
inductive Persists {ε : Type w} {α : Type u} {β : Type v} (recovers : Prop) (R : α → β → Prop) :
    Except ε α → Except ε β → Prop
  | ok {a : α} {b : β} (h : R a b) : Persists recovers R (.ok a) (.ok b)
  | failed (e : ε) : Persists recovers R (.error e) (.error e)
  | recovered (h : recovers) (e : ε) (y : Except ε β) : Persists recovers R (.error e) y

variable {ε : Type w} {α α' β β' : Type v} {recovers : Prop}

namespace Finds

theorem of_eq {R : α → α → Prop} (hR : ∀ a, R a a) {x y : Option α} (h : x = y) :
    Finds recovers R x y := by
  rw [h]
  cases y with
  | none => exact .missed
  | some a => exact .found (hR a)

theorem mono {p q : Prop} {R S : α → β → Prop} {x : Option α} {y : Option β}
    (h : Finds p R x y) (hpq : p → q) (hR : ∀ a b, R a b → S a b) : Finds q S x y := by
  cases h with
  | found h => exact .found (hR _ _ h)
  | missed => exact .missed
  | recovered h b => exact .recovered (hpq h) b

theorem map_eq {γ : Type v} {f : α → γ} {g : β → γ} {x : Option α} {y : Option β}
    (h : Finds False (fun a b => f a = g b) x y) : x.map f = y.map g := by
  cases h with
  | found h => exact congrArg some h
  | missed => rfl
  | recovered h b => exact h.elim

end Finds

namespace Persists

variable {R : α → β → Prop} {S : α' → β' → Prop} {x : Except ε α} {y : Except ε β}

theorem same {R : α → α → Prop} (hR : ∀ a, R a a) (x : Except ε α) : Persists recovers R x x := by
  cases x with
  | error e => exact .failed e
  | ok a => exact .ok (hR a)

theorem of_eq {x y : Except ε α} (h : x = y) : Persists recovers Eq x y :=
  h ▸ same (fun _ => rfl) x

theorem mono {R' : α → β → Prop} (h : Persists recovers R x y) (hR : ∀ a b, R a b → R' a b) :
    Persists recovers R' x y := by
  cases h with
  | ok h => exact .ok (hR _ _ h)
  | failed e => exact .failed e
  | recovered h e y => exact .recovered h e y

theorem bind (h : Persists recovers R x y) {f : α → Except ε α'} {g : β → Except ε β'}
    (hf : ∀ a b, R a b → Persists recovers S (f a) (g b)) :
    Persists recovers S (x >>= f) (y >>= g) := by
  cases h with
  | ok h => exact hf _ _ h
  | failed e => exact .failed e
  | recovered h e y => exact .recovered h e (y >>= g)

theorem map (h : Persists recovers R x y) {f : α → α'} {g : β → β'}
    (hf : ∀ a b, R a b → S (f a) (g b)) : Persists recovers S (x.map f) (y.map g) := by
  cases h with
  | ok h => exact .ok (hf _ _ h)
  | failed e => exact .failed e
  | recovered h e y => exact .recovered h e (y.map g)

theorem map_same {x y : Except ε α} (h : Persists recovers Eq x y) (f : α → α') :
    Persists recovers Eq (x.map f) (y.map f) :=
  h.map fun _ _ => congrArg f

theorem mapM {ι : Type v} {l : List ι} {f g : ι → Except ε α}
    (h : ∀ i ∈ l, Persists recovers Eq (f i) (g i)) :
    Persists recovers Eq (l.mapM f) (l.mapM g) := by
  induction l with
  | nil => exact .ok rfl
  | cons i l ih =>
    obtain ⟨hi, hl⟩ := List.forall_mem_cons.1 h
    rw [List.mapM_cons, List.mapM_cons]
    refine hi.bind fun a _ ha => (ih hl).bind fun as _ has => ?_
    rw [ha, has]
    exact .ok rfl

theorem optionMapM {ι : Type v} {o : Option ι} {f g : ι → Except ε α}
    (h : ∀ i ∈ o.toList, Persists recovers Eq (f i) (g i)) :
    Persists recovers Eq (o.mapM f) (o.mapM g) := by
  cases o with
  | none => exact .ok rfl
  | some i => exact (h i (List.mem_singleton_self i)).map_same some

theorem map_eq {γ : Type v} {f : α → γ} {g : β → γ}
    (h : Persists False (fun a b => f a = g b) x y) : x.map f = y.map g := by
  cases h with
  | ok h => exact congrArg Except.ok h
  | failed e => rfl
  | recovered h e y => exact h.elim

theorem eq {x y : Except ε α} (h : Persists False Eq x y) : x = y := by
  cases h with
  | ok h => exact congrArg Except.ok h
  | failed e => rfl
  | recovered h e y => exact h.elim

end Persists
end GirBind.Attempt
