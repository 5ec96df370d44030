import Covenant.Proofs.Outcome

/-! Two computations that end alike, unless the first one is cut short. -/

namespace Covenant

/-- Both computations end alike, or the first one ends in an error that may cut it short. -/
def Refines (cut : ε → Prop) (x y : Except ε α) : Prop := (∃ e, cut e ∧ x = .error e) ∨ x = y

namespace Refines

variable {cut : ε → Prop}

theorem refl (x : Except ε α) : Refines cut x x := .inr rfl

theorem of_cut (h : cut e) (y : Except ε α) : Refines cut (.error e) y := .inl ⟨e, h, rfl⟩

theorem trans {x y z : Except ε α} (hx : Refines cut x y) (hy : Refines cut y z) :
    Refines cut x z := by
  rcases hx with ⟨e, he, rfl⟩ | rfl
  · exact of_cut he z
  · exact hy

theorem bind_of {x y : Except ε α} {k l : α → Except ε β} (h : Refines cut x y)
    (hk : ∀ a, y = .ok a → Refines cut (k a) (l a)) : Refines cut (x >>= k) (y >>= l) := by
  rcases h with ⟨e, he, rfl⟩ | rfl
  · exact of_cut he _
  · cases x with
    | error e => exact refl _
    | ok a => exact hk a rfl

theorem bind {x y : Except ε α} {k l : α → Except ε β} (h : Refines cut x y)
    (hk : ∀ a, Refines cut (k a) (l a)) : Refines cut (x >>= k) (y >>= l) :=
  h.bind_of fun a _ => hk a

theorem ite {c : Prop} [Decidable c] {x x' y y' : Except ε α} (hx : Refines cut x x')
    (hy : Refines cut y y') : Refines cut (if c then x else y) (if c then x' else y') := by
  split
  · exact hx
  · exact hy

/-- What comes of the first computation, if anything does, comes of the second. -/
theorem eq_ok {x y : Except ε α} (h : Refines cut x y) (hx : x = .ok a) : y = .ok a := by
  rcases h with ⟨e, _, he⟩ | rfl
  · rw [he] at hx
    cases hx
  · exact hx

theorem lift {cut : Failure → Prop} {cut' : Stop → Prop} {x y : Except Failure α}
    (hc : ∀ f, cut f → cut' (.failed f)) (h : Refines cut x y) :
    Refines cut' (liftM x : Except Stop α) (liftM y) := by
  rcases h with ⟨f, hf, rfl⟩ | rfl
  · exact of_cut (hc f hf) _
  · exact refl _

end Refines

/-- Both computations fail alike, or have results that are related. -/
inductive Related (r : α → β → Prop) : Except ε α → Except ε β → Prop
  | error (e : ε) : Related r (.error e) (.error e)
  | ok (h : r a b) : Related r (.ok a) (.ok b)

namespace Related

variable {r : α → β → Prop} {q : γ → δ → Prop}

theorem bind {x : Except ε α} {y : Except ε β} {k : α → Except ε γ} {l : β → Except ε δ}
    (h : Related r x y) (hk : ∀ a b, r a b → Related q (k a) (l b)) :
    Related q (x >>= k) (y >>= l) := by
  cases h with
  | error e => exact .error e
  | ok h => exact hk _ _ h

theorem bind_eq {x : Except ε α} {y : Except ε β} {k : α → Except ε γ} {l : β → Except ε γ}
    (h : Related r x y) (hk : ∀ a b, r a b → k a = l b) : x >>= k = y >>= l := by
  cases h with
  | error e => rfl
  | ok h => exact hk _ _ h

theorem refl {r : α → α → Prop} (hr : ∀ a, r a a) (x : Except ε α) : Related r x x := by
  cases x with
  | error e => exact .error e
  | ok a => exact .ok (hr a)

theorem map {x : Except ε α} {y : Except ε β} {f : α → γ} {g : β → δ} (h : Related r x y)
    (hf : ∀ a b, x = .ok a → r a b → q (f a) (g b)) : Related q (x.map f) (y.map g) := by
  cases h with
  | error e => exact .error e
  | ok h => exact .ok (hf _ _ rfl h)

theorem lift {x : Except Failure α} {y : Except Failure β} (h : Related r x y) :
    Related r (liftM x : Except Stop α) (liftM y) := by
  cases h with
  | error e => exact .error (Stop.failed e)
  | ok h => exact .ok h

end Related

/-- Whatever comes of the first computation comes of the second. -/
abbrev Extends (x y : Except ε α) : Prop := Refines (fun _ => True) x y

theorem Extends.bind_left {x : Except ε α} {k : α → Except ε β} {y : Except ε β}
    (h : ∀ a, x = .ok a → Extends (k a) y) : Extends (x >>= k) y := by
  cases x with
  | error e => exact .of_cut trivial y
  | ok a => exact h a rfl

end Covenant
