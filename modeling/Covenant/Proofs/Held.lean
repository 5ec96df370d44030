/-! Values that are held between two bounds. -/

namespace Covenant

/-- What a value becomes between bounds: it stays as it is if it lies between them, and otherwise it
becomes the bound that it lies beyond. -/
structure Held (le : α → α → Prop) (least most : Option α) (x y : α) : Prop where
  above : ∀ a ∈ least, le a y
  below : ∀ b ∈ most, le y b
  kept : (∀ a ∈ least, le a x) → (∀ b ∈ most, le x b) → y = x
  raised : ∀ a ∈ least, ¬le a x → y = a
  lowered : ∀ b ∈ most, ¬le x b → y = b

namespace Held

variable {le : α → α → Prop} {least most : Option α} {x : α}

theorem self (hl : ∀ a ∈ least, le a x) (hm : ∀ b ∈ most, le x b) : Held le least most x x := by
  refine ⟨hl, hm, fun _ _ => rfl, ?_, ?_⟩
  · intro a ha hlt
    exact absurd (hl a ha) hlt
  · intro b hb hlt
    exact absurd (hm b hb) hlt

theorem of_lt_least (ha : a ∈ least) (hlt : ¬le a x) (hself : le a a) (ho : ∀ b ∈ most, le a b)
    (hm : ∀ b ∈ most, le x b) : Held le least most x a := by
  obtain rfl := ha
  refine ⟨?_, ho, ?_, ?_, ?_⟩
  · rintro _ ⟨⟩
    exact hself
  · intro hl _
    exact absurd (hl a rfl) hlt
  · rintro _ ⟨⟩ _
    rfl
  · intro b hb hgt
    exact absurd (hm b hb) hgt

theorem of_gt_most (hb : b ∈ most) (hgt : ¬le x b) (hself : le b b) (ho : ∀ a ∈ least, le a b)
    (hl : ∀ a ∈ least, le a x) : Held le least most x b := by
  obtain rfl := hb
  refine ⟨ho, ?_, ?_, ?_, ?_⟩
  · rintro _ ⟨⟩
    exact hself
  · intro _ hm
    exact absurd (hm b rfl) hgt
  · intro a ha hlt
    exact absurd (hl a ha) hlt
  · rintro _ ⟨⟩ _
    rfl

end Held

/-- A value, or the bound that it lies beyond. -/
def moveTo (bound : Option α) (beyond : α → Bool) (x : α) : α :=
  bound.elim x fun b => if beyond b then b else x

theorem moveTo_cases (bound : Option α) (beyond : α → Bool) (x : α) :
    (∃ b ∈ bound, beyond b = true ∧ moveTo bound beyond x = b) ∨
      (∀ b ∈ bound, beyond b = false) ∧ moveTo bound beyond x = x := by
  rw [moveTo]
  cases bound with
  | none => exact .inr ⟨nofun, rfl⟩
  | some b =>
    rw [Option.elim_some]
    split
    · rename_i h
      exact .inl ⟨b, rfl, h, rfl⟩
    · rename_i h
      refine .inr ⟨?_, rfl⟩
      rintro _ ⟨⟩
      exact Bool.eq_false_iff.mpr h

/-- A value that is raised to the least one, and then lowered to the greatest one. -/
def hold (lt : α → α → Bool) (least most : Option α) (x : α) : α :=
  moveTo most (lt · (moveTo least (lt x) x)) (moveTo least (lt x) x)

/-- What is held is the value or one of the bounds. -/
theorem hold_of_forall {P : α → Prop} (lt : α → α → Bool) (hx : P x) (hl : ∀ a ∈ least, P a)
    (hm : ∀ b ∈ most, P b) : P (hold lt least most x) := by
  have hraised : P (moveTo least (lt x) x) := by
    rcases moveTo_cases least (lt x) x with ⟨a, ha, _, he⟩ | ⟨_, he⟩
    · rw [he]
      exact hl a ha
    · rw [he]
      exact hx
  unfold hold
  rcases moveTo_cases most (lt · (moveTo least (lt x) x)) (moveTo least (lt x) x) with
    ⟨b, hb, _, he⟩ | ⟨_, he⟩
  · rw [he]
    exact hm b hb
  · rw [he]
    exact hraised

/-- Comparisons that go by the places of values on a line, of those values that have a place. -/
structure Compares (P : α → Prop) (place : α → Int) (lt : α → α → Bool) (le : α → α → Prop) :
    Prop where
  lt_iff : ∀ x y, P x → P y → (lt x y = true ↔ place x < place y)
  le_iff : ∀ x y, P x → P y → (le x y ↔ place x ≤ place y)

namespace Compares

variable {P : α → Prop} {place : α → Int} {lt : α → α → Bool} {le : α → α → Prop}
  {least most : Option α} {x y : α}

theorem not_le_iff (h : Compares P place lt le) (hx : P x) (hy : P y) :
    ¬le x y ↔ lt y x = true := by
  rw [h.le_iff x y hx hy, h.lt_iff y x hy hx, Int.not_le]

theorem le_of_lt (h : Compares P place lt le) (hx : P x) (hy : P y) (hlt : lt x y = true) :
    le x y :=
  (h.le_iff x y hx hy).mpr (Int.le_of_lt ((h.lt_iff x y hx hy).mp hlt))

theorem le_of_not_lt (h : Compares P place lt le) (hx : P x) (hy : P y) (hlt : lt y x = false) :
    le x y :=
  (h.le_iff x y hx hy).mpr <| Int.not_lt.mp fun hyx =>
    Bool.eq_false_iff.mp hlt ((h.lt_iff y x hy hx).mpr hyx)

theorem le_trans (h : Compares P place lt le) (hx : P x) (hy : P y) (hz : P z) (hxy : le x y)
    (hyz : le y z) : le x z :=
  (h.le_iff x z hx hz).mpr <|
    Int.le_trans ((h.le_iff x y hx hy).mp hxy) ((h.le_iff y z hy hz).mp hyz)

theorem le_self (h : Compares P place lt le) (hx : P x) : le x x :=
  (h.le_iff x x hx hx).mpr (Int.le_refl _)

/-- As the bounds are in order, what has been raised is not lowered any more. -/
theorem held_hold (h : Compares P place lt le) (hx : P x) (hl : ∀ a ∈ least, P a)
    (hm : ∀ b ∈ most, P b) (ho : ∀ a ∈ least, ∀ b ∈ most, le a b) :
    Held le least most x (hold lt least most x) := by
  unfold hold
  rcases moveTo_cases least (lt x) x with ⟨a, ha, hlt, he⟩ | ⟨hge, he⟩
  · have hnot := (h.not_le_iff (hl a ha) hx).mpr hlt
    have hmost : ∀ b ∈ most, le x b := by
      intro b hb
      exact h.le_trans hx (hl a ha) (hm b hb) (h.le_of_lt hx (hl a ha) hlt) (ho a ha b hb)
    rw [he]
    rcases moveTo_cases most (lt · a) a with ⟨b, hb, hgt, _⟩ | ⟨_, he'⟩
    · exact absurd (ho a ha b hb) ((h.not_le_iff (hl a ha) (hm b hb)).mpr hgt)
    · rw [he']
      exact .of_lt_least ha hnot (h.le_self (hl a ha)) (ho a ha) hmost
  · have hleast : ∀ a ∈ least, le a x := by
      intro a ha
      exact h.le_of_not_lt (hl a ha) hx (hge a ha)
    rw [he]
    rcases moveTo_cases most (lt · x) x with ⟨b, hb, hgt, he'⟩ | ⟨hle, he'⟩
    · rw [he']
      exact .of_gt_most hb ((h.not_le_iff hx (hm b hb)).mpr hgt) (h.le_self (hm b hb))
        (fun a ha => ho a ha b hb) hleast
    · rw [he']
      exact .self hleast fun b hb => h.le_of_not_lt hx (hm b hb) (hle b hb)

end Compares
end Covenant
