import Covenant.Check.Basic

/-! How a computation ends, told from how its steps end. -/

namespace Covenant

theorem bind_eq_ok {x : Except ε α} {f : α → Except ε β} :
    x >>= f = .ok b ↔ ∃ a, x = .ok a ∧ f a = .ok b := by
  cases x with
  | error e => simp [bind, Except.bind]
  | ok a => simp [bind, Except.bind]

theorem bind_eq_error {x : Except ε α} {f : α → Except ε β} :
    x >>= f = .error e ↔ x = .error e ∨ ∃ a, x = .ok a ∧ f a = .error e := by
  cases x with
  | error e => simp [bind, Except.bind]
  | ok a => simp [bind, Except.bind]

theorem map_eq_ok {x : Except ε α} {f : α → β} : x.map f = .ok b ↔ ∃ a, x = .ok a ∧ f a = b := by
  cases x <;> simp [Except.map]

theorem map_eq_error {x : Except ε α} {f : α → β} : x.map f = .error e ↔ x = .error e := by
  cases x with
  | error e' => rw [Except.map, Except.error.injEq, Except.error.injEq]
  | ok a => exact iff_of_false nofun nofun

theorem foldlM_congr {f g : β → α → Except ε β} {as : List α}
    (h : ∀ b, ∀ a ∈ as, f b a = g b a) (b : β) : as.foldlM f b = as.foldlM g b := by
  induction as generalizing b with
  | nil => rfl
  | cons a as ih =>
    rw [List.foldlM_cons, List.foldlM_cons, h b a (by simp)]
    congr 1
    funext c
    exact ih (fun b x hx => h b x (by simp [hx])) c

theorem foldlM_map {f : β → α → Except ε β} {g : β → β} {as : List α}
    (h : ∀ b, ∀ a ∈ as, f (g b) a = (f b a).map g) (b : β) :
    as.foldlM f (g b) = (as.foldlM f b).map g := by
  induction as generalizing b with
  | nil => rfl
  | cons a as ih =>
    rw [List.foldlM_cons, List.foldlM_cons, h b a (by simp)]
    cases f b a with
    | error e => rfl
    | ok c => exact ih (fun b x hx => h b x (by simp [hx])) c

/-- What each step preserves, a fold preserves. -/
theorem foldlM_preserves {f : β → α → Except ε β} {P : β → Prop} {as : List α}
    (hf : ∀ b a c, P b → f b a = .ok c → P c) (hb : P b) (h : as.foldlM f b = .ok c) : P c := by
  induction as generalizing b with
  | nil =>
    cases h
    exact hb
  | cons a as ih =>
    rw [List.foldlM_cons] at h
    obtain ⟨b', hb', h⟩ := bind_eq_ok.mp h
    exact ih (hf b a b' hb hb') h

@[simp]
theorem lift_ok (a : α) : (liftM (Except.ok a : Except Failure α) : Except Stop α) = .ok a := rfl

@[simp]
theorem lift_error (f : Failure) :
    (liftM (Except.error f : Except Failure α) : Except Stop α) = .error (.failed f) := rfl

theorem lift_eq_ok {x : Except Failure α} : (liftM x : Except Stop α) = .ok a ↔ x = .ok a := by
  cases x with
  | error f => simp
  | ok b => simp

theorem lift_eq_failed {x : Except Failure α} :
    (liftM x : Except Stop α) = .error (.failed f) ↔ x = .error f := by
  cases x with
  | error g => simp
  | ok b => simp

/-- A failure that does not reject the data. -/
def Failure.IsFinal (f : Failure) : Prop := ∀ m, f ≠ .rejected m

/-- A failure that is one step gone wrong at most, and that step is known. -/
def Failure.OnlyFault (known : Option Fault) (f : Failure) : Prop :=
  ∀ fault, f = .crashed fault → known = some fault

@[simp]
theorem Failure.malformed_isFinal (m : String) : (malformed m).IsFinal := by
  intro m' h
  cases h

@[simp]
theorem Failure.crashed_isFinal (fault : Fault) : (crashed fault).IsFinal := by
  intro m h
  cases h

@[simp]
theorem Failure.malformed_onlyFault (m : String) : (malformed m).OnlyFault known := by
  intro fault h
  cases h

@[simp]
theorem Failure.rejected_onlyFault (m : String) : (rejected m).OnlyFault known := by
  intro fault h
  cases h

@[simp]
theorem Failure.crashed_onlyFault_iff : (crashed fault).OnlyFault known ↔ known = some fault := by
  constructor
  · intro h
    exact h fault rfl
  · intro h fault' he
    cases he
    exact h

/-- A step gone wrong: a failure that blames neither the contract nor the data. -/
def Failure.IsCrash (f : Failure) : Prop := ∃ fault, f = .crashed fault

@[simp]
theorem Failure.crashed_isCrash (fault : Fault) : (crashed fault).IsCrash := ⟨fault, rfl⟩

/-- If a computation fails, its failure has a property. -/
def FailsAs (P : Failure → Prop) (x : Except Failure α) : Prop := ∀ f, x = .error f → P f

/-- If a check fails rather than refuse its data, its failure has a property. -/
def StopsAs (P : Failure → Prop) (x : Except Stop α) : Prop := ∀ f, x = .error (.failed f) → P f

namespace FailsAs

@[simp]
theorem ok (a : α) : FailsAs P (.ok a : Except Failure α) := by
  intro f h
  cases h

@[simp]
theorem pure (a : α) : FailsAs P (Pure.pure a : Except Failure α) := ok a

@[simp]
theorem error_iff : FailsAs P (.error f : Except Failure α) ↔ P f := by
  constructor
  · intro h
    exact h f rfl
  · intro hf g h
    cases h
    exact hf

theorem mono {x : Except Failure α} (h : FailsAs P x) (hPQ : ∀ f, P f → Q f) : FailsAs Q x :=
  fun f hf => hPQ f (h f hf)

theorem final {x : Except Failure α} (h : FailsAs Failure.IsCrash x) :
    FailsAs Failure.IsFinal x := by
  refine h.mono fun f hf => ?_
  obtain ⟨fault, rfl⟩ := hf
  exact Failure.crashed_isFinal fault

theorem of_isOk {x : Except Failure α} (h : x.isOk) : FailsAs P x := by
  cases x with
  | ok a => exact ok a
  | error f => cases h

theorem bind {x : Except Failure α} {k : α → Except Failure β} (hx : FailsAs P x)
    (hk : ∀ a, FailsAs P (k a)) : FailsAs P (x >>= k) := by
  intro f h
  rcases bind_eq_error.mp h with he | ⟨a, _, he⟩
  · exact hx f he
  · exact hk a f he

theorem map {x : Except Failure α} (g : α → β) (hx : FailsAs P x) : FailsAs P (x.map g) := by
  intro f h
  cases x with
  | ok a => cases h
  | error e =>
    cases h
    exact hx _ rfl

theorem ite {c : Prop} [Decidable c] {x y : Except Failure α} (hx : FailsAs P x)
    (hy : FailsAs P y) : FailsAs P (if c then x else y) := by
  split
  · exact hx
  · exact hy

theorem mapM {k : α → Except Failure β} (hk : ∀ a, FailsAs P (k a)) (as : List α) :
    FailsAs P (as.mapM k) := by
  induction as with
  | nil => exact ok _
  | cons a as ih =>
    rw [List.mapM_cons]
    exact bind (hk a) fun b => bind ih fun bs => ok _

theorem foldlM {k : β → α → Except Failure β} (hk : ∀ b a, FailsAs P (k b a)) (as : List α)
    (b : β) : FailsAs P (as.foldlM k b) := by
  induction as generalizing b with
  | nil => exact ok _
  | cons a as ih =>
    rw [List.foldlM_cons]
    exact bind (hk b a) ih

end FailsAs

namespace StopsAs

@[simp]
theorem ok (a : α) : StopsAs P (.ok a : Except Stop α) := by
  intro f h
  cases h

@[simp]
theorem pure (a : α) : StopsAs P (Pure.pure a : Except Stop α) := ok a

@[simp]
theorem accept (v : Value) : StopsAs P (accept v) := ok _

@[simp]
theorem refuse (m : String) : StopsAs P (refuse m : Except Stop α) := by
  intro f h
  cases h

@[simp]
theorem failed_iff : StopsAs P (.error (.failed f) : Except Stop α) ↔ P f := by
  constructor
  · intro h
    exact h f rfl
  · intro hf g h
    cases h
    exact hf

theorem lift {x : Except Failure α} (hx : FailsAs P x) : StopsAs P (liftM x : Except Stop α) :=
  fun f h => hx f (lift_eq_failed.mp h)

theorem bind {x : Except Stop α} {k : α → Except Stop β} (hx : StopsAs P x)
    (hk : ∀ a, StopsAs P (k a)) : StopsAs P (x >>= k) := by
  intro f h
  rcases bind_eq_error.mp h with he | ⟨a, _, he⟩
  · exact hx f he
  · exact hk a f he

theorem ite {c : Prop} [Decidable c] {x y : Except Stop α} (hx : StopsAs P x)
    (hy : StopsAs P y) : StopsAs P (if c then x else y) := by
  split
  · exact hx
  · exact hy

/-- The common shape of a check: a step on the parameters, then the rest. -/
theorem lift_bind {x : Except Failure α} {k : α → Except Stop β} (hx : FailsAs P x)
    (hk : ∀ a, StopsAs P (k a)) : StopsAs P (liftM x >>= k) :=
  bind (lift hx) hk

theorem lift_bind_of {x : Except Failure α} {k : α → Except Stop β} (hx : FailsAs P x)
    (hk : ∀ a, x = .ok a → StopsAs P (k a)) : StopsAs P (liftM x >>= k) := by
  intro f h
  rcases bind_eq_error.mp h with he | ⟨a, ha, he⟩
  · exact hx f (lift_eq_failed.mp he)
  · exact hk a (lift_eq_ok.mp ha) f he

end StopsAs
end Covenant
