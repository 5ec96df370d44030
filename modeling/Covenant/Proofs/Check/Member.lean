import Covenant.Proofs.Check.Default
import Covenant.Proofs.Check.Repeat
import Covenant.Proofs.Double
import Covenant.Proofs.Filter.Step
import Covenant.Value

/-! The members of an enumeration: data is one of them when it is equal to it at one level, and of
its outermost type. Inside containers, numbers of all types count by their value, and so do the two
types of bytes. -/

namespace Covenant

namespace Double

variable {x y : Double}

/-- Numbers are equal when they are as far from zero on the same side of it. -/
theorem eq_number {negative negative' : Bool} {r s : Fin (infinityRank + 1)} :
    (number negative r).eq (number negative' s) = true ↔
      units r.val = units s.val ∧ (negative = negative' ∨ units r.val = 0) := by
  have hzero : units r.val = 0 ↔ r.val = 0 := units_strictMono.injective.eq_iff' (by decide)
  rw [units_strictMono.injective.eq_iff, hzero]
  simp only [eq, key, decide_eq_true_eq]
  cases negative <;> cases negative' <;> simp only [if_true, if_false, Bool.false_eq_true,
    Bool.true_eq_false, true_or, false_or, and_true] <;> omega

/-- A whole number has a number of ones in it. -/
theorem exists_truncate (h : (number negative r).isInteger) :
    ∃ n : Nat, units r.val = n * unitsOfOne ∧
      (number negative r).truncate? = some (if negative then -(n : Int) else n) := by
  simp only [isInteger, Bool.and_eq_true, decide_eq_true_eq, beq_iff_eq] at h
  obtain ⟨hr, hu⟩ := h
  refine ⟨units r.val / unitsOfOne, (Nat.div_mul_cancel (Nat.dvd_of_mod_eq_zero hu)).symm, ?_⟩
  rw [truncate?, if_pos hr]
  rfl

theorem isInteger_congr (h : x.eq y) : x.isInteger = y.isInteger := by
  cases x with
  | nan => cases h
  | number negative r =>
    cases y with
    | nan => simp [eq, key] at h
    | number negative' s =>
      have hrs := units_strictMono.injective (eq_number.mp h).1
      simp only [isInteger, hrs]

/-- Whole numbers are compared by the integers that they are. -/
theorem eq_of_isInteger (hx : x.isInteger) (hy : y.isInteger) :
    x.eq y = (x.truncate?.getD 0 == y.truncate?.getD 0) := by
  cases x with
  | nan => cases hx
  | number negative r =>
    cases y with
    | nan => cases hy
    | number negative' s =>
      obtain ⟨m, hm, ht⟩ := exists_truncate hx
      obtain ⟨n, hn, ht'⟩ := exists_truncate hy
      rw [Bool.eq_iff_iff, eq_number, hm, hn, ht, ht', Option.getD_some, Option.getD_some,
        beq_iff_eq, Nat.mul_right_cancel_iff unitsOfOne_pos,
        Nat.mul_eq_zero.trans (or_iff_left unitsOfOne_pos.ne')]
      cases negative <;> cases negative' <;> simp only [if_true, if_false, Bool.false_eq_true,
        Bool.true_eq_false, true_or, false_or, and_true] <;> omega

theorem exists_truncate_of_isInteger (h : x.isInteger) : ∃ i, x.truncate? = some i := by
  cases x with
  | nan => cases h
  | number negative r =>
    obtain ⟨n, _, ht⟩ := exists_truncate h
    exact ⟨_, ht⟩

end Double

namespace Value

mutual
/-- Equality with the same types at every level; the order of a mapping does not count. -/
def exactly : Value → Value → Bool
  | null, null => true
  | bool a, bool b => a == b
  | int a, int b => a == b
  | float a, float b => a.eq b
  | text a, text b => a == b
  | list a, list b => exactlyLists a b
  | tuple a, tuple b => exactlyLists a b
  | deque a, deque b => exactlyLists a b
  | map a, map b => a.length == b.length && exactlyEntries a b
  | bytes a, bytes b => a == b
  | buffer a, buffer b => a == b
  | _, _ => false

def exactlyLists : List Value → List Value → Bool
  | [], [] => true
  | a :: as, b :: bs => exactly a b && exactlyLists as bs
  | _, _ => false

def exactlyEntries : List (Value × Value) → List (Value × Value) → Bool
  | [], _ => true
  | (k, v) :: rest, other =>
    other.any (fun e => exactly k e.1 && exactly v e.2) && exactlyEntries rest other
end

mutual
/-- A value with one type for all numbers that are equal, and one for bytes. -/
def leveled : Value → Value
  | bool b => int b.toNat
  | float x => if x.isInteger then int (x.truncate?.getD 0) else float x
  | buffer data => bytes data
  | list items => list (leveledLists items)
  | tuple items => tuple (leveledLists items)
  | deque items => deque (leveledLists items)
  | map entries => map (leveledEntries entries)
  | v => v

def leveledLists : List Value → List Value
  | [] => []
  | v :: vs => leveled v :: leveledLists vs

def leveledEntries : List (Value × Value) → List (Value × Value)
  | [] => []
  | (k, v) :: rest => (leveled k, leveled v) :: leveledEntries rest
end

theorem leveledEntries_eq_map (entries : List (Value × Value)) :
    leveledEntries entries = entries.map fun e => (leveled e.1, leveled e.2) := by
  induction entries with
  | nil => rfl
  | cons e entries ih => rw [leveledEntries, ih, List.map_cons]

theorem leveled_float_cases (x : Double) :
    (x.isInteger = true ∧ ∃ i, x.truncate? = some i ∧ leveled (float x) = int i) ∨
      (x.isInteger = false ∧ leveled (float x) = float x) := by
  by_cases h : x.isInteger = true
  · obtain ⟨i, hi⟩ := Double.exists_truncate_of_isInteger h
    exact .inl ⟨h, i, hi, by rw [leveled, if_pos h, hi, Option.getD_some]⟩
  · exact .inr ⟨Bool.eq_false_iff.mpr h, by rw [leveled, if_neg h]⟩

/-- A number is compared with an integer by its value. -/
theorem eqInt_eq (x : Double) (i : Int) : x.eqInt i = (leveled (float x)).exactly (int i) := by
  rcases leveled_float_cases x with ⟨hx, j, hj, hl⟩ | ⟨hx, hl⟩
  · rw [hl, Double.eqInt, hx, hj, exactly]
    simp
  · simp [hl, Double.eqInt, hx, exactly]

theorem exactly_int_comm (v : Value) (i : Int) : (int i).exactly v = v.exactly (int i) := by
  cases v with
  | int j => exact BEq.comm
  | _ => rfl

theorem eq_eq (x y : Double) : x.eq y = (leveled (float x)).exactly (leveled (float y)) := by
  by_cases he : x.eq y = true
  · have hi := Double.isInteger_congr he
    by_cases hx : x.isInteger = true
    · rw [leveled, leveled, if_pos hx, if_pos (hi ▸ hx), exactly,
        Double.eq_of_isInteger hx (hi ▸ hx)]
    · rw [leveled, leveled, if_neg hx, if_neg (hi ▸ hx), exactly]
  · rw [Bool.eq_false_iff.mpr he]
    -- the numbers differ, and so does what they are leveled to
    rcases leveled_float_cases x with ⟨hx, i, hxi, hl⟩ | ⟨hx, hl⟩
    · rcases leveled_float_cases y with ⟨hy, j, hyj, hl'⟩ | ⟨hy, hl'⟩
      · rw [hl, hl', exactly, ← Bool.eq_false_iff.mpr he, Double.eq_of_isInteger hx hy, hxi, hyj]
        rfl
      · simp [hl, hl', exactly]
    · rcases leveled_float_cases y with ⟨hy, j, hyj, hl'⟩ | ⟨hy, hl'⟩
      · simp [hl, hl', exactly]
      · simp [hl, hl', exactly, Bool.eq_false_iff.mpr he]

theorem equals_float (v : Value) (x : Double) :
    v.equals (float x) = v.leveled.exactly (leveled (float x)) := by
  cases v with
  | bool b => exact (eqInt_eq x b.toNat).trans (exactly_int_comm _ _).symm
  | int i => exact (eqInt_eq x i).trans (exactly_int_comm _ _).symm
  | float y => exact eq_eq y x
  | _ => rcases leveled_float_cases x with ⟨_, i, _, hl⟩ | ⟨_, hl⟩ <;> rw [hl] <;> rfl

theorem float_equals (x : Double) (v : Value) :
    (float x).equals v = (leveled (float x)).exactly v.leveled := by
  cases v with
  | bool b => exact eqInt_eq x b.toNat
  | int i => exact eqInt_eq x i
  | float y => exact eq_eq x y
  | _ => rcases leveled_float_cases x with ⟨_, i, _, hl⟩ | ⟨_, hl⟩ <;> rw [hl] <;> rfl

theorem toNat_beq (a b : Bool) : ((a.toNat : Int) == b.toNat) = (a == b) := by
  cases a <;> cases b <;> rfl

mutual
/-- Values are equal when they are exactly equal at one level. -/
theorem equals_eq (a b : Value) : a.equals b = a.leveled.exactly b.leveled := by
  cases b with
  | float y => exact equals_float a y
  | _ =>
    cases a with
    | float x => exact float_equals x _
    | _ => simp only [equals, sameNumber, leveled, exactly, toNat_beq, equalLists_eq,
        equalEntries_eq, leveledEntries_eq_map, List.length_map]

theorem equalLists_eq (as bs : List Value) :
    equalLists as bs = exactlyLists (leveledLists as) (leveledLists bs) := by
  cases as with
  | nil => cases bs <;> simp [equalLists, leveledLists, exactlyLists]
  | cons a as =>
    cases bs <;> simp [equalLists, leveledLists, exactlyLists, equals_eq a, equalLists_eq as]

theorem equalEntries_eq (as bs : List (Value × Value)) :
    equalEntries as bs = exactlyEntries (leveledEntries as) (leveledEntries bs) := by
  match as with
  | [] => simp [equalEntries, leveledEntries, exactlyEntries]
  | (k, v) :: as =>
    simp [equalEntries, leveledEntries, exactlyEntries, equals_eq k, equals_eq v,
      equalEntries_eq as, leveledEntries_eq_map bs, Function.comp_def]
end

mutual
/-- What is exactly equal is equal. -/
theorem equals_of_exactly (a b : Value) (h : a.exactly b = true) : a.equals b = true := by
  match a, b with
  | list as, list bs | tuple as, tuple bs | deque as, deque bs =>
    exact equalLists_of_exactly as bs h
  | map as, map bs =>
    rw [exactly, Bool.and_eq_true] at h
    rw [equals, h.1, equalEntries_of_exactly as bs h.2]
    rfl
  | null, b | bool _, b | int _, b | float _, b | text _, b | bytes _, b | buffer _, b =>
    cases b <;> first | exact h | cases h

theorem equalLists_of_exactly (as bs : List Value) (h : exactlyLists as bs = true) :
    equalLists as bs = true := by
  match as, bs with
  | [], [] => rfl
  | [], _ :: _ => exact h
  | _ :: _, [] => exact h
  | a :: as, b :: bs =>
    rw [exactlyLists, Bool.and_eq_true] at h
    rw [equalLists, equals_of_exactly a b h.1, equalLists_of_exactly as bs h.2]
    rfl

theorem equalEntries_of_exactly (as bs : List (Value × Value)) (h : exactlyEntries as bs = true) :
    equalEntries as bs = true := by
  match as with
  | [] => rfl
  | (k, v) :: as =>
    rw [exactlyEntries, Bool.and_eq_true, List.any_eq_true] at h
    obtain ⟨⟨e, he, hkv⟩, h⟩ := h
    rw [Bool.and_eq_true] at hkv
    rw [equalEntries, Bool.and_eq_true, List.any_eq_true]
    refine ⟨⟨e, he, ?_⟩, equalEntries_of_exactly as bs h⟩
    rw [equals_of_exactly k e.1 hkv.1, equals_of_exactly v e.2 hkv.2]
    rfl
end

theorem sameType_of_exactly (h : exactly a b = true) : a.sameType b = true := by
  cases a <;> cases b <;> first | rfl | cases h

mutual
/-- What a value is made of, containers apart. -/
def scalars : Value → List Value
  | list items | tuple items | deque items => scalarsOfList items
  | map entries => scalarsOfEntries entries
  | v => [v]

def scalarsOfList : List Value → List Value
  | [] => []
  | v :: vs => scalars v ++ scalarsOfList vs

def scalarsOfEntries : List (Value × Value) → List Value
  | [] => []
  | (k, v) :: rest => scalars k ++ scalars v ++ scalarsOfEntries rest
end

/-- What a container is made of. -/
def inside : Value → List Value
  | list items | tuple items | deque items => scalarsOfList items
  | map entries => scalarsOfEntries entries
  | _ => []

/-- Of two lists of values, those that are equal are of one type. -/
def Tell (xs ys : List Value) : Prop :=
  ∀ x ∈ xs, ∀ y ∈ ys, x.equals y = true → x.sameType y = true

instance : Decidable (Tell xs ys) :=
  inferInstanceAs (Decidable (∀ x ∈ xs, ∀ y ∈ ys, x.equals y = true → x.sameType y = true))

theorem Tell.mono (h : Tell xs ys) (hx : xs' ⊆ xs) (hy : ys' ⊆ ys) : Tell xs' ys' :=
  fun x hx' y hy' => h x (hx hx') y (hy hy')

theorem scalars_subset_of_mem {entries : List (Value × Value)} (h : e ∈ entries) :
    scalars e.1 ⊆ scalarsOfEntries entries ∧ scalars e.2 ⊆ scalarsOfEntries entries := by
  induction entries with
  | nil => cases h
  | cons e' entries ih =>
    obtain ⟨k, v⟩ := e'
    rw [scalarsOfEntries]
    rcases List.mem_cons.mp h with rfl | h
    · exact ⟨fun x hx => by simp [hx], fun x hx => by simp [hx]⟩
    · exact ⟨fun x hx => List.mem_append_right _ ((ih h).1 hx),
        fun x hx => List.mem_append_right _ ((ih h).2 hx)⟩

theorem inside_subset (v : Value) : v.inside ⊆ v.scalars := by
  cases v <;> simp [inside, scalars]

theorem sameType_of_tell (h : equals a b = true) (ht : Tell a.scalars b.scalars) :
    a.sameType b = true := by
  cases a <;> cases b <;> first
    | rfl
    | cases h
    | exact ht _ List.mem_cons_self _ List.mem_cons_self h

mutual
/-- Equal values of one type are exactly equal unless numbers or bytes inside tell them apart. -/
theorem exactly_of_equals (a b : Value) (h : a.equals b = true) (hs : a.sameType b = true)
    (ht : Tell a.inside b.inside) : a.exactly b = true := by
  match a, b with
  -- the type of the container is in `hs`, the types of what is in it are in `ht`
  | list as, list bs | tuple as, tuple bs | deque as, deque bs =>
    exact exactlyLists_of_equals as bs h ht
  | map as, map bs =>
    rw [equals, Bool.and_eq_true] at h
    rw [exactly, h.1, exactlyEntries_of_equals as bs h.2 ht]
    rfl
  | null, b | bool _, b | int _, b | float _, b | text _, b | bytes _, b | buffer _, b =>
    cases b <;> first | exact h | cases hs

theorem exactlyLists_of_equals (as bs : List Value) (h : equalLists as bs = true)
    (ht : Tell (scalarsOfList as) (scalarsOfList bs)) : exactlyLists as bs = true := by
  match as, bs with
  | [], [] => rfl
  | [], _ :: _ => exact h
  | _ :: _, [] => exact h
  | a :: as, b :: bs =>
    rw [equalLists, Bool.and_eq_true] at h
    have hab : Tell a.scalars b.scalars :=
      ht.mono (List.subset_append_left _ _) (List.subset_append_left _ _)
    have hrest : Tell (scalarsOfList as) (scalarsOfList bs) :=
      ht.mono (List.subset_append_right _ _) (List.subset_append_right _ _)
    rw [exactlyLists, exactlyLists_of_equals as bs h.2 hrest, Bool.and_true]
    exact exactly_of_equals a b h.1 (sameType_of_tell h.1 hab)
      (hab.mono (inside_subset a) (inside_subset b))

theorem exactlyEntries_of_equals (as bs : List (Value × Value)) (h : equalEntries as bs = true)
    (ht : Tell (scalarsOfEntries as) (scalarsOfEntries bs)) : exactlyEntries as bs = true := by
  match as with
  | [] => rfl
  | (k, v) :: as =>
    rw [equalEntries, Bool.and_eq_true, List.any_eq_true] at h
    obtain ⟨⟨e, he, hkv⟩, h⟩ := h
    rw [Bool.and_eq_true] at hkv
    obtain ⟨hek, hev⟩ := scalars_subset_of_mem he
    have hk : Tell k.scalars e.1.scalars := ht.mono (fun x hx => by simp [scalarsOfEntries, hx]) hek
    have hv : Tell v.scalars e.2.scalars := ht.mono (fun x hx => by simp [scalarsOfEntries, hx]) hev
    have hrest : Tell (scalarsOfEntries as) (scalarsOfEntries bs) :=
      ht.mono (List.subset_append_right _ _) (List.Subset.refl _)
    rw [exactlyEntries, exactlyEntries_of_equals as bs h hrest, Bool.and_true, List.any_eq_true]
    refine ⟨e, he, ?_⟩
    rw [exactly_of_equals k e.1 hkv.1 (sameType_of_tell hkv.1 hk)
        (hk.mono (inside_subset k) (inside_subset e.1)),
      exactly_of_equals v e.2 hkv.2 (sameType_of_tell hkv.2 hv)
        (hv.mono (inside_subset v) (inside_subset e.2))]
    rfl
end

end Value

variable {mode : Mode} {params : Params} {data : Value} {values : List Value}

namespace Check

theorem enum_eq_ok (hv : params.list "values" = .ok (some values)) :
    enum mode params data = .ok r ↔
      r = ⟨data, data⟩ ∧ ∃ v ∈ values, v.sameType data = true ∧ v.equals data = true := by
  have hany : (values.any fun v => v.sameType data && v.equals data) = true ↔
      ∃ v ∈ values, v.sameType data = true ∧ v.equals data = true := by
    simp only [List.any_eq_true, Bool.and_eq_true]
  rw [← hany, enum, hv]
  constructor
  · intro h
    obtain ⟨_, hvs, h⟩ := bind_eq_ok.mp h
    obtain rfl := Except.ok.inj (lift_eq_ok.mp hvs)
    obtain ⟨_, _, h⟩ := bind_eq_ok.mp h
    rw [Option.getD_some] at h
    split at h
    · rename_i hm
      exact ⟨accept_eq_ok.mp h, hm⟩
    · obtain ⟨_, _, h⟩ := bind_eq_ok.mp h
      cases h
  · rintro ⟨rfl, hm⟩
    have hne : (!values.isEmpty) = true := by
      cases values with
      | nil => cases hm
      | cons v values => rfl
    refine bind_eq_ok.mpr ⟨some values, rfl, bind_eq_ok.mpr ⟨(), ?_, if_pos hm⟩⟩
    exact lift_eq_ok.mpr (if_pos hne)

end Check

namespace Kind

variable {inner : Check.Delegate}

/-- An enumeration lets data through, as it is, when one of its values is of the same outermost
type and equal to it at one level. A value with the same types at every level is always found, and
nothing else is where numbers and bytes inside tell by their value what type they are of. -/
theorem validate_member (hd : params.get "default" = .null)
    (hv : params.list "values" = .ok (some values)) (r : Result) :
    (enum.validate inner mode params data = .ok r ↔ r = ⟨data, data⟩ ∧
      ∃ v ∈ values, v.sameType data = true ∧ v.leveled.exactly data.leveled = true) ∧
    ((∃ v ∈ values, v.exactly data = true) →
      enum.validate inner mode params data = .ok ⟨data, data⟩) ∧
    ((∀ v ∈ values, Value.Tell v.inside data.inside) →
      (enum.validate inner mode params data = .ok r ↔
        r = ⟨data, data⟩ ∧ ∃ v ∈ values, v.exactly data = true)) := by
  have hcheck (r : Result) : enum.validate inner mode params data = .ok r ↔
      r = ⟨data, data⟩ ∧ ∃ v ∈ values, v.sameType data = true ∧ v.equals data = true := by
    rw [validate_without_default hd, Check.settle_eq_ok]
    exact @Check.enum_eq_ok mode params data values r hv
  have hfound : (∃ v ∈ values, v.exactly data = true) →
      ∃ v ∈ values, v.sameType data = true ∧ v.equals data = true :=
    fun ⟨v, hm, h⟩ => ⟨v, hm, Value.sameType_of_exactly h, Value.equals_of_exactly v data h⟩
  refine ⟨?_, fun h => (hcheck _).mpr ⟨rfl, hfound h⟩, fun ht => ?_⟩
  · simp only [← Value.equals_eq]
    exact hcheck r
  · rw [hcheck r]
    refine and_congr_right fun _ => ⟨?_, hfound⟩
    rintro ⟨v, hm, hs, he⟩
    exact ⟨v, hm, Value.exactly_of_equals v data he hs (ht v hm)⟩

/-- A pair with a truth value, and a record with a number in it. -/
def pairOrRecordValues : List Value :=
  [.list [.bool true, .text "a"],
    .map [(.text "k", .tuple [.int 2, .null]), (.text "l", .bytes [])]]

def pairOrRecord : Params := [("values", .list pairOrRecordValues)]

/-- The record, its entries in another order. -/
def turned : Value := .map [(.text "l", .bytes []), (.text "k", .tuple [.int 2, .null])]

theorem validate_turned :
    enum.validate Check.noParts ⟨true, false⟩ pairOrRecord turned = .ok ⟨turned, turned⟩ ∧
      ∀ r, enum.validate Check.noParts ⟨true, false⟩ pairOrRecord
        (.list [.int 2, .text "a"]) ≠ .ok r := by
  have hv : pairOrRecord.list "values" = .ok (some pairOrRecordValues) := rfl
  refine ⟨((validate_member rfl hv ⟨turned, turned⟩).2.2 (by decide)).mpr ⟨rfl, ?_⟩, fun r h => ?_⟩
  · decide
  · obtain ⟨_, hm⟩ := ((validate_member rfl hv r).2.2 (by decide)).mp h
    revert hm
    decide

/-- A list with a truth value in it passes for one of the number that it counts as. -/
theorem validate_truth_for_one :
    Filter.initial.validate (.list [.bool true])
        (.map [(.text "type", .text "enum"), (.text "values", .list [.list [.int 1]])]) none =
      .ok ⟨.list [.bool true], .list [.bool true]⟩ ∧
      (Value.list [.int 1]).exactly (.list [.bool true]) = false :=
  ⟨by rfl, by rfl⟩

end Kind
end Covenant
