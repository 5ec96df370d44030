import Covenant.Time.Calendar
import Mathlib.Algebra.BigOperators.Group.List.Basic
import Mathlib.Logic.Function.Iterate
import Mathlib.Tactic.NormNum
import Mathlib.Tactic.SplitIfs

/-! The days of the calendar one after the other, and the numbers they are counted by. -/

namespace Covenant.Date

variable {d d' : Date} {year month day k : Nat}

/-- A day that its month has. -/
structure IsValid (d : Date) : Prop where
  month_pos : 1 ≤ d.month
  month_le : d.month ≤ 12
  day_pos : 1 ≤ d.day
  day_le : d.day ≤ monthLength d.year d.month

/-- The day after. -/
def next (d : Date) : Date :=
  if d.day < monthLength d.year d.month then ⟨d.year, d.month, d.day + 1⟩
  else if d.month < 12 then ⟨d.year, d.month + 1, 1⟩
  else ⟨d.year + 1, 1, 1⟩

/-- The day before, if it is not that of the first day of the year 0. -/
def previous (d : Date) : Date :=
  if 1 < d.day then ⟨d.year, d.month, d.day - 1⟩
  else if 1 < d.month then ⟨d.year, d.month - 1, monthLength d.year (d.month - 1)⟩
  else ⟨d.year - 1, 12, 31⟩

theorem monthLength_pos (h : 1 ≤ month) (hle : month ≤ 12) (year : Nat) :
    1 ≤ monthLength year month := by
  have hall : ∀ leap : Bool, ∀ i < 12,
      1 ≤ [31, if leap then 29 else 28, 31, 30, 31, 30, 31, 31, 30, 31, 30, 31].getD i 0 := by
    decide
  exact hall (isLeap year) (month - 1) (by omega)

theorem monthLength_december (year : Nat) : monthLength year 12 = 31 := rfl

theorem isValid_next (h : d.IsValid) : d.next.IsValid := by
  obtain ⟨hm, hm', hd, hd'⟩ := h
  rw [next]
  split
  · rename_i hlt
    exact ⟨hm, hm', Nat.le_add_left 1 _, hlt⟩
  · split
    · rename_i hlt
      exact ⟨Nat.le_add_left 1 _, hlt, le_refl 1, monthLength_pos (Nat.le_add_left 1 _) hlt _⟩
    · exact ⟨le_refl 1, Nat.le_add_left 1 11, le_refl 1, monthLength_pos (le_refl 1) (by decide) _⟩

theorem isValid_previous (h : d.IsValid) : d.previous.IsValid := by
  obtain ⟨hm, hm', hd, hd'⟩ := h
  rw [previous]
  split
  · exact ⟨hm, hm', by dsimp only; omega, le_trans (Nat.sub_le _ 1) hd'⟩
  · split
    · exact ⟨by dsimp only; omega, by dsimp only; omega, monthLength_pos (by omega) (by omega) _,
        le_refl _⟩
    · exact ⟨Nat.le_add_left 1 11, le_refl 12, Nat.le_add_left 1 30, le_refl 31⟩

theorem previous_next (h : d.IsValid) : d.next.previous = d := by
  obtain ⟨year, month, day⟩ := d
  obtain ⟨hm, hm', hd, hd'⟩ := h
  dsimp only at hm hm' hd hd'
  rw [next]
  dsimp only
  split
  · rw [previous, if_pos (by dsimp only; omega)]
    rfl
  · rename_i hday
    have hlast : monthLength year month = day := by omega
    split
    · rw [previous, if_neg (lt_irrefl 1), if_pos (by dsimp only; omega)]
      dsimp only
      rw [Nat.add_sub_cancel, hlast]
    · obtain rfl : month = 12 := by omega
      rw [monthLength_december] at hlast
      rw [← hlast]
      rfl

/-- No two days have the same day after them. -/
theorem next_injective (h : d.IsValid) (h' : d'.IsValid) (he : d.next = d'.next) : d = d' := by
  rw [← previous_next h, he, previous_next h']

/-- Only the first day of the year 0 has no day before. -/
theorem next_previous (h : d.IsValid) (hy : 1 ≤ d.year ∨ 2 ≤ d.month) : d.previous.next = d := by
  obtain ⟨year, month, day⟩ := d
  obtain ⟨hm, hm', hd, hd'⟩ := h
  dsimp only at hm hm' hd hd' hy
  rw [previous]
  dsimp only
  split
  · rw [next, if_pos (by dsimp only; omega)]
    dsimp only
    rw [Nat.sub_add_cancel hd]
  · obtain rfl : day = 1 := by omega
    split
    · rw [next, if_neg (lt_irrefl _), if_pos (by dsimp only; omega)]
      dsimp only
      rw [Nat.sub_add_cancel hm]
    · obtain rfl : month = 1 := by omega
      have hyear : year - 1 + 1 = year := by omega
      rw [next, if_neg (by dsimp only; rw [monthLength_december]; decide),
        if_neg (by dsimp only; decide)]
      dsimp only
      rw [hyear]

/-- The number of days of a year. -/
def yearLength (year : Nat) : Nat := (monthLengths year).sum

theorem yearLength_eq (year : Nat) : yearLength year = if isLeap year then 366 else 365 := by
  rw [yearLength, monthLengths]
  cases isLeap year <;> rfl

theorem isLeap_iff : isLeap year ↔ year % 4 = 0 ∧ (year % 100 ≠ 0 ∨ year % 400 = 0) := by
  simp [isLeap]

theorem daysBefore_succ (h : 1 ≤ year) :
    daysBefore (year + 1) = daysBefore year + yearLength year := by
  obtain ⟨y, rfl⟩ := Nat.exists_eq_add_of_le' h
  have h4 : (y + 1) / 4 = y / 4 + if (y + 1) % 4 = 0 then 1 else 0 := by split <;> omega
  have h100 : (y + 1) / 100 = y / 100 + if (y + 1) % 100 = 0 then 1 else 0 := by split <;> omega
  have h400 : (y + 1) / 400 = y / 400 + if (y + 1) % 400 = 0 then 1 else 0 := by split <;> omega
  have hle : y / 100 ≤ y / 4 := Nat.div_le_div_left (by decide) (by decide)
  rw [yearLength_eq, daysBefore, daysBefore, Nat.add_sub_cancel, Nat.add_sub_cancel, h4, h100, h400]
  simp only [isLeap_iff]
  generalize y / 4 = a at *
  generalize y / 100 = b at *
  generalize y / 400 = c at *
  split_ifs <;> omega

theorem daysBefore_mono (h : 1 ≤ year) (hle : year ≤ later) :
    daysBefore year ≤ daysBefore later := by
  induction later, hle using Nat.le_induction with
  | base => exact le_refl _
  | succ later hle ih =>
    rw [daysBefore_succ (h.trans hle)]
    exact le_add_right ih

theorem foldl_add (ns : List Nat) (a : Nat) : ns.foldl (· + ·) a = ns.sum + a := by
  induction ns generalizing a with
  | nil => exact (Nat.zero_add a).symm
  | cons n ns ih =>
    rw [List.foldl_cons, ih, List.sum_cons]
    omega

theorem dayOfYear_eq (d : Date) :
    d.dayOfYear = ((monthLengths d.year).take (d.month - 1)).sum + d.day :=
  foldl_add _ _

theorem sum_take_succ (h : 1 ≤ month) (hle : month ≤ 12) (year : Nat) :
    ((monthLengths year).take month).sum =
      ((monthLengths year).take (month - 1)).sum + monthLength year month := by
  obtain ⟨i, rfl⟩ := Nat.exists_eq_add_of_le' h
  have hi : i < (monthLengths year).length := hle
  rw [Nat.add_sub_cancel, List.sum_take_succ _ _ hi, monthLength, Nat.add_sub_cancel,
    List.getD_eq_getElem?_getD, List.getElem?_eq_getElem hi, Option.getD_some]

theorem dayOfYear_pos (h : d.IsValid) : 1 ≤ d.dayOfYear := by
  rw [dayOfYear_eq]
  exact le_add_left h.day_pos

theorem dayOfYear_le (h : d.IsValid) : d.dayOfYear ≤ yearLength d.year := by
  have hs := sum_take_succ h.month_pos h.month_le d.year
  have hsum : _ = yearLength d.year := (monthLengths d.year).sum_take_add_sum_drop d.month
  have hday := h.day_le
  rw [dayOfYear_eq]
  omega

/-- Days are counted one by one. -/
theorem ordinal_next (h : d.IsValid) (hy : 1 ≤ d.year) : d.next.ordinal = d.ordinal + 1 := by
  have hs := sum_take_succ h.month_pos h.month_le d.year
  have hday := h.day_le
  rw [ordinal, ordinal, dayOfYear_eq, dayOfYear_eq, next]
  split
  · dsimp only
    omega
  · split
    · dsimp only
      rw [Nat.add_sub_cancel]
      omega
    · have hm : d.month = 12 := Nat.le_antisymm h.month_le (by omega)
      have hyear : ((monthLengths d.year).take 12).sum = yearLength d.year := rfl
      dsimp only
      rename_i hlast _
      rw [hm] at hs hday hlast
      rw [daysBefore_succ hy, hm, List.take_zero, List.sum_nil]
      omega

theorem isValid_iterate (h : d.IsValid) (n : Nat) : (next^[n] d).IsValid :=
  Function.Iterate.rec IsValid h (fun _ => isValid_next) n

/-- After the first month of the year 0, no day comes back to it. -/
theorem late_next (h : 1 ≤ d.year ∨ 2 ≤ d.month) : 1 ≤ d.next.year ∨ 2 ≤ d.next.month := by
  rw [next]
  split
  · exact h
  · split
    · exact h.imp id fun h => h.trans (Nat.le_succ _)
    · exact .inl (Nat.le_add_left 1 _)

theorem late_iterate (h : 1 ≤ d.year ∨ 2 ≤ d.month) (n : Nat) :
    1 ≤ (next^[n] d).year ∨ 2 ≤ (next^[n] d).month :=
  Function.Iterate.rec (fun e : Date => 1 ≤ e.year ∨ 2 ≤ e.month) h (fun _ => late_next) n

theorem le_year_next (d : Date) : d.year ≤ d.next.year := by
  rw [next]
  split
  · exact le_refl _
  · split
    · exact le_refl _
    · exact Nat.le_succ _

/-- A new year begins on its first day. -/
theorem next_of_year_lt (h : d.year < d.next.year) : d.next = ⟨d.year + 1, 1, 1⟩ := by
  rw [next] at h ⊢
  split
  · rename_i hd
    rw [if_pos hd] at h
    exact absurd h (lt_irrefl _)
  · rename_i hd
    rw [if_neg hd] at h
    split
    · rename_i hm
      rw [if_pos hm] at h
      exact absurd h (lt_irrefl _)
    · rfl

theorem le_year_iterate (d : Date) (n : Nat) : d.year ≤ (next^[n] d).year :=
  Function.Iterate.rec (fun e : Date => d.year ≤ e.year) (le_refl _)
    (fun e h => le_trans h (le_year_next e)) n

theorem ordinal_iterate (h : d.IsValid) (hy : 1 ≤ d.year) (n : Nat) :
    (next^[n] d).ordinal = d.ordinal + n := by
  induction n with
  | zero => rfl
  | succ n ih =>
    rw [Function.iterate_succ_apply',
      ordinal_next (isValid_iterate h n) (hy.trans (le_year_iterate d n)), ih, Nat.add_assoc]

/-- Every 400 years have as many days. -/
theorem daysBefore_cycle (q e : Nat) :
    daysBefore (q * 400 + e + 1) = q * 146097 + daysBefore (e + 1) := by
  rw [daysBefore, daysBefore]
  omega

/-- The estimate of a year is at most one year early. -/
theorem daysBefore_estimate (h : r < 146097) :
    daysBefore (r / 366 + 1) ≤ r ∧ r < daysBefore (r / 366 + 2 + 1) := by
  rw [daysBefore, daysBefore]
  omega

theorem year_unique (hlow : daysBefore year ≤ n) (hhigh : n < daysBefore (year + 1))
    (hlow' : daysBefore year' ≤ n) (hhigh' : n < daysBefore (year' + 1)) : year = year' := by
  by_contra hne
  rcases Nat.lt_or_gt_of_ne hne with hlt | hlt
  · have hmono := daysBefore_mono (Nat.le_add_left 1 year) hlt
    omega
  · have hmono := daysBefore_mono (Nat.le_add_left 1 year') hlt
    omega

/-- A day is in the year that is found for the number of days before it. -/
theorem yearAfter_eq (hlow : daysBefore year ≤ n)
    (hhigh : n < daysBefore (year + 1)) : yearAfter n = year := by
  obtain ⟨hfrom, hto⟩ := daysBefore_estimate (r := n % 146097) (Nat.mod_lt n (by norm_num))
  have hcycle := daysBefore_cycle (n / 146097) (n % 146097 / 366)
  have hcycle' := daysBefore_cycle (n / 146097) (n % 146097 / 366 + 2)
  have hn := Nat.div_add_mod' n 146097
  have hadd (q e : Nat) : q + (e + 2) = q + e + 1 + 1 := rfl
  rw [hadd] at hcycle'
  rw [yearAfter]
  split
  · rename_i hle
    have hlt : n < daysBefore (n / 146097 * 400 + n % 146097 / 366 + 1 + 1 + 1) := by omega
    exact year_unique hle hlt hlow hhigh
  · rename_i hlt
    have hle : daysBefore (n / 146097 * 400 + n % 146097 / 366 + 1) ≤ n := by omega
    exact year_unique hle (Nat.lt_of_not_le hlt) hlow hhigh

theorem splitMonths_eq {lens : List Nat} (hi : i < lens.length) (hj : j < lens[i]) (k : Nat) :
    splitMonths lens k ((lens.take i).sum + j) = (k + i, j + 1) := by
  induction lens generalizing i k with
  | nil => cases hi
  | cons len lens ih =>
    cases i with
    | zero =>
      have hlt : j < len := hj
      rw [List.take_zero, List.sum_nil, Nat.zero_add, splitMonths, if_pos hlt]
      rfl
    | succ i =>
      rw [List.take_succ_cons, List.sum_cons, splitMonths, if_neg (by omega)]
      have hsub : len + (lens.take i).sum + j - len = (lens.take i).sum + j := by omega
      rw [hsub, ih (Nat.lt_of_succ_lt_succ hi) hj (k + 1), Nat.add_right_comm, Nat.add_assoc]

/-- The days of a month follow on each other. -/
theorem iterate_within (h : day + k ≤ monthLength year month) :
    next^[k] ⟨year, month, day⟩ = ⟨year, month, day + k⟩ := by
  induction k with
  | zero => rfl
  | succ k ih =>
    have hlt : day + k < monthLength year month := h
    rw [Function.iterate_succ_apply', ih hlt.le]
    exact if_pos hlt

/-- A day is found by its number. -/
theorem ofOrdinal?_ordinal (h : d.IsValid) (hy : 1 ≤ d.year) (hle : d.year ≤ lastYear) :
    ofOrdinal? d.ordinal = some d := by
  have hday := dayOfYear_le h
  have hpos := dayOfYear_pos h
  have hlast : daysBefore (d.year + 1) ≤ lastOrdinal :=
    daysBefore_mono (Nat.le_add_left 1 _) (Nat.add_le_add_right hle 1)
  have hsucc := daysBefore_succ hy
  have hyear : yearAfter (d.ordinal - 1) = d.year :=
    yearAfter_eq (by rw [ordinal]; omega) (by rw [ordinal]; omega)
  have hmonth : d.month - 1 < (monthLengths d.year).length :=
    Nat.sub_one_lt_of_le h.month_pos h.month_le
  have hrest : d.ordinal - 1 - daysBefore d.year =
      ((monthLengths d.year).take (d.month - 1)).sum + (d.day - 1) := by
    have hd := h.day_pos
    rw [ordinal, dayOfYear_eq]
    omega
  have hlength : d.day - 1 < (monthLengths d.year)[d.month - 1] := by
    have hd := h.day_pos
    have hle := h.day_le
    rw [monthLength, List.getD_eq_getElem?_getD, List.getElem?_eq_getElem hmonth,
      Option.getD_some] at hle
    omega
  rw [ofOrdinal?, if_pos (by rw [ordinal]; omega)]
  dsimp only
  rw [Int.toNat_natCast, hyear, hrest, splitMonths_eq hmonth hlength, Nat.sub_add_cancel h.day_pos,
    Nat.add_sub_cancel' h.month_pos]

/-- The days that are found have no year after the last one. -/
theorem ofOrdinal?_of_late (h : d.IsValid) (hlt : lastYear < d.year) :
    ofOrdinal? d.ordinal = none := by
  have hlast : lastOrdinal ≤ daysBefore d.year := daysBefore_mono (by decide) hlt
  have hpos := dayOfYear_pos h
  rw [ofOrdinal?, if_neg]
  rw [ordinal]
  omega

end Covenant.Date
