import Covenant.Proofs.Time.Written
import Mathlib.Data.List.Perm.Subperm

/-! The date and the time of day that numbers at their full width say. -/

namespace Covenant

theorem Date.monthLength_le (year month : Nat) : monthLength year month ≤ 31 := by
  rw [monthLength, List.getD_eq_getElem?_getD]
  cases h : (monthLengths year)[month - 1]? with
  | none => exact Nat.zero_le _
  | some n =>
    have hmem := List.mem_of_getElem? h
    have hle : ∀ n ∈ monthLengths year, n ≤ 31 := by
      rw [monthLengths]
      cases isLeap year <;> decide
    exact hle n hmem

namespace Time

open Decimal (figures digitChar exists_map_digitChar)

/-- A reading of nothing but a month and a day, and perhaps a year. -/
theorem Reading.date?_of_parts {r : Reading} (hd : r.dayOfYear = none) (hw : r.weekday = none)
    (hy : r.isoYear = none) (hi : r.isoWeek = none) :
    r.date? = Date.ofParts? (r.year.getD defaultYear) r.month r.day := by
  have hc : r.isoComplete = true := by simp [isoComplete, hy, hi]
  have hin (year : Nat) : r.dateIn? year = Date.ofParts? year r.month r.day := by
    simp [dateIn?, hd, hw]
  simp only [date?, hc, hin, Bool.not_true, Bool.false_eq_true, if_false]
  cases r.year with
  | some year => rfl
  | none =>
    simp only [Option.getD_none]
    split
    · -- 1900 is no leap year, so the detour by 1904 finds no 29th of February either
      rename_i h
      rw [h.1, h.2]
      rfl
    · rfl

/-- A number that is not padded is written as its digits when the first one is not a zero. -/
theorem padded_one_eq_iff (h : ∀ c ∈ cs, isAsciiDigit c) (hl : cs.length = 4) :
    padded 1 (number cs) = cs ↔ 1000 ≤ number cs := by
  have hle := length_figures_number h (by omega)
  constructor
  · intro he
    have hlength := congrArg List.length he
    rw [length_padded] at hlength
    by_contra hlt
    have := Decimal.length_figures_le (k := 3) (by decide) (Nat.lt_of_not_le hlt)
    omega
  · intro hn
    have hlt := Decimal.lt_length_figures (k := 3) hn
    have hfour := padded_number h hl (by decide)
    rw [padded_eq, Nat.sub_eq_zero_of_le (by omega)] at hfour
    rwa [padded_eq, Nat.sub_eq_zero_of_le (by omega)]

namespace Field

/-- The least and the greatest number that a directive of the calendar stands for. -/
def range : Field → Nat × Nat
  | year => (1, 9999)
  | month => (1, 12)
  | day => (1, 31)
  | hour => (0, 23)
  | minute | second => (0, 59)
  | micro => (0, 999999)
  | _ => (0, 0)

theorem takes_two : ∀ f ∈ [month, day, hour, minute, second], ∀ a < 10, ∀ b < 10,
    f.range.1 ≤ 10 * a + b → 10 * a + b ≤ f.range.2 →
      f.takes [digitChar a, digitChar b] = true := by
  decide

theorem fills_replicate {ds : List Nat} (h : ∀ d ∈ ds, slot.allows (digitChar d) = true) :
    Fills (List.replicate ds.length slot) (ds.map digitChar) := by
  induction ds with
  | nil => exact .nil
  | cons d ds ih =>
    obtain ⟨hd, h⟩ := List.forall_mem_cons.mp h
    exact .cons hd (ih h)

/-- Digits at full width are read by their directive when their number is in its range. -/
theorem takes_of_range {f : Field} (hf : f ∈ ofCalendar) (hw : f.width? = some cs.length)
    (hd : ∀ c ∈ cs, isAsciiDigit c) (hl : f.range.1 ≤ number cs) (hg : number cs ≤ f.range.2) :
    f.takes cs = true := by
  obtain ⟨ds, hds, rfl⟩ := exists_map_digitChar hd
  rw [number_map_digitChar hds] at hl hg
  rw [List.length_map] at hw
  have htwo (h : f ∈ [month, day, hour, minute, second]) (hlength : 2 = ds.length) :
      f.takes (ds.map digitChar) = true := by
    obtain ⟨a, b, rfl⟩ := List.length_eq_two.mp hlength.symm
    rw [show Numeral.ofDigits [a, b] = 10 * a + b by simp [Numeral.ofDigits]] at hl hg
    exact takes_two f h a (hds a (by simp)) b (hds b (by simp)) hl hg
  have hdigit : ∀ d < 10, Slot.digit.allows (digitChar d) = true := by decide
  have hamong : ∀ d < 10, (Slot.among '0' '9').allows (digitChar d) = true := by decide
  simp only [ofCalendar, List.mem_cons, List.not_mem_nil, or_false] at hf
  rcases hf with rfl | rfl | rfl | rfl | rfl | rfl | rfl
  · refine takes_iff.mpr ⟨List.replicate 4 .digit, by decide, ?_⟩
    rw [show 4 = ds.length from Option.some.inj hw]
    exact fills_replicate fun d h => hdigit d (hds d h)
  · exact htwo (by decide) (Option.some.inj hw)
  · exact htwo (by decide) (Option.some.inj hw)
  · exact htwo (by decide) (Option.some.inj hw)
  · exact htwo (by decide) (Option.some.inj hw)
  · exact htwo (by decide) (Option.some.inj hw)
  · refine takes_iff.mpr ⟨List.replicate 6 (.among '0' '9'), by decide, ?_⟩
    rw [show 6 = ds.length from Option.some.inj hw]
    exact fills_replicate fun d h => hamong d (hds d h)

end Field

namespace FullField

variable {fs : List FullField} {m : Moment}

/-- The number of a directive, if the directive comes. -/
def value? (fs : List FullField) (f : Field) : Option Nat :=
  (fs.find? (·.field = f)).map (number ·.digits)

/-- The number of a directive, or the one that is assumed when it does not come. -/
def value (fs : List FullField) (f : Field) : Nat := (value? fs f).getD f.assumed

/-- The date and the time of day that have the numbers as their parts; what does not come is as at
the start of 1900. -/
def calendar? (fs : List FullField) : Option Moment :=
  (Date.ofParts? (value fs .year) (value fs .month) (value fs .day)).bind fun date =>
    Moment.ofClock? date (value fs .hour) (value fs .minute) (value fs .second) (value fs .micro)
      none

theorem value?_cons (f : FullField) (fs : List FullField) (g : Field) :
    value? (f :: fs) g = if f.field = g then some (number f.digits) else value? fs g := by
  rw [value?, List.find?_cons]
  by_cases h : f.field = g
  · simp [h]
  · simp [h, value?]

theorem value?_of_not_mem (h : g ∉ fields fs) : value? fs g = none := by
  rw [value?, Option.map_eq_none_iff, List.find?_eq_none]
  intro f hf he
  exact h (List.mem_map.mpr ⟨f, hf, of_decide_eq_true he⟩)

theorem value?_of_mem (hn : (fields fs).Nodup) (hf : f ∈ fs) :
    value? fs f.field = some (number f.digits) := by
  induction fs with
  | nil => cases hf
  | cons g fs ih =>
    obtain ⟨hg, hn⟩ := List.nodup_cons.mp hn
    rw [value?_cons]
    rcases List.mem_cons.mp hf with rfl | hf
    · exact if_pos rfl
    · rw [if_neg fun he => hg (List.mem_map.mpr ⟨f, hf, he.symm⟩)]
      exact ih hn hf

/-- A reading with the numbers filled in. -/
def fillIn (fs : List FullField) (r : Reading) : Reading :=
  { r with
    year := (value? fs .year).or r.year
    month := (value? fs .month).getD r.month
    day := (value? fs .day).getD r.day
    hour := (value? fs .hour).getD r.hour
    minute := (value? fs .minute).getD r.minute
    second := (value? fs .second).getD r.second
    micro := (value? fs .micro).getD r.micro }

theorem microsOf_digits (f : FullField) (h : f.field = .micro) :
    microsOf f.digits = number f.digits := by
  have hw := f.isFull
  rw [h] at hw
  rw [microsOf, ← Option.some.inj hw, Nat.sub_self, List.replicate_zero, List.append_nil]

theorem readFields_entries (hc : ∀ f ∈ fs, f.field ∈ Field.ofCalendar) (hn : (fields fs).Nodup)
    (r : Reading) : readFields [] r (entries fs) = some (fillIn fs r) := by
  induction fs generalizing r with
  | nil => rfl
  | cons f fs ih =>
    obtain ⟨hf, hc⟩ := List.forall_mem_cons.mp hc
    obtain ⟨hnot, hn⟩ := List.nodup_cons.mp hn
    have hnone : value? fs f.field = none := value?_of_not_mem hnot
    show (readField [] r f.field f.digits).bind (fun r => readFields [] r (entries fs)) = _
    simp only [ih hc hn]
    simp only [Field.ofCalendar, List.mem_cons, List.not_mem_nil, or_false] at hf
    -- the directive does not come again, so what it fills in is not filled in a second time
    rcases hf with h | h | h | h | h | h | h <;> rw [h] at hnone <;>
      simp [readField, fillIn, value?_cons, h, hnone, microsOf_digits f]

theorem moment?_fillIn (fs : List FullField) : (fillIn fs {}).moment? = calendar? fs := by
  rw [Reading.moment?, Reading.date?_of_parts rfl rfl rfl rfl]
  simp only [fillIn, Option.or_none]
  rfl

/-- The numbers are the parts of the moment, and each is in its range. -/
theorem part_of_calendar? (h : calendar? fs = some m) : ∀ f ∈ Field.ofCalendar,
    f.part m = value fs f ∧ f.range.1 ≤ f.part m ∧ f.part m ≤ f.range.2 := by
  obtain ⟨date, hdate, hclock⟩ := Option.bind_eq_some_iff.mp h
  rw [Date.ofParts?, Option.ite_none_right_eq_some, Option.some.injEq] at hdate
  rw [Moment.ofClock?, Option.ite_none_right_eq_some, Option.some.injEq] at hclock
  obtain ⟨hr, rfl⟩ := hdate
  obtain ⟨hr', rfl⟩ := hclock
  have hday := Date.monthLength_le (value fs .year) (value fs .month)
  have hlast : Date.lastYear = 9999 := rfl
  have hmillion : million = 1000000 := rfl
  simp only [Field.ofCalendar, List.forall_mem_cons, List.not_mem_nil, false_implies,
    implies_true, Field.part, Field.range, true_and, and_true]
  omega

theorem value_of_mem (hn : (fields fs).Nodup) (hf : f ∈ fs) :
    value fs f.field = number f.digits := by
  rw [value, value?_of_mem hn hf]
  rfl

/-- Numbers that make up a moment are all read by their directives. -/
theorem takes_of_calendar? (hc : ∀ f ∈ fs, f.field ∈ Field.ofCalendar) (hn : (fields fs).Nodup)
    (h : calendar? fs = some m) : ∀ f ∈ fs, f.field.takes f.digits = true := by
  intro f hf
  obtain ⟨hpart, hl, hg⟩ := part_of_calendar? h f.field (hc f hf)
  rw [hpart, value_of_mem hn hf] at hl hg
  exact Field.takes_of_range (hc f hf) f.isFull f.areDigits hl hg

theorem moment?_of_calendar (hc : ∀ f ∈ fs, f.field ∈ Field.ofCalendar) (hn : (fields fs).Nodup) :
    moment? fs = calendar? fs := by
  rw [moment?, readFields_entries hc hn, Option.bind_some, moment?_fillIn]
  split
  · rfl
  · rename_i ht
    cases h : calendar? fs with
    | none => rfl
    | some m => exact absurd (List.all_eq_true.mpr (takes_of_calendar? hc hn h)) ht

/-- What is written is no longer than the digits, and is the same where a year has four digits. -/
theorem written_of_calendar? (hc : ∀ f ∈ fs, f.field ∈ Field.ofCalendar) (hn : (fields fs).Nodup)
    (h : calendar? fs = some m) (hf : f ∈ fs) :
    (f.field.written m).length ≤ f.digits.length ∧
      (f.field.written m = f.digits ↔ f.field = .year → 1000 ≤ m.date.year) := by
  obtain ⟨hpart, _, _⟩ := part_of_calendar? h f.field (hc f hf)
  rw [value_of_mem hn hf] at hpart
  have hpos := Field.width?_pos f.isFull
  have hle := length_figures_number f.areDigits hpos
  have hw := f.isFull
  rw [Field.written, hpart, length_padded]
  by_cases hy : f.field = .year
  · rw [hy] at hw hpart
    have hfour : f.digits.length = 4 := (Option.some.inj hw).symm
    have hyear : m.date.year = number f.digits := hpart
    rw [if_pos hy, hyear, padded_one_eq_iff f.areDigits hfour]
    exact ⟨by omega, fun h _ => h, fun h => h hy⟩
  · rw [if_neg hy, hw, Option.getD_some, padded_number f.areDigits rfl hpos]
    exact ⟨by omega, fun _ h => absurd h hy, fun _ => rfl⟩

theorem length_text_le (hc : ∀ f ∈ fs, f.field ∈ Field.ofCalendar) (hn : (fields fs).Nodup) :
    (text fs).length ≤ 42 := by
  have hfields : (fields fs).length ≤ Field.ofCalendar.length := by
    refine (hn.subperm fun g hg => ?_).length_le
    obtain ⟨f, hf, rfl⟩ := List.mem_map.mp hg
    exact hc f hf
  have hsix : (text fs).length ≤ (fields fs).length * 6 := by
    clear hc hn hfields
    induction fs with
    | nil => exact Nat.le_refl 0
    | cons f fs ih =>
      have := Field.width?_le f.isFull
      simp only [text, fields, List.map_cons, List.flatten_cons, List.length_append,
        List.length_cons] at *
      omega
  have hseven : Field.ofCalendar.length = 7 := rfl
  omega

/-- The text is written back unless the year has fewer than four digits. -/
theorem write_eq_text_iff (hc : ∀ f ∈ fs, f.field ∈ Field.ofCalendar) (hn : (fields fs).Nodup)
    (h : calendar? fs = some m) : write (format fs) m = text fs ↔ 1000 ≤ m.date.year := by
  have hle : List.Forall₂ (fun xs ys => xs.length ≤ ys.length) (fs.map (·.field.written m))
      (fs.map (·.digits)) := by
    rw [List.forall₂_map_left_iff, List.forall₂_map_right_iff, List.forall₂_same]
    exact fun f hf => (written_of_calendar? hc hn h hf).1
  have hlength : (written fs m).length ≤ (text fs).length := length_flatten_le hle
  have hshort := length_text_le hc hn
  rw [write_format hc (by omega)]
  constructor
  · intro he
    have hwritten := List.map_inj_left.mp (eq_of_flatten_eq hle he)
    -- without a year in the format, it is 1900
    by_cases hy : .year ∈ fields fs
    · obtain ⟨f, hf, hfy⟩ := List.mem_map.mp hy
      exact (written_of_calendar? hc hn h hf).2.mp (hwritten f hf) hfy
    · obtain ⟨hpart, _, _⟩ := part_of_calendar? h .year (by decide)
      rw [value, value?_of_not_mem hy] at hpart
      exact (show m.date.year = 1900 from hpart) ▸ by decide
  · intro hy
    exact congrArg List.flatten (List.map_congr_left fun f hf =>
      (written_of_calendar? hc hn h hf).2.mpr fun _ => hy)

/-- The moment that a text of full numbers says in its format: the one that is read from them, if
it is written as the text. -/
def spelled? (fs : List FullField) : Option Moment :=
  (moment? fs).filter fun m => write (format fs) m = text fs

theorem spelled?_of_calendar (hc : ∀ f ∈ fs, f.field ∈ Field.ofCalendar)
    (hn : (fields fs).Nodup) :
    spelled? fs = (calendar? fs).filter fun m => 1000 ≤ m.date.year := by
  rw [spelled?, moment?_of_calendar hc hn]
  cases h : calendar? fs with
  | none => rfl
  | some m => simp only [Option.filter_some, write_eq_text_iff hc hn h]

end FullField
end Time
end Covenant
