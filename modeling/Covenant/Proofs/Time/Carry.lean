import Covenant.Proofs.Time.Calendar
import Covenant.Proofs.Time.Separated
import Covenant.Proofs.Time.Succession

/-! Numbers that are too large for their place are carried over to the next days, months and years.
-/

namespace Covenant

open Date (next previous lastYear)
open Decimal (digitChar exists_map_digitChar)

/-- The day and the clock after so many days and seconds. -/
theorem Moment.ofMicros?_days (days : Int) (seconds : Nat) (zone : Option Zone) :
    ofMicros? (days * dayMicros + seconds * million) zone =
      (Date.ofOrdinal? (days + (seconds / 86400 : Nat))).map fun date =>
        ⟨date, seconds % 86400 / 3600, seconds % 86400 / 60 % 60, seconds % 86400 % 60, 0,
          zone⟩ := by
  have hpos : (dayMicros : Int) ≠ 0 := by decide
  have hmicros : (seconds : Int) * million = (seconds * million : Nat) := (Nat.cast_mul _ _).symm
  have hdiv : (days * dayMicros + seconds * million) / (dayMicros : Int) =
      days + (seconds / 86400 : Nat) := by
    rw [Int.add_comm, Int.add_mul_ediv_right _ _ hpos, hmicros, ← Int.natCast_div, dayMicros,
      Nat.mul_div_mul_right _ _ (by decide), Int.add_comm]
  have hmod : ((days * dayMicros + seconds * million) % (dayMicros : Int)).toNat =
      seconds % 86400 * million := by
    rw [Int.add_comm, Int.add_mul_emod_self_right, hmicros, ← Int.natCast_mod, Int.toNat_natCast,
      dayMicros, Nat.mul_mod_mul_right]
  have hmillion : 0 < million := by decide
  rw [ofMicros?, hdiv, hmod]
  simp only [Nat.mul_div_cancel _ hmillion, Nat.mul_mod_left]

namespace Time

/-- The directives for a date and a time of day in whole seconds. -/
def Field.ofSeconds : List Field := [year, month, day, hour, minute, second]

/-- The numbers of a date and a time of day, however large. -/
structure Figures where
  year : Nat
  month : Nat
  day : Nat
  hour : Nat
  minute : Nat
  second : Nat

namespace Figures

variable {n : Figures} {first first' : Date} {m m' : Moment}

def seconds (n : Figures) : Nat := (n.hour * 60 + n.minute) * 60 + n.second

/-- The number of a directive. -/
def part (n : Figures) : Field → Nat
  | .year => n.year
  | .month => n.month
  | .day => n.day
  | .hour => n.hour
  | .minute => n.minute
  | .second => n.second
  | _ => 0

/-- The moment that has the numbers as its parts. -/
def spelled? (n : Figures) : Option Moment :=
  (Date.ofParts? n.year n.month n.day).bind fun date =>
    Moment.ofClock? date n.hour n.minute n.second 0 none

/-- The moment that the numbers are taken for when they may be too large. -/
def carried? (n : Figures) : Option Moment := do
  let first ← Overflow.firstOfMonth? n.year ((n.month : Int) - 1)
  Moment.ofMicros? (((first.ordinal : Int) + n.day - 1) * dayMicros + n.seconds * million) none

/-- What the numbers come to: the first day of the year is put off to the first day of its month,
and that day by the other numbers. Counts of days start at 1, so the day of the moment comes one day
before so many days after the first one. -/
structure CarriesTo (n : Figures) (first : Date) (m : Moment) : Prop where
  first_day : first.day = 1
  month_pos : 1 ≤ first.month
  month_le : first.month ≤ 12
  months : 12 * first.year + first.month = 12 * n.year + n.month
  isValid : m.date.IsValid
  days : m.date.next = next^[n.day + n.seconds / 86400] first
  clock : (m.hour * 60 + m.minute) * 60 + m.second = n.seconds % 86400
  minute_lt : m.minute < 60
  second_lt : m.second < 60
  micro : m.micro = 0
  zone : m.zone = none

theorem CarriesTo.first_valid (h : n.CarriesTo first m) : first.IsValid :=
  ⟨h.month_pos, h.month_le, h.first_day.ge,
    h.first_day.le.trans (Date.monthLength_pos h.month_pos h.month_le _)⟩

/-- Numbers come to one moment only. -/
theorem CarriesTo.unique (h : n.CarriesTo first m) (h' : n.CarriesTo first' m') :
    first = first' ∧ m = m' := by
  have hfirst : first = first' := by
    obtain ⟨year, month, day⟩ := first
    obtain ⟨year', month', day'⟩ := first'
    have hd := h.first_day
    have hd' := h'.first_day
    have hm := h.months.trans h'.months.symm
    have h1 := h.month_pos
    have h12 := h.month_le
    have h1' := h'.month_pos
    have h12' := h'.month_le
    dsimp only at *
    rw [Date.mk.injEq]
    omega
  subst hfirst
  refine ⟨rfl, ?_⟩
  have hdate : m.date = m'.date :=
    Date.next_injective h.isValid h'.isValid (h.days.trans h'.days.symm)
  obtain ⟨date, hour, minute, second, micro, zone⟩ := m
  obtain ⟨date', hour', minute', second', micro', zone'⟩ := m'
  have hc := h.clock.trans h'.clock.symm
  have hmin := h.minute_lt
  have hmin' := h'.minute_lt
  have hs := h.second_lt
  have hs' := h'.second_lt
  have hz := h.zone.trans h'.zone.symm
  have hmicro := h.micro.trans h'.micro.symm
  dsimp only at *
  rw [Moment.mk.injEq]
  refine ⟨hdate, ?_, ?_, ?_, hmicro, hz⟩
  · omega
  · omega
  · omega

/-- From the year 1 on, numbers come to a moment, which may lie in the year 0 or after the last
year. -/
theorem exists_carriesTo (hy : 1 ≤ n.year) : ∃ first m, n.CarriesTo first m := by
  let months := 12 * n.year + n.month - 1
  let first : Date := ⟨months / 12, months % 12 + 1, 1⟩
  let date := (next^[n.day + n.seconds / 86400] first).previous
  let clock := n.seconds % 86400
  have hfirst : first.IsValid := by
    have hm : 1 ≤ months % 12 + 1 := Nat.le_add_left 1 _
    have hm' : months % 12 + 1 ≤ 12 := Nat.mod_lt _ (by decide)
    exact ⟨hm, hm', le_refl 1, Date.monthLength_pos hm hm' _⟩
  have hlate : 1 ≤ first.year ∨ 2 ≤ first.month := by
    show 1 ≤ months / 12 ∨ 2 ≤ months % 12 + 1
    omega
  have hvalid := Date.isValid_iterate hfirst (n.day + n.seconds / 86400)
  refine ⟨first, ⟨date, clock / 3600, clock / 60 % 60, clock % 60, 0, none⟩, ?_⟩
  constructor
  · rfl
  · exact hfirst.month_pos
  · exact hfirst.month_le
  · show 12 * (months / 12) + (months % 12 + 1) = _
    omega
  · exact Date.isValid_previous hvalid
  · exact Date.next_previous hvalid (Date.late_iterate hlate _)
  · show (clock / 3600 * 60 + clock / 60 % 60) * 60 + clock % 60 = clock
    omega
  · exact Nat.mod_lt _ (by decide)
  · exact Nat.mod_lt _ (by decide)
  · rfl
  · rfl

theorem firstOfMonth?_eq (h : n.CarriesTo first m) (hy : 1 ≤ n.year) :
    Overflow.firstOfMonth? n.year ((n.month : Int) - 1) =
      if 1 ≤ first.year ∧ first.year ≤ lastYear then some first else none := by
  have hm := h.month_pos
  have hm' := h.month_le
  have hmonths := h.months
  have hyear : (((n.year * 12 : Nat) + ((n.month : Int) - 1)) / 12).toNat = first.year := by omega
  have hmonth : (((n.year * 12 : Nat) + ((n.month : Int) - 1)) % 12).toNat + 1 = first.month := by
    omega
  have hlength := Date.monthLength_pos hm hm' first.year
  have hone : (⟨first.year, first.month, 1⟩ : Date) = first := by rw [← h.first_day]
  rw [Overflow.firstOfMonth?, if_pos hy, hyear, hmonth, Date.ofParts?, hone]
  by_cases hf : 1 ≤ first.year ∧ first.year ≤ lastYear
  · rw [if_pos hf, if_pos ⟨hf.1, hf.2, hm, hm', le_refl 1, hlength⟩]
  · rw [if_neg hf, if_neg fun hall => hf ⟨hall.1, hall.2.1⟩]

/-- The number of the day that the numbers come to; the last day of the year 0 has the number 0. -/
theorem CarriesTo.ordinal (h : n.CarriesTo first m) (hy : 1 ≤ first.year) :
    (first.ordinal : Int) + n.day - 1 + (n.seconds / 86400 : Nat) =
      if 1 ≤ m.date.year then (m.date.ordinal : Int) else 0 := by
  have hiterate := Date.ordinal_iterate h.first_valid hy (n.day + n.seconds / 86400)
  rw [← h.days] at hiterate
  split
  · rename_i hm
    rw [Date.ordinal_next h.isValid hm] at hiterate
    omega
  · rename_i hm
    have hzero : m.date.year = 0 := by omega
    have hlt : m.date.year < m.date.next.year := by
      rw [h.days, hzero]
      exact hy.trans (Date.le_year_iterate first _)
    have hnext : m.date.next = ⟨1, 1, 1⟩ := by
      rw [Date.next_of_year_lt hlt, hzero]
    have hone : Date.ordinal ⟨1, 1, 1⟩ = 1 := rfl
    rw [hnext, hone] at hiterate
    omega

theorem CarriesTo.clock_eq (h : n.CarriesTo first m) (date : Date) :
    (⟨date, n.seconds % 86400 / 3600, n.seconds % 86400 / 60 % 60, n.seconds % 86400 % 60, 0,
      none⟩ : Moment) = { m with date } := by
  have hc := h.clock
  have hmin := h.minute_lt
  have hs := h.second_lt
  rw [Moment.mk.injEq]
  refine ⟨rfl, ?_, ?_, ?_, h.micro.symm, h.zone.symm⟩
  · omega
  · omega
  · omega

/-- Both the first day and the moment have to lie in the years of the calendar. -/
theorem carried?_eq (h : n.CarriesTo first m) (hy : 1 ≤ n.year) :
    n.carried? = if (1 ≤ first.year ∧ first.year ≤ lastYear) ∧
      1 ≤ m.date.year ∧ m.date.year ≤ lastYear then some m else none := by
  rw [carried?, firstOfMonth?_eq h hy]
  by_cases hf : 1 ≤ first.year ∧ first.year ≤ lastYear
  · rw [if_pos hf]
    show Moment.ofMicros? _ none = _
    rw [Moment.ofMicros?_days, h.ordinal hf.1]
    by_cases hm : 1 ≤ m.date.year
    · rw [if_pos hm]
      by_cases hlast : m.date.year ≤ lastYear
      · rw [if_pos ⟨hf, hm, hlast⟩, Date.ofOrdinal?_ordinal h.isValid hm hlast, Option.map_some,
          h.clock_eq]
      · rw [if_neg fun hall => hlast hall.2.2,
          Date.ofOrdinal?_of_late h.isValid (Nat.lt_of_not_le hlast)]
        rfl
    · rw [if_neg hm, if_neg fun hall => hm hall.2.1]
      rfl
  · rw [if_neg hf, if_neg fun hall => hf hall.1]
    rfl

theorem carried?_of_year_zero (h : n.year = 0) : n.carried? = none := by
  rw [carried?, h]
  rfl

/-- Numbers that are not too large come to the moment that they spell. -/
theorem carriesTo_of_spelled? (h : n.spelled? = some m) :
    n.CarriesTo ⟨n.year, n.month, 1⟩ m ∧ 1 ≤ n.year ∧ n.year ≤ lastYear ∧
      m.date.year = n.year := by
  obtain ⟨date, hd, h⟩ := Option.bind_eq_some_iff.mp h
  rw [Date.ofParts?, Option.ite_none_right_eq_some, Option.some.injEq] at hd
  rw [Moment.ofClock?, Option.ite_none_right_eq_some, Option.some.injEq] at h
  obtain ⟨⟨hy, hy', hm, hm', hday, hday'⟩, rfl⟩ := hd
  obtain ⟨⟨hhour, hminute, hsecond, _⟩, rfl⟩ := h
  have hseconds : n.seconds < 86400 := by
    rw [seconds]
    omega
  refine ⟨?_, hy, hy', rfl⟩
  constructor
  · rfl
  · exact hm
  · exact hm'
  · rfl
  · exact ⟨hm, hm', hday, hday'⟩
  · rw [Nat.div_eq_of_lt hseconds, Nat.add_zero]
    obtain ⟨k, hk⟩ := Nat.exists_eq_add_of_le' hday
    rw [hk, Function.iterate_succ_apply', Date.iterate_within (by omega), Nat.add_comm 1 k]
  · exact (Nat.mod_eq_of_lt hseconds).symm
  · exact hminute
  · exact hsecond
  · rfl
  · rfl

theorem carried?_of_spelled? (h : n.spelled? = some m) : n.carried? = some m := by
  obtain ⟨hc, hy, hy', hm⟩ := carriesTo_of_spelled? h
  rw [carried?_eq hc hy, if_pos ⟨⟨hy, hy'⟩, hm ▸ hy, hm ▸ hy'⟩]

/-- Numbers that spell a moment are in their ranges. -/
theorem part_of_spelled? (h : n.spelled? = some m) : ∀ f ∈ Field.ofSeconds,
    f.range.1 ≤ n.part f ∧ n.part f ≤ f.range.2 := by
  obtain ⟨date, hd, h⟩ := Option.bind_eq_some_iff.mp h
  rw [Date.ofParts?, Option.ite_none_right_eq_some] at hd
  rw [Moment.ofClock?, Option.ite_none_right_eq_some] at h
  obtain ⟨⟨hy, hy', hm, hm', hday, hday'⟩, _⟩ := hd
  obtain ⟨⟨hhour, hminute, hsecond, _⟩, _⟩ := h
  have hmonth := Date.monthLength_le n.year n.month
  intro f hf
  simp only [Field.ofSeconds, List.mem_cons, List.not_mem_nil, or_false] at hf
  rcases hf with rfl | rfl | rfl | rfl | rfl | rfl
  · exact ⟨hy, hy'⟩
  · exact ⟨hm, hm'⟩
  · exact ⟨hday, hday'.trans hmonth⟩
  · exact ⟨Nat.zero_le _, Nat.le_of_lt_succ hhour⟩
  · exact ⟨Nat.zero_le _, Nat.le_of_lt_succ hminute⟩
  · exact ⟨Nat.zero_le _, Nat.le_of_lt_succ hsecond⟩

end Figures

namespace Field

theorem takes_one : ∀ f ∈ [month, day, hour, minute, second], ∀ a < 10,
    f.range.1 ≤ a → a ≤ f.range.2 → f.takes [digitChar a] = true := by
  decide

theorem takes_of_length_one {f : Field} (hf : f ∈ ofSeconds) (hy : f ≠ year)
    (hlength : cs.length = 1) (hd : ∀ c ∈ cs, isAsciiDigit c) (hl : f.range.1 ≤ number cs)
    (hg : number cs ≤ f.range.2) : f.takes cs = true := by
  obtain ⟨ds, hds, rfl⟩ := exists_map_digitChar hd
  rw [number_map_digitChar hds] at hl hg
  rw [List.length_map] at hlength
  obtain ⟨a, rfl⟩ := List.length_eq_one_iff.mp hlength
  rw [show Numeral.ofDigits [a] = a by simp [Numeral.ofDigits]] at hl hg
  have hfive : f ∈ [month, day, hour, minute, second] := (List.mem_cons.mp hf).resolve_left hy
  exact takes_one f hfive a (hds a (by simp)) hl hg

end Field

/-- A number has as many digits as it can have, or a single one. -/
theorem NumberField.length_digits (g : NumberField) (hg : g.field ∈ Field.ofSeconds) :
    g.field.width? = some g.digits.length ∨ g.field ≠ .year ∧ g.digits.length = 1 := by
  have hall : ∀ e ∈ overflowing, e.1 ∈ Field.ofSeconds → ∀ k ∈ e.2.widths,
      e.1.width? = some k ∨ e.1 ≠ .year ∧ k = 1 := by decide
  exact hall _ g.mem_overflowing hg _ g.hasWidth

/-- A reading of nothing but numbers of the calendar and the clock. -/
theorem Reading.moment?_of_parts {r : Reading} (hd : r.dayOfYear = none) (hw : r.weekday = none)
    (hy : r.isoYear = none) (hi : r.isoWeek = none) (ho : r.offset = none) :
    r.moment? = (Date.ofParts? (r.year.getD defaultYear) r.month r.day).bind fun date =>
      Moment.ofClock? date r.hour r.minute r.second r.micro none := by
  rw [moment?, date?_of_parts hd hw hy hi, zone?, ho]
  rfl

theorem overflow_moment?_eq {n : Figures} (hy : Overflow.valueOf found .year 1900 = n.year)
    (hmo : Overflow.valueOf found .month 1 = n.month) (hd : Overflow.valueOf found .day 1 = n.day)
    (hh : Overflow.valueOf found .hour 0 = n.hour)
    (hmi : Overflow.valueOf found .minute 0 = n.minute)
    (hs : Overflow.valueOf found .second 0 = n.second) (hf : Overflow.microsOf found = 0) :
    Overflow.moment? found = n.carried? := by
  rw [Overflow.moment?, hy, hmo, hd, hh, hmi, hs, hf]
  simp only [Nat.cast_zero, Int.add_zero]
  rfl

open Time.NumberField (entries overflowEntries fields units text format)

/-- A text of separated numbers, with what they say to either reader. -/
structure LaidOut (n : Figures) (f : NumberField) (rest : List (Char × NumberField)) : Prop where
  several : rest ≠ []
  separators : ∀ e ∈ rest, e.1 ∈ separators
  fields_sublist : (fields f rest).Sublist Field.ofSeconds
  units_nodup : (units f rest).Nodup
  part : ∀ g ∈ f :: rest.map (·.2), number g.digits = n.part g.field
  spelled : (readFields [] {} (entries f rest)).bind Reading.moment? = n.spelled?
  carried : Overflow.moment? (overflowEntries f rest) = n.carried?

namespace LaidOut

variable {n : Figures} {f : NumberField} {rest : List (Char × NumberField)}

theorem fields_nodup (h : LaidOut n f rest) : (fields f rest).Nodup :=
  h.fields_sublist.nodup (by decide)

/-- A text that is read exactly spells its moment. -/
theorem read_text (h : LaidOut n f rest) : read (format f rest) (text f rest) = .ok
    (if (f :: rest.map (·.2)).all fun g => g.field.takes g.digits then n.spelled? else none) := by
  rw [NumberField.read_text h.separators h.fields_nodup, NumberField.moment?, h.spelled]

theorem overflow_read?_text (h : LaidOut n f rest) :
    Overflow.read? (format f rest) (text f rest) = n.carried? :=
  (NumberField.overflow_read?_text h.separators h.units_nodup).trans h.carried

/-- In ASCII, a text that spells a moment is read exactly. -/
theorem read_text_of_spelled? (h : LaidOut n f rest) (ha : ∀ c ∈ text f rest, c.toNat < 128)
    (hm : n.spelled? = some m) : read (format f rest) (text f rest) = .ok (some m) := by
  have htakes : ∀ g ∈ f :: rest.map (·.2), g.field.takes g.digits := by
    intro g hg
    have hfield : g.field ∈ Field.ofSeconds := h.fields_sublist.subset (List.mem_map_of_mem hg)
    have hpart := h.part g hg
    obtain ⟨hl, hr⟩ := Figures.part_of_spelled? hm g.field hfield
    have hascii : ∀ c ∈ g.digits, isAsciiDigit c := by
      intro c hc
      rw [← isDecimal_of_ascii (ha c (NumberField.mem_text hg hc))]
      exact g.areDecimal c hc
    rcases g.length_digits hfield with hw | ⟨hy, hlength⟩
    · have hcalendar : g.field ∈ Field.ofCalendar := List.mem_append_left [Field.micro] hfield
      exact Field.takes_of_range hcalendar hw hascii (hpart ▸ hl) (hpart ▸ hr)
    · exact Field.takes_of_length_one hfield hy hlength hascii (hpart ▸ hl) (hpart ▸ hr)
  rw [h.read_text, if_pos (List.all_eq_true.mpr htakes), hm]

/-- What is read exactly is what it is read as when it may overflow. -/
theorem read_text_coincides (h : LaidOut n f rest) :
    read (format f rest) (text f rest) = .ok none ∨
      read (format f rest) (text f rest) = .ok (n.carried?) := by
  rw [h.read_text]
  split
  · cases hm : n.spelled? with
    | none => exact .inl rfl
    | some m => exact .inr (by rw [Figures.carried?_of_spelled? hm])
  · exact .inl rfl

end LaidOut
end Time
end Covenant
