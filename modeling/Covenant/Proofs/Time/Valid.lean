import Covenant.Proofs.Time.Succession
import Covenant.Time.Overflow
import Covenant.Time.Reader

/-! Every moment that is read is a day of the calendar and a time of day, and without an offset in
the format it is one of UTC. -/

namespace Covenant

namespace Date

variable {d d' : Date} {year month day : Nat}

/-- A day in the years of the calendar. -/
structure InCalendar (d : Date) : Prop extends d.IsValid where
  one_le_year : 1 ≤ d.year
  year_le : d.year ≤ lastYear

theorem ofParts?_inCalendar (h : ofParts? year month day = some d) : d.InCalendar := by
  rw [ofParts?, Option.ite_none_right_eq_some, Option.some.injEq] at h
  obtain ⟨⟨hy, hy', hm, hm', hday, hday'⟩, rfl⟩ := h
  exact ⟨⟨hm, hm', hday, hday'⟩, hy, hy'⟩

/-- Every number from 1 on is that of a day, which may come after the last year. -/
theorem exists_ordinal (h : 1 ≤ n) : ∃ d : Date, d.IsValid ∧ 1 ≤ d.year ∧ d.ordinal = n := by
  have hfirst : IsValid ⟨1, 1, 1⟩ := by constructor <;> decide
  have hone : ordinal ⟨1, 1, 1⟩ = 1 := rfl
  refine ⟨next^[n - 1] ⟨1, 1, 1⟩, isValid_iterate hfirst _, le_year_iterate ⟨1, 1, 1⟩ _, ?_⟩
  rw [ordinal_iterate hfirst (le_refl 1), hone, Nat.add_sub_cancel' h]

theorem ofOrdinal?_inCalendar (h : ofOrdinal? n = some d) : d.InCalendar := by
  have hn : 1 ≤ n := by
    rw [ofOrdinal?, Option.ite_none_right_eq_some] at h
    exact h.1.1
  obtain ⟨k, rfl⟩ := Int.eq_ofNat_of_zero_le (Int.le_of_lt hn)
  obtain ⟨d', hd', hy, rfl⟩ := exists_ordinal (Int.ofNat_le.mp hn)
  by_cases hle : d'.year ≤ lastYear
  · rw [ofOrdinal?_ordinal hd' hy hle, Option.some.injEq] at h
    exact h ▸ ⟨hd', hy, hle⟩
  · rw [ofOrdinal?_of_late hd' (Nat.lt_of_not_le hle)] at h
    cases h

theorem InCalendar.ordinal_injective (h : d.InCalendar) (h' : d'.InCalendar)
    (he : d.ordinal = d'.ordinal) : d = d' := by
  have hd := ofOrdinal?_ordinal h.toIsValid h.one_le_year h.year_le
  rw [he, ofOrdinal?_ordinal h'.toIsValid h'.one_le_year h'.year_le, Option.some.injEq] at hd
  exact hd.symm

end Date

namespace Moment

variable {m : Moment} {d : Date} {hour minute second micro : Nat} {zone : Option Zone}

/-- A day of the calendar and a time of day, on the clock of UTC. -/
structure IsUtc (m : Moment) : Prop where
  date : m.date.InCalendar
  hour_lt : m.hour < 24
  minute_lt : m.minute < 60
  second_lt : m.second < 60
  micro_lt : m.micro < million
  offset : m.zone.elim 0 (·.offset) = 0

theorem IsUtc.sinceEpoch_eq (h : m.IsUtc) : m.sinceEpoch = m.micros - epoch := by
  rw [sinceEpoch, h.offset, Int.sub_zero]

theorem ofClock?_isUtc (hd : d.InCalendar) (hz : zone.elim 0 (·.offset) = 0)
    (h : ofClock? d hour minute second micro zone = some m) : m.IsUtc := by
  rw [ofClock?, Option.ite_none_right_eq_some, Option.some.injEq] at h
  obtain ⟨⟨hhour, hminute, hsecond, hmicro⟩, rfl⟩ := h
  exact ⟨hd, hhour, hminute, hsecond, hmicro, hz⟩

theorem ofMicros?_isUtc (hz : zone.elim 0 (·.offset) = 0) (h : ofMicros? n zone = some m) :
    m.IsUtc := by
  obtain ⟨d, hd, rfl⟩ := Option.map_eq_some_iff.mp h
  have hday : dayMicros = million * 3600 * 24 := by decide
  have hrest : (n % dayMicros).toNat < million * 3600 * 24 := by
    have hlt : n % (dayMicros : Int) < dayMicros := Int.emod_lt_of_pos n (by decide)
    rw [← hday]
    exact (Int.toNat_lt_of_ne_zero (by decide)).mpr hlt
  constructor
  · exact Date.ofOrdinal?_inCalendar hd
  · dsimp only
    rw [Nat.div_div_eq_div_mul]
    exact Nat.div_lt_of_lt_mul hrest
  · exact Nat.mod_lt _ (by decide)
  · exact Nat.mod_lt _ (by decide)
  · exact Nat.mod_lt _ (by decide)
  · exact hz

end Moment

namespace Time

variable {r r' : Reading} {year : Nat}

theorem dayIn?_inCalendar (h : dayIn? year day = some d) : d.InCalendar := by
  rw [dayIn?, Option.ite_none_right_eq_some] at h
  exact Date.ofOrdinal?_inCalendar h.2

theorem Reading.dateIn?_inCalendar (h : r.dateIn? year = some d) : d.InCalendar := by
  rw [dateIn?] at h
  split at h
  · exact dayIn?_inCalendar h
  · exact dayIn?_inCalendar h
  · exact dayIn?_inCalendar h
  · exact Date.ofParts?_inCalendar h

theorem Reading.date?_inCalendar (h : r.date? = some d) : d.InCalendar := by
  rw [date?] at h
  split at h
  · cases h
  · split at h
    · exact dateIn?_inCalendar h
    · split at h
      · obtain ⟨_, _, h⟩ := Option.bind_eq_some_iff.mp h
        exact Date.ofParts?_inCalendar h
      · exact dateIn?_inCalendar h

theorem Reading.moment?_isUtc (ho : r.offset = none) (h : r.moment? = some m) : m.IsUtc := by
  obtain ⟨d, hd, h⟩ := Option.bind_eq_some_iff.mp h
  rw [zone?, ho] at h
  exact Moment.ofClock?_isUtc (date?_inCalendar hd) rfl h

theorem readField_offset (hf : f ≠ .offset) (h : readField half r f cs = some r') :
    r'.offset = r.offset := by
  cases f with
  | offset => exact absurd rfl hf
  | monthName | monthShort | weekdayName | weekdayShort =>
    obtain ⟨i, _, rfl⟩ := Option.map_eq_some_iff.mp h
    rfl
  | _ =>
    cases h
    rfl

theorem readFields_offset (hf : .offset ∉ found.map (·.1))
    (h : readFields half r found = some r') : r'.offset = r.offset := by
  induction found generalizing r with
  | nil =>
    cases h
    rfl
  | cons e found ih =>
    rw [List.map_cons, List.mem_cons, not_or] at hf
    obtain ⟨he, hf⟩ := hf
    obtain ⟨r₁, h₁, h⟩ := Option.bind_eq_some_iff.mp h
    rw [ih hf h, readField_offset (Ne.symm he) h₁]

/-- What is matched are the directives of the format in their order. -/
theorem matchParts_fieldsOf (h : matchParts parts cs = some (found, rest)) :
    found.map (·.1) = fieldsOf parts := by
  induction parts generalizing cs found with
  | nil =>
    cases h
    rfl
  | cons part parts ih =>
    cases part with
    | char a =>
      cases cs with
      | nil => cases h
      | cons c cs =>
        rw [matchParts, Option.ite_none_right_eq_some] at h
        exact ih h.2
    | blanks =>
      obtain ⟨_, _, h⟩ := List.exists_of_findSome?_eq_some h
      exact ih h
    | field f =>
      obtain ⟨_, _, h⟩ := List.exists_of_findSome?_eq_some h
      obtain ⟨⟨found', rest'⟩, hm, he⟩ := Option.map_eq_some_iff.mp h
      cases he
      exact congrArg (f :: ·) (ih hm)

/-- Without an offset in the format, a moment that is read is one of UTC. -/
theorem read_isUtc (hp : ∀ parts, parts? false format = some parts → .offset ∉ fieldsOf parts)
    (h : read format text = .ok (some m)) : m.IsUtc := by
  rw [read] at h
  split at h
  · cases h
  · rename_i parts hparts
    split at h
    · split at h
      · rename_i found hfound
        obtain ⟨r, hr, hm⟩ := Option.bind_eq_some_iff.mp (Except.ok.inj h)
        refine Reading.moment?_isUtc (readFields_offset ?_ hr) hm
        rw [matchParts_fieldsOf hfound]
        exact hp parts hparts
      · cases h
    · cases h

theorem Overflow.read?_isUtc (h : Overflow.read? format text = some m) : m.IsUtc := by
  obtain ⟨parts, _, h⟩ := Option.bind_eq_some_iff.mp h
  split at h
  · obtain ⟨found, _, h⟩ := Option.bind_eq_some_iff.mp h
    obtain ⟨first, _, h⟩ := Option.bind_eq_some_iff.mp h
    exact Moment.ofMicros?_isUtc rfl h
  · cases h

end Time
end Covenant
