import Covenant.Proofs.Check.Carry
import Covenant.Proofs.Time.Valid

/-! What dates and times of day are written as when no format is given, and what the text says. -/

namespace Covenant

namespace Time

theorem isNumeral_padded (hw : 0 < width) (hle : width ≤ most) (h : n < Nat.pow 10 most) :
    IsNumeral 1 most (padded width n) := by
  have hfigures := Decimal.length_figures_le (hw.trans_le hle) h
  have hlength := length_padded width n
  exact .of_ascii (by omega) (by omega) fun c hc => isAsciiDigit_of_mem_padded hc

theorem expand_separator (hs : s ∈ separators) (m : Moment) (cs : List Char) :
    expand m none (expandZone m (s :: cs)) = s :: expand m none (expandZone m cs) := by
  simp only [separators, List.mem_cons, List.not_mem_nil, or_false] at hs
  rcases hs with rfl | rfl | rfl
  · rfl
  · rfl
  · rfl

/-- The moment that has the numbers as its parts, whether they are in their ranges or not. -/
def Figures.moment (n : Figures) : Moment :=
  ⟨⟨n.year, n.month, n.day⟩, n.hour, n.minute, n.second, 0, none⟩

theorem Figures.spelled?_of_isUtc {n : Figures} (h : n.moment.IsUtc) :
    n.spelled? = some n.moment := by
  have hd := h.date
  rw [spelled?, Date.ofParts?, if_pos ⟨hd.one_le_year, hd.year_le, hd.month_pos, hd.month_le,
    hd.day_pos, hd.day_le⟩, Option.bind_some, Moment.ofClock?,
    if_pos ⟨h.hour_lt, h.minute_lt, h.second_lt, h.micro_lt⟩]
  rfl

end Time

/-- The year of a moment has at most four digits, and its other numbers have at most two. -/
theorem Moment.IsUtc.isNumeral {m : Moment} (h : m.IsUtc) :
    IsNumeral 1 4 (padded 1 m.date.year) ∧ IsNumeral 1 2 (padded 2 m.date.month) ∧
      IsNumeral 1 2 (padded 2 m.date.day) ∧ IsNumeral 1 2 (padded 2 m.hour) ∧
      IsNumeral 1 2 (padded 2 m.minute) ∧ IsNumeral 1 2 (padded 2 m.second) := by
  have htwo {n : Nat} (hn : n < 100) : IsNumeral 1 2 (padded 2 n) :=
    Time.isNumeral_padded (by decide) (le_refl 2) hn
  have hday := h.date.day_le.trans (Date.monthLength_le _ _)
  exact ⟨Time.isNumeral_padded (by decide) (by decide) (Nat.lt_succ_of_le h.date.year_le),
    htwo (h.date.month_le.trans_lt (by decide)), htwo (hday.trans_lt (by decide)),
    htwo (h.hour_lt.trans (by decide)), htwo (h.minute_lt.trans (by decide)),
    htwo (h.second_lt.trans (by decide))⟩

namespace Kind

open Time (Figures separators NumberField)

variable {kind : Kind} {t : Check.Temporal} {m : Moment}

/-- The numbers of a moment that its text has. A time of day is taken for one of the first day of
1900. -/
def figures (kind : Kind) (m : Moment) : Figures :=
  match kind with
  | date => ⟨m.date.year, m.date.month, m.date.day, 0, 0, 0⟩
  | time => ⟨1900, 1, 1, m.hour, m.minute, m.second⟩
  | _ => ⟨m.date.year, m.date.month, m.date.day, m.hour, m.minute, m.second⟩

/-- The moment that the text of a moment says. -/
def said (kind : Kind) (m : Moment) : Moment := (kind.figures m).moment

/-- The text of a moment: years are not padded. -/
def wording (kind : Kind) (m : Moment) : List Char :=
  match kind with
  | date => padded 1 m.date.year ++ '-' :: padded 2 m.date.month ++ '-' :: padded 2 m.date.day
  | time => padded 2 m.hour ++ ':' :: padded 2 m.minute ++ ':' :: padded 2 m.second
  | _ => padded 1 m.date.year ++ '-' :: padded 2 m.date.month ++ '-' :: padded 2 m.date.day
    ++ ' ' :: padded 2 m.hour ++ ':' :: padded 2 m.minute ++ ':' :: padded 2 m.second

theorem said_isUtc (kind : Kind) (h : m.IsUtc) : (kind.said m).IsUtc := by
  have hzero : 0 < million := by decide
  unfold said figures
  split
  · exact ⟨h.date, Nat.zero_lt_succ _, Nat.zero_lt_succ _, Nat.zero_lt_succ _, hzero, rfl⟩
  · have hd : Date.ofParts? 1900 1 1 = some ⟨1900, 1, 1⟩ := rfl
    exact ⟨Date.ofParts?_inCalendar hd, h.hour_lt, h.minute_lt, h.second_lt, hzero, rfl⟩
  · exact ⟨h.date, h.hour_lt, h.minute_lt, h.second_lt, hzero, rfl⟩

theorem said_said (kind : Kind) (m : Moment) : kind.said (kind.said m) = kind.said m := by
  cases kind <;> rfl

theorem wording_said (kind : Kind) (m : Moment) : kind.wording (kind.said m) = kind.wording m := by
  cases kind <;> rfl

theorem length_wording_lt (kind : Kind) (hm : m.IsUtc) : (kind.wording m).length < 256 := by
  obtain ⟨⟨_, hy, _⟩, ⟨_, hmo, _⟩, ⟨_, hd, _⟩, ⟨_, hh, _⟩, ⟨_, hmi, _⟩, _, hs, _⟩ := hm.isNumeral
  unfold wording
  split
  all_goals
    simp only [List.length_append, List.length_cons]
    omega

theorem write_eq_wording (hk : kind.temporal? = some t) (hm : m.IsUtc) :
    Time.write t.format.toList m = kind.wording m := by
  have hlength := length_wording_lt kind hm
  have hseparator := fun s hs => Time.expand_separator (s := s) hs m
  have hdash := hseparator '-' (by decide)
  have hcolon := hseparator ':' (by decide)
  have hblank := hseparator ' ' (by decide)
  have hdirective := fun d f h hf => Time.Field.expand_directive (d := d) (f := f) h hf m
  have hyear := hdirective 'Y' .year rfl (by decide)
  have hmonth := hdirective 'm' .month rfl (by decide)
  have hday := hdirective 'd' .day rfl (by decide)
  have hhour := hdirective 'H' .hour rfl (by decide)
  have hminute := hdirective 'M' .minute rfl (by decide)
  have hsecond := hdirective 'S' .second rfl (by decide)
  have hend : Time.expand m none (Time.expandZone m []) = [] := rfl
  rcases temporal?_cases hk with ⟨rfl, rfl⟩ | ⟨rfl, rfl⟩ | ⟨rfl, rfl⟩
  · refine Time.write_of_expand (by decide) ?_ hlength
    show Time.expand m none (Time.expandZone m ['%', 'Y', '-', '%', 'm', '-', '%', 'd']) = _
    rw [hyear, hdash, hmonth, hdash, hday, hend, List.append_nil]
    simp only [wording, List.append_assoc, List.cons_append]
    rfl
  · refine Time.write_of_expand (by decide) ?_ hlength
    show Time.expand m none (Time.expandZone m ['%', 'H', ':', '%', 'M', ':', '%', 'S']) = _
    rw [hhour, hcolon, hminute, hcolon, hsecond, hend, List.append_nil]
    simp only [wording, List.append_assoc, List.cons_append]
    rfl
  · refine Time.write_of_expand (by decide) ?_ hlength
    show Time.expand m none (Time.expandZone m ['%', 'Y', '-', '%', 'm', '-', '%', 'd', ' ', '%',
      'H', ':', '%', 'M', ':', '%', 'S']) = _
    rw [hyear, hdash, hmonth, hdash, hday, hblank, hhour, hcolon, hminute, hcolon, hsecond, hend,
      List.append_nil]
    simp only [wording, List.append_assoc, List.cons_append]
    rfl

/-- From the year 1000 on, a text is laid out as its format says. -/
theorem spells_wording (hk : kind.temporal? = some t) (hm : m.IsUtc)
    (hy : kind = time ∨ 1000 ≤ m.date.year) : kind.Spells (kind.figures m) (kind.wording m) := by
  obtain ⟨⟨_, hmost, hdigits⟩, hmo, hd, hh, hmi, hs⟩ := hm.isNumeral
  have hyear (hy : 1000 ≤ m.date.year) : IsNumeral 4 4 (padded 1 m.date.year) := by
    refine ⟨?_, hmost, hdigits⟩
    have hlt := Decimal.lt_length_figures (k := 3) hy
    rw [Time.length_padded]
    omega
  rcases temporal?_cases hk with ⟨rfl, _⟩ | ⟨rfl, _⟩ | ⟨rfl, _⟩
  · have hspells := Spells.date (hyear (hy.resolve_left (by decide))) hmo hd
    rwa [Time.number_padded, Time.number_padded, Time.number_padded] at hspells
  · have hspells := Spells.time hh hmi hs
    rwa [Time.number_padded, Time.number_padded, Time.number_padded] at hspells
  · have hspells := Spells.datetime (hyear (hy.resolve_left (by decide))) hmo hd hh hmi hs
    simp only [Time.number_padded] at hspells
    exact hspells

end Kind

namespace Check.Temporal

open Time (NumberField)

variable {kind : Kind} {t : Temporal} {m : Moment}

/-- The text of a moment from the year 1000 on is read as what it says. -/
theorem readData_wording (hk : kind.temporal? = some t) (hm : m.IsUtc)
    (hy : kind = .time ∨ 1000 ≤ m.date.year) :
    readData false (.text t.format) (.text (String.ofList (kind.wording m))) =
      .ok (some (kind.said m)) := by
  obtain ⟨t', f, rest, ht, h, hformat, htext⟩ := (Kind.spells_wording hk hm hy).laidOut
  obtain rfl : t = t' := Option.some.inj (hk.symm.trans ht)
  have hspelled := Time.Figures.spelled?_of_isUtc (Kind.said_isUtc kind hm)
  have hread := readText_laidOut h
  rw [← hformat, ← htext, String.ofList_toList, Time.Figures.carried?_of_spelled? hspelled] at hread
  rw [readData, htext, isNumeric_laidOut h, ← htext]
  exact hread

/-- The text of a date before the year 1000 is made of separated numbers all the same. -/
theorem exists_separated (hk : kind.temporal? = some t) (ht : kind ≠ .time) (hm : m.IsUtc) :
    ∃ f s g rest, s ∈ Time.separators ∧ (∀ e ∈ rest, e.1 ∈ Time.separators) ∧
      f.digits = padded 1 m.date.year ∧
      kind.wording m = NumberField.text f ((s, g) :: rest) := by
  obtain ⟨hyear, hmo, hd, hh, hmi, hs⟩ := hm.isNumeral
  rcases Kind.temporal?_cases hk with ⟨rfl, _⟩ | ⟨rfl, _⟩ | ⟨rfl, _⟩
  · refine ⟨hyear.field 'f' rfl rfl (by decide), '-', hmo.field 'm' rfl rfl (by decide),
      [('-', hd.field 'd' rfl rfl (by decide))], by decide, by simp [Time.separators], rfl, ?_⟩
    simp [Kind.wording, NumberField.text, NumberField.behind, IsNumeral.field]
  · exact absurd rfl ht
  · refine ⟨hyear.field 'f' rfl rfl (by decide), '-', hmo.field 'm' rfl rfl (by decide),
      [('-', hd.field 'd' rfl rfl (by decide)), (' ', hh.field 'H' rfl rfl (by decide)),
        (':', hmi.field 'M' rfl rfl (by decide)), (':', hs.field 'S' rfl rfl (by decide))],
      by decide, by simp [Time.separators], rfl, ?_⟩
    simp [Kind.wording, NumberField.text, NumberField.behind, IsNumeral.field]

/-- Both readers begin with the year. -/
theorem exists_parts (hk : kind.temporal? = some t) (ht : kind ≠ .time) :
    ∃ parts units, Time.parts? false t.format.toList = some (.field .year :: parts) ∧
      (Time.fieldsOf (.field .year :: parts)).Nodup ∧
      Time.Overflow.parts? t.format.toList = some (.field .year :: units) := by
  rcases Kind.temporal?_cases hk with ⟨_, rfl⟩ | ⟨he, _⟩ | ⟨_, rfl⟩
  · exact ⟨_, _, rfl, by decide, rfl⟩
  · exact absurd he ht
  · exact ⟨_, _, rfl, by decide, rfl⟩

/-- Fewer than four digits are not read as a year. -/
theorem readData_wording_of_early (hk : kind.temporal? = some t) (ht : kind ≠ .time)
    (hm : m.IsUtc) (hy : m.date.year < 1000) :
    readData false (.text t.format) (.text (String.ofList (kind.wording m))) = .ok none := by
  obtain ⟨f, s, g, rest, hs, hrest, hf, htext⟩ := exists_separated hk ht hm
  have hall : ∀ e ∈ (s, g) :: rest, e.1 ∈ Time.separators := List.forall_mem_cons.mpr ⟨hs, hrest⟩
  have hl : f.digits.length < 4 := by
    have hle := Decimal.length_figures_le (k := 3) (by decide) hy
    rw [hf, Time.length_padded]
    omega
  obtain ⟨parts, units, hparts, hn, hunits⟩ := exists_parts hk ht
  have hread : Time.read t.format.toList (NumberField.text f ((s, g) :: rest)) = .ok none :=
    Time.read_of_short_year hparts hn (NumberField.not_isDecimal_head? hall) hl
  have hoverflow : Time.Overflow.read? t.format.toList (NumberField.text f ((s, g) :: rest)) =
      none := by
    refine Time.overflow_read?_of_short_year hunits ?_
    rw [NumberField.spanDigits_text f hall]
    exact (List.length_filterMap_le _ _).trans_lt hl
  rw [htext, readData, isNumeric_separated hs hrest]
  show Time.read t.format.toList _ >>= _ = _
  rw [String.toList_ofList, hread]
  show Except.ok (Time.Overflow.read? _ (trim _)) = _
  rw [NumberField.trim_text, hoverflow]

end Check.Temporal
end Covenant
