import Covenant.Check.Temporal
import Covenant.Proofs.Check.Default
import Covenant.Proofs.Decimal.Natural
import Covenant.Proofs.Text
import Covenant.Proofs.Filter.Step
import Covenant.Proofs.Time.Calendar
import Covenant.Proofs.Value.Equality

/-! Texts of digits that are checked as a date or a time of day: as such where their format spells
them, and as the seconds since 1970 otherwise. -/

namespace Covenant

open Double (units unitsOfOne ofRank)
open Numeral (ofDigits)
open Time (FullField number)

namespace Moment

/-- No moment is so many seconds after 1970. -/
theorem ofMicros?_of_lt (h : 10 ^ 15 < n) (zone : Option Zone) :
    ofMicros? (epoch + (n * million : Nat)) zone = none := by
  have hepoch : epoch = 719163 * 86400000000 := by decide
  have hlast : Date.lastOrdinal = 3652059 := by decide
  have hday : dayMicros = 86400000000 := by decide
  have hmillion : million = 1000000 := by decide
  rw [ofMicros?, Option.map_eq_none_iff, Date.ofOrdinal?, if_neg]
  rw [hepoch, hlast, hday, hmillion]
  omega

end Moment

namespace Check.Temporal

theorem roundMicros_zero : roundMicros 0 = 0 := by
  have hone := Double.unitsOfOne_pos
  have hzero : units 0 = 0 := Double.units_of_lt (by decide)
  unfold roundMicros
  simp only [Nat.zero_mul, Double.nearest_zero false hone, ofRank, Nat.zero_min, hzero,
    Nat.zero_mod, Nat.zero_div, Nat.mul_zero, if_pos hone]

/-- A natural number of seconds is that many seconds after the start of 1970. -/
theorem ofSeconds?_of_units (hr : rank < infinityRank) (hu : units rank = n * unitsOfOne) :
    ofSeconds? (ofRank false rank) =
      Moment.ofMicros? (Moment.epoch + (n * million : Nat)) (some .utc) := by
  have hdiv : units rank / unitsOfOne = n := by
    rw [hu, Nat.mul_div_cancel _ Double.unitsOfOne_pos]
  have hmod : units rank % unitsOfOne = 0 := by rw [hu, Nat.mul_mod_left]
  have hmin : min rank infinityRank = rank := Nat.min_eq_left hr.le
  simp only [ofRank, ofSeconds?, hmin, if_neg (Nat.not_le.mpr hr), hdiv, hmod, roundMicros_zero,
    Nat.pow_eq, Nat.add_zero, Bool.false_eq_true, if_false]
  split
  · rename_i h
    exact (Moment.ofMicros?_of_lt h _).symm
  · rfl

theorem ofSeconds?_of_large (h : 2 ^ 53 * unitsOfOne ≤ units (min rank infinityRank)) :
    ofSeconds? (ofRank false rank) = none := by
  have hdiv : 2 ^ 53 ≤ units (min rank infinityRank) / unitsOfOne :=
    (Nat.le_div_iff_mul_le Double.unitsOfOne_pos).mpr h
  have hlt : Nat.pow 10 15 < 2 ^ 53 := by decide
  simp only [ofRank, ofSeconds?, if_pos (hlt.trans_le hdiv), ite_self]

/-- Digits are read as the seconds since the start of 1970. -/
theorem ofTimestamp?_digits {s : String} (h : ∀ c ∈ s.toList, isAsciiDigit c)
    (hne : s.toList ≠ []) : ofTimestamp? (.text s) =
      Moment.ofMicros? (Moment.epoch + (number s.toList * million : Nat)) (some .utc) := by
  have htrim : trim s.toList = s.toList :=
    trim_of_no_blank fun c hc => not_isBlank_of_digit (h c hc)
  obtain ⟨ds, hds, he⟩ := Decimal.exists_map_digitChar h
  rw [he] at hne
  rw [ofTimestamp?, htrim, he, Time.number_map_digitChar hds,
    Numeral.read?_map_digitChar hds (by simpa using hne), Option.bind_some]
  rcases Nat.le_total (ofDigits ds) (2 ^ 53) with hle | hge
  · obtain ⟨rank, hr, hx, hu⟩ := Numeral.toDouble_ofWhole hds hle
    rw [hx]
    exact ofSeconds?_of_units hr hu
  · obtain ⟨rank, hx, hu⟩ := Numeral.toDouble_ofWhole_of_le hge
    rw [hx, ofSeconds?_of_large hu, Moment.ofMicros?_of_lt]
    exact Nat.lt_of_lt_of_le (by norm_num) hge

variable {fs : List FullField} {params : Params}

theorem isNumeric_text (hne : fs ≠ []) :
    (Value.text (String.ofList (FullField.text fs))).isNumeric = true := by
  have hdigits : ∀ c ∈ FullField.text fs, isAsciiDigit c :=
    fun c hc => FullField.isAsciiDigit_of_mem_text hc
  have htrim : trim (FullField.text fs) = FullField.text fs :=
    trim_of_no_blank fun c hc => not_isBlank_of_digit (hdigits c hc)
  obtain ⟨ds, hds, he⟩ := Decimal.exists_map_digitChar hdigits
  have hcs := FullField.text_ne_nil hne
  rw [he] at hcs
  rw [Value.isNumeric, String.toList_ofList, htrim, he,
    Numeral.read?_map_digitChar hds (by simpa using hcs)]
  rfl

theorem readText_text (fs : List FullField) :
    readText true (.text (String.ofList (FullField.format fs)))
        (String.ofList (FullField.text fs)) =
      if (FullField.fields fs).Nodup then .ok (FullField.spelled? fs)
      else .error (.crashed .repeatedField) := by
  show Time.read (String.ofList (FullField.format fs)).toList _ >>= _ = _
  rw [String.toList_ofList, String.toList_ofList, FullField.read_text, FullField.spelled?]
  split
  · cases FullField.moment? fs with
    | none => rfl
    | some m =>
      show Except.ok (if (true && _ != _) = true then none else some m) = _
      rw [Option.filter_some]
      by_cases h : Time.write (FullField.format fs) m = FullField.text fs
      · simp [h]
      · simp [h]
  · rfl

/-- A text of full numbers is read as the moment that they say in the format, in either mode, and as
a timestamp where they say none. -/
theorem readData_text (hne : fs ≠ []) (strict : Bool) :
    readData strict (.text (String.ofList (FullField.format fs)))
        (.text (String.ofList (FullField.text fs))) =
      if (FullField.fields fs).Nodup then
        .ok ((FullField.spelled? fs).or (Moment.ofMicros?
          (Moment.epoch + (number (FullField.text fs) * million : Nat)) (some .utc)))
      else .error (.crashed .repeatedField) := by
  have hstamp := ofTimestamp?_digits (s := String.ofList (FullField.text fs))
    (by simpa using fun c hc => FullField.isAsciiDigit_of_mem_text hc)
    (by simpa using FullField.text_ne_nil hne)
  rw [String.toList_ofList] at hstamp
  rw [← hstamp, readData, if_pos (isNumeric_text hne), readText_text]
  generalize ofTimestamp? _ = stamp
  split
  · cases FullField.spelled? fs with
    | none => rfl
    | some m => rfl
  · rfl

theorem formatOr_of_falsy (h : value.isTrue = false) (default : Value) :
    formatOr value default = default := by
  rw [formatOr, h]
  rfl

theorem formatOr_of_text (h : formatOr value given = .text s) (hs : s ≠ "") (default : Value) :
    formatOr value (formatOr given default) = .text s := by
  have htrue : (Value.text s).isTrue = true := by simpa [Value.isTrue] using hs
  unfold formatOr at *
  split at h
  · rename_i hv
    rw [if_pos hv, h]
  · rename_i hv
    rw [if_neg hv, h, if_pos htrue]

theorem finish_text (cs : List Char) (m : Moment) :
    finish (.text (String.ofList cs)) m =
      .ok ⟨.text (String.ofList (Time.write cs m)), components m⟩ := by
  show Except.ok (⟨.text (String.ofList (Time.write (String.ofList cs).toList m)), _⟩ : Result) = _
  rw [String.toList_ofList]

/-- A text of full numbers is let through as it is when its format spells it, and any other one as
the timestamp that it also is. -/
theorem check_text (t : Temporal) (hne : fs ≠ [])
    (hin : formatOr (params.get "inFormat") (params.get "format") =
      .text (String.ofList (FullField.format fs)))
    (hout : formatOr (params.get "outFormat") (params.get "format") =
      .text (String.ofList (FullField.format fs)))
    (hmin : (params.get "min").isAbsent) (hmax : (params.get "max").isAbsent) (mode : Mode) :
    t.check mode params (.text (String.ofList (FullField.text fs))) =
      if (FullField.fields fs).Nodup then
        match (FullField.spelled? fs).or (Moment.ofMicros?
          (Moment.epoch + (number (FullField.text fs) * million : Nat)) (some .utc)) with
        | some m => .ok ⟨.text (String.ofList (Time.write (FullField.format fs) m)), components m⟩
        | none => refuse ("Data is not a valid " ++ t.label ++ ", or bad input format.")
      else .error (.failed (.crashed .repeatedField)) := by
  have hformat : String.ofList (FullField.format fs) ≠ "" := by
    obtain ⟨f, fs, rfl⟩ := List.exists_cons_of_ne_nil hne
    simp [FullField.format]
  have hread := readData_text hne mode.strict
  generalize Moment.ofMicros? _ _ = stamp at hread ⊢
  simp only [check, formatOr_of_text hin hformat, formatOr_of_text hout hformat, bound, hmin, hmax,
    if_true, pure, Except.pure, lift_ok, bind, Except.bind, hread]
  by_cases hn : (FullField.fields fs).Nodup
  · rw [if_pos hn, if_pos hn, lift_ok]
    cases (FullField.spelled? fs).or stamp with
    | none => rfl
    | some m => exact finish_text _ m
  · rw [if_neg hn, if_neg hn, lift_error]

end Check.Temporal

namespace Kind

variable {fs : List FullField} {params : Params} {t : Check.Temporal} {kind : Kind}
  {inner : Check.Delegate}

/-- The dates and times of day that a kind checks. -/
def temporal? : Kind → Option Check.Temporal
  | date => some .date
  | time => some .time
  | datetime => some .datetime
  | _ => none

theorem temporal?_cases (h : kind.temporal? = some t) :
    kind = date ∧ t = .date ∨ kind = time ∧ t = .time ∨ kind = datetime ∧ t = .datetime := by
  unfold temporal? at h
  split at h
  · cases h
    exact .inl ⟨rfl, rfl⟩
  · cases h
    exact .inr (.inl ⟨rfl, rfl⟩)
  · cases h
    exact .inr (.inr ⟨rfl, rfl⟩)
  · cases h

theorem check_temporal (h : kind.temporal? = some t) (mode : Mode) (params : Params)
    (data : Value) : kind.check inner mode params data = t.check mode params data := by
  rcases temporal?_cases h with ⟨rfl, rfl⟩ | ⟨rfl, rfl⟩ | ⟨rfl, rfl⟩
  · rfl
  · rfl
  · rfl

/-- In a format of nothing but directives for numbers, a text of full numbers is let through as it
is, in either mode, when it is what its moment is written as. Any other one is read as a timestamp.
For the directives of the calendar, it is the date and time of day with these numbers that has to
be, and the year must not start with a zero. -/
theorem validate_digits (hk : kind.temporal? = some t) (hne : fs ≠ [])
    (hin : Check.Temporal.formatOr (params.get "inFormat") (params.get "format") =
      .text (String.ofList (FullField.format fs)))
    (hout : Check.Temporal.formatOr (params.get "outFormat") (params.get "format") =
      .text (String.ofList (FullField.format fs)))
    (hmin : (params.get "min").isAbsent) (hmax : (params.get "max").isAbsent)
    (hd : params.get "default" = .null) (mode : Mode) :
    kind.validate inner mode params (.text (String.ofList (FullField.text fs))) =
      (if (FullField.fields fs).Nodup then
        match FullField.spelled? fs with
        | some m =>
          .ok ⟨.text (String.ofList (FullField.text fs)), Check.Temporal.components m⟩
        | none =>
          match Moment.ofMicros? (Moment.epoch + (number (FullField.text fs) * million : Nat))
            (some .utc) with
          | some m => .ok ⟨.text (String.ofList (Time.write (FullField.format fs) m)),
            Check.Temporal.components m⟩
          | none =>
            .error (.rejected ("Data is not a valid " ++ t.label ++ ", or bad input format."))
      else .error (.crashed .repeatedField)) ∧
    ((∀ f ∈ fs, f.field ∈ Time.Field.ofCalendar) → (FullField.fields fs).Nodup →
      FullField.spelled? fs =
        (FullField.calendar? fs).filter fun m => 1000 ≤ m.date.year) := by
  refine ⟨?_, FullField.spelled?_of_calendar⟩
  rw [validate_without_default hd, check_temporal hk,
    Check.Temporal.check_text t hne hin hout hmin hmax mode]
  generalize Moment.ofMicros? _ _ = stamp
  by_cases hn : (FullField.fields fs).Nodup
  · rw [if_pos hn, if_pos hn]
    cases h : FullField.spelled? fs with
    | some m =>
      have hwrite : Time.write (FullField.format fs) m = FullField.text fs := by
        simpa using (Option.filter_eq_some_iff.mp h).2
      rw [Option.some_or, ← hwrite]
      rfl
    | none =>
      rw [Option.none_or]
      cases stamp with
      | none => rfl
      | some m => rfl
  · rw [if_neg hn, if_neg hn]
    rfl

/-- The 18th of February 2026. -/
def eighteenth : List FullField :=
  [⟨'Y', .year, ['2', '0', '2', '6'], rfl, rfl, by simp [isAsciiDigit]⟩,
    ⟨'m', .month, ['0', '2'], rfl, rfl, by simp [isAsciiDigit]⟩,
    ⟨'d', .day, ['1', '8'], rfl, rfl, by simp [isAsciiDigit]⟩]

/-- The 30th of February 2026, which does not exist. -/
def thirtieth : List FullField :=
  [⟨'Y', .year, ['2', '0', '2', '6'], rfl, rfl, by simp [isAsciiDigit]⟩,
    ⟨'m', .month, ['0', '2'], rfl, rfl, by simp [isAsciiDigit]⟩,
    ⟨'d', .day, ['3', '0'], rfl, rfl, by simp [isAsciiDigit]⟩]

theorem validate_eighteenth :
    date.validate Check.noParts ⟨false, true⟩ [("format", .text "%Y%m%d")] (.text "20260218") =
      .ok ⟨.text "20260218", Check.Temporal.components ⟨⟨2026, 2, 18⟩, 0, 0, 0, 0, none⟩⟩ := by
  have hc : ∀ f ∈ eighteenth, f.field ∈ Time.Field.ofCalendar := by decide
  have hn : (FullField.fields eighteenth).Nodup := by decide
  have hs : ((FullField.calendar? eighteenth).filter fun m => 1000 ≤ m.date.year) =
      some ⟨⟨2026, 2, 18⟩, 0, 0, 0, 0, none⟩ := by decide
  obtain ⟨h, hspelled⟩ := @validate_digits eighteenth [("format", .text "%Y%m%d")] .date date
    Check.noParts rfl (by decide) rfl rfl rfl rfl rfl ⟨false, true⟩
  rw [if_pos hn, hspelled hc hn, hs] at h
  exact h

/-- The 30th of February is read as a timestamp where it is all digits: it is neither refused
strictly nor carried over to March loosely, as it is between separators. -/
theorem validate_thirtieth :
    (date.validate Check.noParts ⟨true, false⟩ [("format", .text "%Y%m%d")]
        (.text "20260230")).map (·.value) = .ok (.text "19700823") ∧
      (date.validate Check.noParts ⟨false, false⟩ [("format", .text "%Y%m%d")]
        (.text "20260230")).map (·.value) = .ok (.text "19700823") ∧
      (date.validate Check.noParts ⟨false, false⟩ [] (.text "2026-02-30")).map (·.value) =
        .ok (.text "2026-03-02") := by
  have hs : FullField.spelled? thirtieth = none := by
    rw [FullField.spelled?_of_calendar (by decide) (by decide)]
    decide
  have hnumber : number (FullField.text thirtieth) = 20260230 := by decide
  have hm : Moment.ofMicros? (Moment.epoch + (20260230 * million : Nat)) (some .utc) =
      some ⟨⟨1970, 8, 23⟩, 11, 50, 30, 0, some .utc⟩ := by rfl
  have h (mode : Mode) : (date.validate Check.noParts mode [("format", .text "%Y%m%d")]
      (.text "20260230")).map (·.value) = .ok (.text "19700823") := by
    have hc := @Check.Temporal.check_text thirtieth [("format", .text "%Y%m%d")] .date (by decide)
      rfl rfl rfl rfl mode
    rw [if_pos (by decide), hs, hnumber, hm] at hc
    rw [validate_without_default rfl, check_temporal rfl]
    exact congrArg (fun x => (Check.settle x).map Result.value) hc
  exact ⟨h _, h _, by rfl⟩

end Kind
end Covenant
