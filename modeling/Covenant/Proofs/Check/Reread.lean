import Covenant.Proofs.Check.Span
import Covenant.Proofs.Check.Wording
import Covenant.Proofs.Filter.Step

/-! Dates and times of day that were let through are checked again. -/

namespace Covenant

open Check.Temporal (Span)
open Time (Figures)

namespace Kind

variable {kind : Kind} {t : Check.Temporal} {m x : Moment} {span : Span} {params : Params}
  {mode : Mode} {inner : Check.Delegate} {data : Value}

/-- The text of a moment says no later one, if a time of day is one of the first day of 1900. -/
theorem said_le (hk : kind.temporal? = some t) (hm : m.IsUtc)
    (hd : kind = time → m.date = ⟨1900, 1, 1⟩) :
    (kind.said m).sinceEpoch ≤ m.sinceEpoch := by
  rw [hm.sinceEpoch_eq, (said_isUtc _ hm).sinceEpoch_eq, Moment.micros, Moment.micros, million]
  rcases temporal?_cases hk with ⟨rfl, rfl⟩ | ⟨rfl, rfl⟩ | ⟨rfl, rfl⟩
  · show ((((m.date.ordinal * 24 + 0) * 60 + 0) * 60 + 0) * _ + 0 : Int) - _ ≤ _
    omega
  · have hdate : (time.said m).date = m.date := (hd rfl).symm
    rw [hdate]
    show ((((_ * 24 + m.hour) * 60 + m.minute) * 60 + m.second) * _ + 0 : Int) - _ ≤ _
    omega
  · show ((((m.date.ordinal * 24 + m.hour) * 60 + m.minute) * 60 + m.second) * _ + 0 : Int) - _ ≤ _
    omega

/-- Between a moment and what its text says, all moments are written in the same way. -/
theorem said_of_between (hk : kind.temporal? = some t) (hm : m.IsUtc) (hx : x.IsUtc)
    (hd : kind = time → m.date = ⟨1900, 1, 1⟩)
    (hl : (kind.said m).sinceEpoch ≤ x.sinceEpoch) (hg : x.sinceEpoch ≤ m.sinceEpoch) :
    kind.said x = kind.said m := by
  rw [hx.sinceEpoch_eq, (said_isUtc _ hm).sinceEpoch_eq, Moment.micros, Moment.micros,
    million] at hl
  rw [hx.sinceEpoch_eq, hm.sinceEpoch_eq, Moment.micros, Moment.micros, million] at hg
  have hmicro := hm.micro_lt
  have hmicro' := hx.micro_lt
  rw [million] at hmicro hmicro'
  obtain ⟨hday, hhour, hminute, hsecond, _, _⟩ := hm
  obtain ⟨hday', hhour', hminute', hsecond', _, _⟩ := hx
  rcases temporal?_cases hk with ⟨rfl, rfl⟩ | ⟨rfl, rfl⟩ | ⟨rfl, rfl⟩
  · change ((((m.date.ordinal * 24 + 0) * 60 + 0) * 60 + 0) * _ + 0 : Int) - _ ≤ _ at hl
    have ho : x.date.ordinal = m.date.ordinal := by omega
    show (⟨x.date, 0, 0, 0, 0, none⟩ : Moment) = ⟨m.date, 0, 0, 0, 0, none⟩
    rw [hday'.ordinal_injective hday ho]
  · have hdate : (time.said m).date = m.date := (hd rfl).symm
    rw [hdate] at hl
    change ((((_ * 24 + m.hour) * 60 + m.minute) * 60 + m.second) * _ + 0 : Int) - _ ≤ _ at hl
    have hh : x.hour = m.hour := by omega
    have hmi : x.minute = m.minute := by omega
    have hs : x.second = m.second := by omega
    show (⟨⟨1900, 1, 1⟩, x.hour, x.minute, x.second, 0, none⟩ : Moment) =
      ⟨⟨1900, 1, 1⟩, m.hour, m.minute, m.second, 0, none⟩
    rw [hh, hmi, hs]
  · change ((((m.date.ordinal * 24 + m.hour) * 60 + m.minute) * 60 + m.second) * _ + 0 : Int) - _ ≤
      _ at hl
    have ho : x.date.ordinal = m.date.ordinal := by omega
    have hh : x.hour = m.hour := by omega
    have hmi : x.minute = m.minute := by omega
    have hs : x.second = m.second := by omega
    show (⟨x.date, x.hour, x.minute, x.second, 0, none⟩ : Moment) =
      ⟨m.date, m.hour, m.minute, m.second, 0, none⟩
    rw [hday'.ordinal_injective hday ho, hh, hmi, hs]

/-- The bounds do not come between a moment and what its text says. -/
theorem said_clamp_said (hk : kind.temporal? = some t) (hp : t.Spans params span)
    (hm : m.IsUtc) (hh : span.Holds m)
    (hd : kind = time → m.date = ⟨1900, 1, 1⟩ ∨ span.Holds (kind.said m)) :
    kind.said (span.clamp (kind.said m)) = kind.said m := by
  by_cases hs : span.Holds (kind.said m)
  · rw [Span.clamp_of_holds hs, said_said]
  · have hdate : kind = time → m.date = ⟨1900, 1, 1⟩ := fun ht => (hd ht).resolve_right hs
    obtain ⟨hl, hg⟩ := Span.clamp_between hh (said_le hk hm hdate)
    exact said_of_between hk hm (hp.clamp_isUtc hk (said_isUtc kind hm)) hdate hl hg

/-- Times of day with the same text say the same, since it is read. -/
theorem wording_time_eq_iff (hm : m.IsUtc) (hx : x.IsUtc) :
    time.wording x = time.wording m ↔ time.said x = time.said m := by
  constructor
  · intro h
    have hread := @Check.Temporal.readData_wording time _ x rfl hx (.inl rfl)
    have hread' := @Check.Temporal.readData_wording time _ m rfl hm (.inl rfl)
    rw [h, hread'] at hread
    exact (Option.some.inj (Except.ok.inj hread)).symm
  · intro h
    rw [← wording_said time x, h, wording_said]

theorem answer_value (hk : kind.temporal? = some t) (hm : m.IsUtc)
    (h : t.answer (some m) = .ok r) : r.value = .text (String.ofList (kind.wording m)) := by
  obtain rfl := Except.ok.inj h
  rw [← write_eq_wording hk hm]

/-- Loosely, in the format of its kind and between bounds that are in order, any data that is let
through is given as the text of a moment between the bounds. The text of a day from the year 1000 on
is let through as it is, with or without a time of day. Before that year it has too few digits and
is refused. A time of day is read as one of the first day of 1900 and is moved between the bounds
again, so it stays as it is if and only if it keeps its clock: if the moment is of that day, or if
that day has the time of day between the bounds. -/
theorem validate_again (hk : kind.temporal? = some t) (hp : t.Spans params span)
    (hs : mode.strict = false) (h : kind.validate inner mode params data = .ok r) :
    ∃ m, m.IsUtc ∧ span.Holds m ∧ t.answer (some m) = .ok r ∧
      (kind ≠ time → 1000 ≤ m.date.year →
        ∃ r', kind.validate inner mode params r.value = .ok r' ∧ r'.value = r.value) ∧
      (kind ≠ time → m.date.year < 1000 →
        Check.settle (kind.check inner mode params r.value) = t.answer none) ∧
      (kind = time → kind.validate inner mode params r.value =
          t.answer (some (span.clamp (kind.said m))) ∧
        ((∃ r', kind.validate inner mode params r.value = .ok r' ∧ r'.value = r.value) ↔
          kind.said (span.clamp (kind.said m)) = kind.said m)) ∧
      (m.date = ⟨1900, 1, 1⟩ ∨ span.Holds (kind.said m) →
        kind.said (span.clamp (kind.said m)) = kind.said m) := by
  obtain ⟨d, hc⟩ := validate_eq_ok (by rintro rfl; cases hk) h
  rw [check_temporal hk] at hc
  obtain ⟨x, hread, ha⟩ := hp.check_eq_ok hs hc
  have hm := hp.clamp_isUtc hk (Check.Temporal.readData_isUtc hk hread)
  have hh := span.holds_clamp x
  generalize span.clamp x = m at ha hm hh
  have hvalue := answer_value hk hm ha
  have hx := hp.clamp_isUtc hk (said_isUtc kind hm)
  have hagain (hy : kind = time ∨ 1000 ≤ m.date.year) :
      kind.validate inner mode params r.value = t.answer (some (span.clamp (kind.said m))) := by
    refine validate_of_accepted (Check.settle_eq_ok.mp ?_)
    rw [check_temporal hk, hvalue]
    exact hp.check_of_read hs (Check.Temporal.readData_wording hk hm hy)
  refine ⟨m, hm, hh, ha, ?_, ?_, ?_, ?_⟩
  · intro ht hy
    refine ⟨_, hagain (.inr hy), ?_⟩
    have hsaid := said_clamp_said hk hp hm hh fun he => absurd he ht
    rw [answer_value hk hx rfl, hvalue, ← wording_said kind (span.clamp _), hsaid, wording_said]
  · intro ht hy
    rw [check_temporal hk, hvalue]
    exact hp.check_text_of_unread hs (Check.Temporal.readData_wording_of_early hk ht hm hy)
  · rintro rfl
    refine ⟨hagain (.inl rfl), ?_⟩
    rw [hagain (.inl rfl), ← wording_time_eq_iff hm hx]
    constructor
    · rintro ⟨r', hr, he⟩
      rw [answer_value hk hx hr, hvalue, Value.text.injEq, String.ofList_inj] at he
      exact he
    · intro he
      refine ⟨_, rfl, ?_⟩
      rw [answer_value hk hx rfl, hvalue, he]
  · exact fun hd => said_clamp_said hk hp hm hh fun _ => hd

/-- The days before March 2026, and the first one of it. -/
def untilMarch : Params := [("max", .text "2026-03-01")]

theorem spans_untilMarch : Check.Temporal.date.Spans untilMarch
    ⟨none, some ⟨⟨2026, 3, 1⟩, 0, 0, 0, 0, none⟩, nofun⟩ := by
  constructor
  · rfl
  · rfl
  · rfl
  · rfl
  · decide +kernel

theorem validate_untilMarch :
    ∃ r, date.validate Check.noParts ⟨false, false⟩ untilMarch (.text "2026-02-30") = .ok r ∧
      r.value = .text "2026-03-01" ∧
      ∃ r', date.validate Check.noParts ⟨false, false⟩ untilMarch (.text "2026-03-01") = .ok r' ∧
        r'.value = .text "2026-03-01" := by
  have hv : (date.validate Check.noParts ⟨false, false⟩ untilMarch (.text "2026-02-30")).map
      (·.value) = .ok (.text "2026-03-01") := by
    decide +kernel
  have hread : (Check.settle (date.check Check.noParts ⟨false, false⟩ untilMarch
      (.text "2026-03-01"))).isOk := by
    decide +kernel
  cases h : date.validate Check.noParts ⟨false, false⟩ untilMarch (.text "2026-02-30") with
  | error f =>
    rw [h] at hv
    cases hv
  | ok r =>
    rw [h] at hv
    have hr : r.value = .text "2026-03-01" := Except.ok.inj hv
    obtain ⟨m, _, _, _, hlate, hearly, _⟩ := validate_again rfl spans_untilMarch rfl h
    rw [hr] at hlate hearly
    refine ⟨r, rfl, hr, hlate (by decide) (Nat.not_lt.mp fun hy => ?_)⟩
    rw [hearly (by decide) hy] at hread
    cases hread

/-- A year before 1000 is written with too few digits to be read again, and a time of day of 1970
may be one that the bound moves on the day it is read for. -/
theorem validate_not_again :
    (Filter.initial.validate (.text "0999-01-01") (.text "date") (some false)).map (·.value) =
        .ok (.text "999-01-01") ∧
      Filter.initial.validate (.text "999-01-01") (.text "date") (some false) =
        .error (.rejected "Data is not a valid date, or bad input format.") ∧
      (Filter.initial.validate (.int 3600)
        (.map [(.text "type", .text "time"), (.text "min", .text "10:00:00")]) (some false)).map
          (·.value) = .ok (.text "01:00:00") ∧
      (Filter.initial.validate (.text "01:00:00")
        (.map [(.text "type", .text "time"), (.text "min", .text "10:00:00")]) (some false)).map
          (·.value) = .ok (.text "10:00:00") :=
  ⟨by decide +kernel, by decide +kernel, by decide +kernel, by decide +kernel⟩

end Kind
end Covenant
