import Covenant.Proofs.Check.Timestamp
import Covenant.Proofs.Time.Carry

/-! Loosely, dates and times of day whose numbers are too large are carried over. -/

namespace Covenant

open Time (Figures LaidOut NumberField number)

/-- A number with as many digits of any script as it can have. -/
structure IsNumeral (least most : Nat) (cs : List Char) : Prop where
  least_le : least ≤ cs.length
  le_most : cs.length ≤ most
  digits : ∀ c ∈ cs, isDecimal c

namespace Kind

/-- The texts in the format that a kind has when none is given, with the numbers they are made of. A
time of day is one of the first day of 1900. -/
inductive Spells : Kind → Figures → List Char → Prop where
  | date {y mo d} (hy : IsNumeral 4 4 y) (hmo : IsNumeral 1 2 mo) (hd : IsNumeral 1 2 d) :
    Spells date ⟨number y, number mo, number d, 0, 0, 0⟩ (y ++ '-' :: mo ++ '-' :: d)
  | time {h mi s} (hh : IsNumeral 1 2 h) (hmi : IsNumeral 1 2 mi) (hs : IsNumeral 1 2 s) :
    Spells time ⟨1900, 1, 1, number h, number mi, number s⟩ (h ++ ':' :: mi ++ ':' :: s)
  | datetime {y mo d h mi s} (hy : IsNumeral 4 4 y) (hmo : IsNumeral 1 2 mo)
      (hd : IsNumeral 1 2 d) (hh : IsNumeral 1 2 h) (hmi : IsNumeral 1 2 mi)
      (hs : IsNumeral 1 2 s) :
    Spells datetime ⟨number y, number mo, number d, number h, number mi, number s⟩
      (y ++ '-' :: mo ++ '-' :: d ++ ' ' :: h ++ ':' :: mi ++ ':' :: s)

end Kind

theorem IsNumeral.of_ascii (hl : least ≤ cs.length) (hm : cs.length ≤ most)
    (hd : ∀ c ∈ cs, isAsciiDigit c) : IsNumeral least most cs :=
  ⟨hl, hm, fun c hc => isDecimal_of_isAsciiDigit (hd c hc)⟩

/-- The directive for a number, whose texts have as many digits as it may. -/
def IsNumeral.field (h : IsNumeral least most cs) (letter : Char) {field : Time.Field}
    {unit : Time.Overflow.Unit} (hf : Time.Field.ofLetter? letter = some field)
    (hu : Time.Overflow.Unit.ofLetter? letter = some unit)
    (hw : ∀ k ≤ most, least ≤ k → k ∈ unit.widths) : NumberField :=
  ⟨letter, field, unit, cs, hf, hu, hw _ h.le_most h.least_le, h.digits⟩

namespace Kind

/-- The text and the format are made of the same directives. -/
theorem Spells.laidOut (h : Spells kind n cs) : ∃ t f rest, kind.temporal? = some t ∧
    LaidOut n f rest ∧ t.format.toList = NumberField.format f rest ∧
      cs = NumberField.text f rest := by
  cases h with
  | date hy hmo hd =>
    refine ⟨.date, hy.field 'Y' rfl rfl (by decide),
      [('-', hmo.field 'm' rfl rfl (by decide)), ('-', hd.field 'd' rfl rfl (by decide))],
      rfl, ?_, rfl, ?_⟩
    · constructor
      · exact List.cons_ne_nil _ _
      · simp [Time.separators]
      · show [Time.Field.year, .month, .day].Sublist _
        decide
      · show [Time.Overflow.Unit.year, .month, .day].Nodup
        decide
      · simp only [List.map_cons, List.map_nil, List.forall_mem_cons]
        exact ⟨rfl, rfl, rfl, by simp⟩
      · exact Time.Reading.moment?_of_parts rfl rfl rfl rfl rfl
      · exact Time.overflow_moment?_eq rfl rfl rfl rfl rfl rfl rfl
    · simp [NumberField.text, NumberField.behind, IsNumeral.field]
  | time hh hmi hs =>
    refine ⟨.time, hh.field 'H' rfl rfl (by decide),
      [(':', hmi.field 'M' rfl rfl (by decide)), (':', hs.field 'S' rfl rfl (by decide))],
      rfl, ?_, rfl, ?_⟩
    · constructor
      · exact List.cons_ne_nil _ _
      · simp [Time.separators]
      · show [Time.Field.hour, .minute, .second].Sublist _
        decide
      · show [Time.Overflow.Unit.hour, .minute, .second].Nodup
        decide
      · simp only [List.map_cons, List.map_nil, List.forall_mem_cons]
        exact ⟨rfl, rfl, rfl, by simp⟩
      · exact Time.Reading.moment?_of_parts rfl rfl rfl rfl rfl
      · exact Time.overflow_moment?_eq rfl rfl rfl rfl rfl rfl rfl
    · simp [NumberField.text, NumberField.behind, IsNumeral.field]
  | datetime hy hmo hd hh hmi hs =>
    refine ⟨.datetime, hy.field 'Y' rfl rfl (by decide),
      [('-', hmo.field 'm' rfl rfl (by decide)), ('-', hd.field 'd' rfl rfl (by decide)),
        (' ', hh.field 'H' rfl rfl (by decide)), (':', hmi.field 'M' rfl rfl (by decide)),
        (':', hs.field 'S' rfl rfl (by decide))],
      rfl, ?_, rfl, ?_⟩
    · constructor
      · exact List.cons_ne_nil _ _
      · simp [Time.separators]
      · exact List.Sublist.refl _
      · show [Time.Overflow.Unit.year, .month, .day, .hour, .minute, .second].Nodup
        decide
      · simp only [List.map_cons, List.map_nil, List.forall_mem_cons]
        exact ⟨rfl, rfl, rfl, rfl, rfl, rfl, by simp⟩
      · exact Time.Reading.moment?_of_parts rfl rfl rfl rfl rfl
      · exact Time.overflow_moment?_eq rfl rfl rfl rfl rfl rfl rfl
    · simp [NumberField.text, NumberField.behind, IsNumeral.field]

end Kind

namespace Check.Temporal

variable {n : Figures} {f : NumberField} {rest : List (Char × NumberField)} {params : Params}

/-- What comes of data without a default, when it is read as a moment or not at all. -/
def answer (t : Temporal) : Option Moment → Except Failure Result
  | some m => .ok ⟨.text (String.ofList (Time.write t.format.toList m)), components m⟩
  | none => .error (.rejected ("Data is not a valid " ++ t.label ++ ", or bad input format."))

theorem isNumeric_separated {g : NumberField} (hs : s ∈ Time.separators)
    (hrest : ∀ e ∈ rest, e.1 ∈ Time.separators) :
    (Value.text (String.ofList (NumberField.text f ((s, g) :: rest)))).isNumeric = false := by
  rw [Value.isNumeric, String.toList_ofList, NumberField.trim_text,
    NumberField.read?_text hs hrest]
  rfl

theorem isNumeric_laidOut (h : LaidOut n f rest) :
    (Value.text (String.ofList (NumberField.text f rest))).isNumeric = false := by
  obtain ⟨⟨s, g⟩, rest, rfl⟩ := List.exists_cons_of_ne_nil h.several
  obtain ⟨hs, hrest⟩ := List.forall_mem_cons.mp h.separators
  exact isNumeric_separated hs hrest

/-- The exact reading comes first, and carrying over makes no difference where there is one. -/
theorem readText_laidOut (h : LaidOut n f rest) :
    readText false (.text (String.ofList (NumberField.format f rest)))
      (String.ofList (NumberField.text f rest)) = .ok n.carried? := by
  show Time.read (String.ofList (NumberField.format f rest)).toList _ >>= _ = _
  rw [String.toList_ofList, String.toList_ofList]
  have hoverflow := h.overflow_read?_text
  rcases h.read_text_coincides with hr | hr
  · rw [hr]
    show Except.ok (Time.Overflow.read? _ (trim _)) = _
    rw [NumberField.trim_text, hoverflow]
  · rw [hr]
    cases hc : n.carried? with
    | none =>
      show Except.ok (Time.Overflow.read? _ (trim _)) = _
      rw [NumberField.trim_text, hoverflow, hc]
    | some m => rfl

theorem check_laidOut {t : Temporal} (h : LaidOut n f rest)
    (hformat : t.format.toList = NumberField.format f rest)
    (hf : (params.get "format").isTrue = false) (hin : (params.get "inFormat").isTrue = false)
    (hout : (params.get "outFormat").isTrue = false) (hmin : (params.get "min").isAbsent)
    (hmax : (params.get "max").isAbsent) (hm : mode.strict = false) :
    settle (t.check mode params (.text (String.ofList (NumberField.text f rest)))) =
      t.answer n.carried? := by
  have hread : readData false (.text t.format) (.text (String.ofList (NumberField.text f rest))) =
      .ok n.carried? := by
    rw [readData, isNumeric_laidOut h, ← readText_laidOut h, ← hformat, String.ofList_toList]
    rfl
  simp only [check, formatOr_of_falsy hf, formatOr_of_falsy hin, formatOr_of_falsy hout, bound,
    hmin, hmax, if_true, pure, Except.pure, lift_ok, bind, Except.bind, hm, hread]
  cases n.carried? with
  | none => rfl
  | some m => rfl

end Check.Temporal

namespace Kind

open Date (lastYear)

variable {kind : Kind} {n : Figures} {params : Params} {inner : Check.Delegate} {t : Check.Temporal}

/-- Loosely, a text in the format of its kind is read as the moment that its numbers come to, unless
the year is 0, or the first day or the moment is beyond the years of the calendar. A moment that the
numbers spell is the one that they come to, and the exact reader finds it in ASCII, and no other. -/
theorem validate_carried (hk : kind.temporal? = some t) (hs : kind.Spells n s.toList)
    (hf : (params.get "format").isTrue = false) (hin : (params.get "inFormat").isTrue = false)
    (hout : (params.get "outFormat").isTrue = false) (hmin : (params.get "min").isAbsent)
    (hmax : (params.get "max").isAbsent) (hd : params.get "default" = .null)
    (hm : mode.strict = false) :
    (n.year = 0 → kind.validate inner mode params (.text s) = t.answer none) ∧
    (1 ≤ n.year → ∃ first m, n.CarriesTo first m ∧
      (∀ first' m', n.CarriesTo first' m' → first' = first ∧ m' = m) ∧
      kind.validate inner mode params (.text s) = t.answer
        (if (1 ≤ first.year ∧ first.year ≤ lastYear) ∧ 1 ≤ m.date.year ∧ m.date.year ≤ lastYear
        then some m else none)) ∧
    (∀ m, n.spelled? = some m →
      kind.validate inner mode params (.text s) = t.answer (some m) ∧
      Time.Overflow.read? t.format.toList s.toList = some m ∧
      ((∀ c ∈ s.toList, c.toNat < 128) → Time.read t.format.toList s.toList = .ok (some m))) ∧
    ∀ m, Time.read t.format.toList s.toList = .ok (some m) → n.spelled? = some m := by
  obtain ⟨t', f, rest, ht, h, hformat, htext⟩ := hs.laidOut
  obtain rfl : t = t' := Option.some.inj (hk.symm.trans ht)
  have hvalidate : kind.validate inner mode params (.text s) = t.answer n.carried? := by
    rw [validate_without_default hd, check_temporal hk, ← String.ofList_toList (s := s), htext]
    exact Check.Temporal.check_laidOut h hformat hf hin hout hmin hmax hm
  rw [hvalidate, hformat, htext]
  refine ⟨?_, ?_, ?_, ?_⟩
  · intro hy
    rw [Figures.carried?_of_year_zero hy]
  · intro hy
    obtain ⟨first, m, hc⟩ := Figures.exists_carriesTo hy
    refine ⟨first, m, hc, fun first' m' h' => h'.unique hc, ?_⟩
    rw [Figures.carried?_eq hc hy]
  · intro m hspelled
    have hcarried := Figures.carried?_of_spelled? hspelled
    refine ⟨by rw [hcarried], h.overflow_read?_text.trans hcarried, fun ha => ?_⟩
    exact h.read_text_of_spelled? ha hspelled
  · intro m hread
    rw [h.read_text, Except.ok.injEq, Option.ite_none_right_eq_some] at hread
    exact hread.2

theorem validate_february :
    date.validate Check.noParts ⟨false, true⟩ [] (.text "2026-02-30") =
        .ok ⟨.text "2026-03-02", Check.Temporal.components ⟨⟨2026, 3, 2⟩, 0, 0, 0, 0, none⟩⟩ := by
  have hy : IsNumeral 4 4 ['2', '0', '2', '6'] :=
    .of_ascii (by decide) (by decide) (by simp [isAsciiDigit])
  have hmo : IsNumeral 1 2 ['0', '2'] := .of_ascii (by decide) (by decide) (by simp [isAsciiDigit])
  have hd : IsNumeral 1 2 ['3', '0'] := .of_ascii (by decide) (by decide) (by simp [isAsciiDigit])
  have hs : Spells date ⟨2026, 2, 30, 0, 0, 0⟩ "2026-02-30".toList := Spells.date hy hmo hd
  have hc : Figures.CarriesTo ⟨2026, 2, 30, 0, 0, 0⟩ ⟨2026, 2, 1⟩
      ⟨⟨2026, 3, 2⟩, 0, 0, 0, 0, none⟩ := by
    constructor
    · rfl
    · decide
    · decide
    · rfl
    · constructor <;> decide
    · decide +kernel
    · rfl
    · decide
    · decide
    · rfl
    · rfl
  have hcarried := @validate_carried date _ [] Check.noParts _ ⟨false, true⟩ _
    rfl hs rfl rfl rfl rfl rfl rfl rfl
  obtain ⟨first, m, _, hunique, hvalidate⟩ := hcarried.2.1 (by decide)
  obtain ⟨rfl, rfl⟩ := hunique _ _ hc
  rw [hvalidate, if_pos ⟨⟨by decide, by decide⟩, by decide, by decide⟩]
  rfl

end Kind
end Covenant
