import Covenant.Proofs.Time.FullWidth
import Covenant.Time.Overflow

/-! Texts of numbers with a separator between any two: both readers give every directive all digits
of its number, or the text is not read. -/

namespace Covenant

/-- A decimal digit is not taken for a sign that comes before the letters. -/
theorem Mask.lowerCode_of_isDecimal (h : isDecimal c) :
    (48 ≤ lowerCode c.toNat ∧ lowerCode c.toNat ≤ 57) ∨ 97 ≤ lowerCode c.toNat := by
  rw [lowerCode]
  split
  · rename_i hlt
    rw [isDecimal_of_ascii hlt, isAsciiDigit, Bool.and_eq_true, decide_eq_true_eq,
      decide_eq_true_eq] at h
    have hupper : isAsciiUpper c = false := by
      rw [isAsciiUpper, Bool.and_eq_false_iff, decide_eq_false_iff_not]
      omega
    rw [Char.ofNat_toNat, lowerAscii, hupper]
    exact .inl h
  · split
    · exact .inr (by decide)
    · rename_i hlt _
      cases hm : Unicode.lowerMap.get? c.toNat with
      | none => exact .inr (by rw [Option.getD_none]; omega)
      | some m => exact .inr (Unicode.le_of_lowerMap hm)

namespace Time

/-- The characters that stand between numbers. -/
def separators : List Char := ['-', ':', ' ']

theorem not_isDecimal_separator (hs : s ∈ separators) : ¬isDecimal s := by
  simp only [separators, List.mem_cons, List.not_mem_nil, or_false] at hs
  rcases hs with rfl | rfl | rfl
  · decide
  · decide
  · decide

theorem sameLetter_self (c : Char) : sameLetter c c = true := by
  rw [sameLetter, Mask.sameCode, beq_self_eq_true, Bool.true_or]

theorem sameLetter_of_isDecimal (hs : s ∈ ['-', ':']) (hc : isDecimal c) :
    sameLetter s c = false := by
  have hclass : Mask.caseClass s.toNat = [s.toNat] ∧ s.toNat < 97 ∧
      ¬(48 ≤ s.toNat ∧ s.toNat ≤ 57) := by
    simp only [List.mem_cons, List.not_mem_nil, or_false] at hs
    rcases hs with rfl | rfl
    · decide
    · decide
  obtain ⟨hclass, hlt, hno⟩ := hclass
  have hlower := Mask.lowerCode_of_isDecimal hc
  have hne : s.toNat ≠ c.toNat := by
    intro he
    rw [← Char.toNat_inj.mp he] at hc
    exact not_isDecimal_separator (List.mem_append_left [' '] hs) hc
  have hne' : Mask.lowerCode c.toNat ≠ s.toNat := by omega
  rw [sameLetter, Mask.sameCode, hclass, beq_false_of_ne hne]
  simpa using hne'

/-- Whether a slot is for digits only. -/
def Slot.isDigit : Slot → Bool
  | digit => true
  | among low high => '0' ≤ low && high ≤ '9'
  | exactly c => isAsciiDigit c
  | _ => false

theorem Slot.isDecimal_of_allows {slot : Slot} (h : slot.isDigit) (ha : slot.allows c) :
    isDecimal c := by
  cases slot with
  | digit => exact ha
  | among low high =>
    rw [isDigit, Bool.and_eq_true, decide_eq_true_eq, decide_eq_true_eq] at h
    rw [allows, Bool.and_eq_true, decide_eq_true_eq, decide_eq_true_eq] at ha
    apply isDecimal_of_isAsciiDigit
    rw [isAsciiDigit, Bool.and_eq_true, decide_eq_true_eq, decide_eq_true_eq]
    exact ⟨h.1.trans ha.1, ha.2.trans h.2⟩
  | exactly a =>
    obtain rfl : a = c := beq_iff_eq.mp ha
    exact isDecimal_of_isAsciiDigit h
  | letter => cases h
  | sign => cases h

theorem isDecimal_of_fills (h : slots.all Slot.isDigit) (hf : Fills slots cs) :
    ∀ c ∈ cs, isDecimal c := by
  induction hf with
  | nil => simp
  | cons ha _ ih =>
    rw [List.all_cons, Bool.and_eq_true] at h
    exact List.forall_mem_cons.mpr ⟨Slot.isDecimal_of_allows h.1 ha, ih h.2⟩

/-- The directives that may overflow, as both readers call them. -/
def overflowing : List (Field × Overflow.Unit) :=
  [(.year, .year), (.month, .month), (.day, .day), (.hour, .hour), (.minute, .minute),
    (.second, .second), (.micro, .micro)]

theorem mem_overflowing (hu : Overflow.Unit.ofLetter? d = some u)
    (hf : Field.ofLetter? d = some f) : (f, u) ∈ overflowing := by
  unfold Overflow.Unit.ofLetter? at hu
  split at hu <;> cases hu <;> cases hf <;> decide

/-- A directive that may overflow reads digits only, but for a blank in front of a day. -/
theorem shapes_of_overflowing : ∀ e ∈ overflowing, e.1.width?.isSome ∧
    ∀ slots ∈ e.1.shapes, slots.head? = some (.exactly ' ') ∨ slots.all Slot.isDigit := by
  decide

/-- A directive for a number, with digits for it that may be too few or make too large a number. -/
structure NumberField where
  letter : Char
  field : Field
  unit : Overflow.Unit
  digits : List Char
  isField : Field.ofLetter? letter = some field
  isUnit : Overflow.Unit.ofLetter? letter = some unit
  hasWidth : digits.length ∈ unit.widths
  areDecimal : ∀ c ∈ digits, isDecimal c

namespace NumberField

/-- The format with a directive and others, each behind its separator. -/
def format (f : NumberField) (rest : List (Char × NumberField)) : List Char :=
  '%' :: f.letter :: rest.flatMap fun (s, g) => [s, '%', g.letter]

/-- Digits, each behind its separator. -/
def behind (rest : List (Char × NumberField)) : List Char :=
  rest.flatMap fun (s, g) => s :: g.digits

/-- The text with digits and others, each behind its separator. -/
def text (f : NumberField) (rest : List (Char × NumberField)) : List Char :=
  f.digits ++ behind rest

variable {f g : NumberField} {rest : List (Char × NumberField)}

theorem mem_overflowing (f : NumberField) : (f.field, f.unit) ∈ overflowing :=
  Time.mem_overflowing f.isUnit f.isField

theorem exists_width (f : NumberField) : ∃ w, f.field.width? = some w :=
  Option.isSome_iff_exists.mp (shapes_of_overflowing _ f.mem_overflowing).1

theorem text_cons (f g : NumberField) (s : Char) (rest : List (Char × NumberField)) :
    text f ((s, g) :: rest) = f.digits ++ s :: text g rest := rfl

theorem format_cons (f g : NumberField) (s : Char) (rest : List (Char × NumberField)) :
    format f ((s, g) :: rest) = '%' :: f.letter :: s :: format g rest := rfl

theorem mem_text (hg : g ∈ f :: rest.map (·.2)) (hc : c ∈ g.digits) : c ∈ text f rest := by
  rw [text, List.mem_append]
  rcases List.mem_cons.mp hg with rfl | hg
  · exact .inl hc
  · obtain ⟨e, he, rfl⟩ := List.mem_map.mp hg
    exact .inr (List.mem_flatMap.mpr ⟨e, he, List.mem_cons_of_mem _ hc⟩)

theorem digits_eq_cons (f : NumberField) : ∃ c cs, f.digits = c :: cs ∧ isDecimal c := by
  have hpos : ∀ u : Overflow.Unit, 0 ∉ u.widths := by
    intro u
    cases u <;> decide
  have hne : f.digits ≠ [] := by
    intro he
    have hw := f.hasWidth
    rw [he] at hw
    exact hpos _ hw
  obtain ⟨c, cs, he⟩ := List.exists_cons_of_ne_nil hne
  exact ⟨c, cs, he, f.areDecimal c (by simp [he])⟩

/-- What the digits stand for, one by one. -/
def values (f : NumberField) : List Nat := f.digits.filterMap decimalDigit?

theorem values_eq_cons (f : NumberField) : ∃ d ds, f.values = d :: ds := by
  obtain ⟨c, cs, he, hc⟩ := f.digits_eq_cons
  obtain ⟨d, hd⟩ := Option.isSome_iff_exists.mp hc
  exact ⟨d, cs.filterMap decimalDigit?, by rw [values, he, List.filterMap_cons_some hd]⟩

theorem text_eq_cons (f : NumberField) (rest : List (Char × NumberField)) :
    ∃ c cs, text f rest = c :: cs ∧ isDecimal c := by
  obtain ⟨c, cs, he, hc⟩ := f.digits_eq_cons
  exact ⟨c, cs ++ behind rest, by rw [text, he]; rfl, hc⟩

theorem trimLeft_text (f : NumberField) (rest : List (Char × NumberField)) :
    trimLeft (text f rest) = text f rest := by
  obtain ⟨c, cs, he, hc⟩ := text_eq_cons f rest
  rw [he, trimLeft_cons_of_not_blank (not_isBlank_of_isDecimal hc)]

theorem trimRight_append (h : trimRight ys = ys) (hne : ys ≠ []) (xs : List Char) :
    trimRight (xs ++ ys) = xs ++ ys := by
  induction xs with
  | nil => exact h
  | cons x xs ih =>
    rw [List.cons_append, trimRight_cons, ih, if_neg]
    rintro ⟨_, he⟩
    exact hne (List.append_eq_nil_iff.mp he).2

/-- The ends of the text are digits, so nothing is trimmed off. -/
theorem trim_text (f : NumberField) (rest : List (Char × NumberField)) :
    trim (text f rest) = text f rest := by
  rw [trim, trimLeft_text]
  induction rest generalizing f with
  | nil =>
    have h : trim f.digits = f.digits :=
      trim_of_no_blank fun c hc => not_isBlank_of_isDecimal (f.areDecimal c hc)
    have hl := trimLeft_text f []
    rw [text, behind, List.flatMap_nil, List.append_nil] at hl ⊢
    rw [← hl, ← trim, h, hl]
  | cons e rest ih =>
    obtain ⟨s, g⟩ := e
    obtain ⟨c, cs, he, _⟩ := text_eq_cons g rest
    have hne : text g rest ≠ [] := by
      rw [he]
      exact List.cons_ne_nil _ _
    rw [text_cons, ← List.singleton_append, ← List.append_assoc]
    exact trimRight_append (ih g) hne _

/-- Behind the digits comes the end of the text, or a separator. -/
theorem not_isDecimal_head? (hs : ∀ e ∈ rest, e.1 ∈ separators) :
    ∀ c ∈ (behind rest).head?, ¬isDecimal c := by
  intro c hc
  cases rest with
  | nil => cases hc
  | cons e rest =>
    cases hc
    exact not_isDecimal_separator (hs e (by simp))

theorem spanDigits_text (f : NumberField) (hs : ∀ e ∈ rest, e.1 ∈ separators) :
    Numeral.spanDigits (text f rest) = (f.values, behind rest) :=
  Numeral.spanDigits_append f.areDecimal (not_isDecimal_head? hs)

/-- Two numbers are not one. -/
theorem read?_text (hs : s ∈ separators) (hrest : ∀ e ∈ rest, e.1 ∈ separators) :
    Numeral.read? (text f ((s, g) :: rest)) = none := by
  have hspan : Numeral.spanDigits (text f ((s, g) :: rest)) = (f.values, behind ((s, g) :: rest)) :=
    spanDigits_text f (List.forall_mem_cons.mpr ⟨hs, hrest⟩)
  obtain ⟨c, cs, he, hc⟩ := text_eq_cons f ((s, g) :: rest)
  have hsign : Numeral.spanSign (text f ((s, g) :: rest)) = (false, text f ((s, g) :: rest)) := by
    rw [he, Numeral.spanSign]
    · intro cs hcs
      rw [(List.cons.inj hcs).1] at hc
      exact absurd hc (by decide)
    · intro cs hcs
      rw [(List.cons.inj hcs).1] at hc
      exact absurd hc (by decide)
  obtain ⟨d, ds, hvalues⟩ := f.values_eq_cons
  rw [Numeral.read?, hsign]
  dsimp only
  rw [hspan, hvalues, behind, List.flatMap_cons]
  simp only [separators, List.mem_cons, List.not_mem_nil, or_false] at hs
  rcases hs with rfl | rfl | rfl
  · rfl
  · rfl
  · rfl

def separatorPart (s : Char) : Part := if isBlank s then .blanks else .char s

/-- The parts of the format. -/
def parts (f : NumberField) : List (Char × NumberField) → List Part
  | [] => [.field f.field]
  | (s, g) :: rest => .field f.field :: separatorPart s :: parts g rest

/-- What each directive reads. -/
def entries (f : NumberField) (rest : List (Char × NumberField)) : List (Field × List Char) :=
  (f :: rest.map (·.2)).map fun g => (g.field, g.digits)

def fields (f : NumberField) (rest : List (Char × NumberField)) : List Field :=
  (f :: rest.map (·.2)).map (·.field)

theorem parts?_format (hs : ∀ e ∈ rest, e.1 ∈ separators) (b : Bool) :
    parts? b (format f rest) = some (parts f rest) := by
  induction rest generalizing f b with
  | nil => exact Field.ofLetter?_parts f.isField b []
  | cons e rest ih =>
    obtain ⟨s, g⟩ := e
    obtain ⟨hse, hrest⟩ := List.forall_mem_cons.mp hs
    rw [format_cons, Field.ofLetter?_parts f.isField]
    have hsep : Time.parts? false (s :: format g rest) =
        some (separatorPart s :: parts g rest) := by
      simp only [separators, List.mem_cons, List.not_mem_nil, or_false] at hse
      rcases hse with rfl | rfl | rfl
      · show (Time.parts? false (format g rest)).map _ = _
        rw [ih hrest false]
        rfl
      · show (Time.parts? false (format g rest)).map _ = _
        rw [ih hrest false]
        rfl
      · show (Time.parts? true (format g rest)).map _ = _
        rw [ih hrest true]
        rfl
    rw [hsep]
    rfl

theorem fieldsOf_parts (f : NumberField) (rest : List (Char × NumberField)) :
    fieldsOf (parts f rest) = fields f rest := by
  induction rest generalizing f with
  | nil => rfl
  | cons e rest ih =>
    obtain ⟨s, g⟩ := e
    have hsep : fieldsOf (separatorPart s :: parts g rest) = fieldsOf (parts g rest) := by
      rw [separatorPart]
      split
      · rfl
      · rfl
    show f.field :: fieldsOf (separatorPart s :: parts g rest) = _
    rw [hsep, ih]
    rfl

/-- A separator does not match a digit. -/
theorem matchParts_separator_digit (hs : s ∈ separators) (hc : isDecimal c) (ps : List Part)
    (cs : List Char) : matchParts (separatorPart s :: ps) (c :: cs) = none := by
  have hchar (h : s ∈ ['-', ':']) : matchParts (.char s :: ps) (c :: cs) = none := by
    rw [matchParts, sameLetter_of_isDecimal h hc]
    rfl
  simp only [separators, List.mem_cons, List.not_mem_nil, or_false] at hs
  rcases hs with rfl | rfl | rfl
  · exact hchar (by simp)
  · exact hchar (by simp)
  · show (afterBlanks (c :: cs)).findSome? _ = none
    rw [afterBlanks, if_neg (not_isBlank_of_isDecimal hc)]
    rfl

theorem matchParts_separator (hs : s ∈ separators) (hc : isDecimal c) (ps : List Part)
    (cs : List Char) :
    matchParts (separatorPart s :: ps) (s :: c :: cs) = matchParts ps (c :: cs) := by
  have hchar : matchParts (.char s :: ps) (s :: c :: cs) = matchParts ps (c :: cs) := by
    rw [matchParts, sameLetter_self]
    rfl
  simp only [separators, List.mem_cons, List.not_mem_nil, or_false] at hs
  rcases hs with rfl | rfl | rfl
  · exact hchar
  · exact hchar
  · show (afterBlanks (' ' :: c :: cs)).findSome? _ = _
    rw [afterBlanks, if_pos (by decide), afterBlanks, if_neg (not_isBlank_of_isDecimal hc),
      List.nil_append, List.findSome?_cons]
    cases matchParts ps (c :: cs) <;> rfl

/-- A shape fits at the start of a text with digits and what follows them only on digits. -/
theorem left_of_fill (hs : slots ∈ f.field.shapes) (hmore : ∀ c ∈ more.head?, ¬isDecimal c)
    (h : fill? slots (f.digits ++ more) = some (taken, beyond)) :
    ∃ left, f.digits = taken ++ left ∧ beyond = left ++ more := by
  obtain ⟨hfills, he⟩ := fill?_eq_some.mp h
  have hdecimal : ∀ c ∈ taken, isDecimal c := by
    rcases (shapes_of_overflowing _ f.mem_overflowing).2 slots hs with hb | hd
    · -- a blank does not stand where the digits begin
      obtain ⟨c, cs, hcs, hc⟩ := f.digits_eq_cons
      obtain ⟨slots', rfl⟩ := List.head?_eq_some_iff.mp hb
      cases hfills with
      | cons ha _ =>
        rw [hcs, List.cons_append, List.cons_append, List.cons.injEq] at he
        rw [he.1, ← beq_iff_eq.mp ha] at hc
        exact absurd hc (by decide)
    · exact isDecimal_of_fills hd hfills
  rcases List.append_eq_append_iff.mp he with ⟨extra, rfl, hmore'⟩ | ⟨left, hleft, hbeyond⟩
  · cases extra with
    | nil => exact ⟨[], by simp, by simpa using hmore'.symm⟩
    | cons c extra =>
      rw [hmore'] at hmore
      exact absurd (hdecimal c (by simp)) (hmore c rfl)
  · exact ⟨left, hleft, hbeyond⟩

/-- A directive that takes its digits is given all of them first. -/
theorem head?_fill (ht : f.field.takes f.digits) (hmore : ∀ c ∈ more.head?, ¬isDecimal c) :
    (f.field.shapes.filterMap (fill? · (f.digits ++ more))).head? = some (f.digits, more) := by
  obtain ⟨slots, hs, hfills⟩ := Field.takes_iff.mp ht
  obtain ⟨w, hw⟩ := f.exists_width
  apply Field.head?_fill (Field.shapes_pairwise hw) hs hfills ?_ f.areDecimal
  intro slots hs taken beyond h
  obtain ⟨left, hleft, _⟩ := left_of_fill hs hmore h
  rw [hleft, List.length_append, (fill?_eq_some.mp h).1.length_eq]
  exact Nat.le_add_right _ _

theorem matchParts_field (ht : f.field.takes f.digits) (hmore : ∀ c ∈ more.head?, ¬isDecimal c)
    (h : matchParts ps more = some (found, last)) :
    matchParts (.field f.field :: ps) (f.digits ++ more) =
      some ((f.field, f.digits) :: found, last) := by
  obtain ⟨others, hothers⟩ := List.head?_eq_some_iff.mp (head?_fill ht hmore)
  rw [matchParts, hothers, List.findSome?_cons]
  simp only [h]
  rfl

/-- A directive may leave some of its digits to what follows. -/
theorem left_of_matchParts (hmore : ∀ c ∈ more.head?, ¬isDecimal c)
    (h : matchParts (.field f.field :: ps) (f.digits ++ more) = some (found, last)) :
    ∃ taken left found', f.digits = taken ++ left ∧ f.field.takes taken ∧
      matchParts ps (left ++ more) = some (found', last) := by
  rw [matchParts] at h
  obtain ⟨⟨taken, beyond⟩, hmem, h⟩ := List.exists_of_findSome?_eq_some h
  obtain ⟨⟨found', last'⟩, hm, he⟩ := Option.map_eq_some_iff.mp h
  cases he
  obtain ⟨slots, hs, hfill⟩ := List.mem_filterMap.mp hmem
  obtain ⟨left, hleft, rfl⟩ := left_of_fill hs hmore hfill
  have ht := Field.takes_iff.mpr ⟨slots, hs, (fill?_eq_some.mp hfill).1⟩
  exact ⟨taken, left, found', hleft, ht, hm⟩

/-- Each directive takes its digits when all of them can. -/
theorem matchParts_text (hs : ∀ e ∈ rest, e.1 ∈ separators)
    (ht : ∀ g ∈ f :: rest.map (·.2), g.field.takes g.digits) :
    matchParts (parts f rest) (text f rest) = some (entries f rest, []) := by
  have hmore := not_isDecimal_head? hs
  induction rest generalizing f with
  | nil => exact matchParts_field (ht f (by simp)) hmore rfl
  | cons e rest ih =>
    obtain ⟨s, g⟩ := e
    obtain ⟨hse, hrest⟩ := List.forall_mem_cons.mp hs
    obtain ⟨hf, ht⟩ := List.forall_mem_cons.mp ht
    obtain ⟨c, cs, hcs, hc⟩ := text_eq_cons g rest
    have hgo := matchParts_separator hse hc (parts g rest) cs
    rw [← hcs, ih hrest ht (not_isDecimal_head? hrest)] at hgo
    exact matchParts_field hf hmore hgo

/-- A match of the whole text gives each directive its own digits. -/
theorem takes_of_matchParts (hs : ∀ e ∈ rest, e.1 ∈ separators)
    (h : matchParts (parts f rest) (text f rest) = some (found, [])) :
    ∀ g ∈ f :: rest.map (·.2), g.field.takes g.digits := by
  have hmore := not_isDecimal_head? hs
  induction rest generalizing f found with
  | nil =>
    obtain ⟨taken, left, found', hleft, ht, hm⟩ := left_of_matchParts hmore h
    cases left with
    | nil =>
      rw [List.append_nil] at hleft
      rw [← hleft] at ht
      simpa using ht
    | cons c left => cases hm
  | cons e rest ih =>
    obtain ⟨s, g⟩ := e
    obtain ⟨hse, hrest⟩ := List.forall_mem_cons.mp hs
    obtain ⟨taken, left, found', hleft, ht, hm⟩ := left_of_matchParts hmore h
    cases left with
    | nil =>
      rw [List.append_nil] at hleft
      rw [← hleft] at ht
      obtain ⟨c, cs, hcs, hc⟩ := text_eq_cons g rest
      have hgo := matchParts_separator hse hc (parts g rest) cs
      rw [← hcs] at hgo
      exact List.forall_mem_cons.mpr
        ⟨ht, ih hrest (hgo.symm.trans hm) (not_isDecimal_head? hrest)⟩
    | cons c left =>
      -- a digit that is left over does not match the separator
      have hc : isDecimal c := f.areDecimal c (by simp [hleft])
      have hstop := matchParts_separator_digit hse hc (parts g rest)
        (left ++ behind ((s, g) :: rest))
      rw [List.cons_append, hstop] at hm
      cases hm

/-- The moment that the numbers say, if each is one that its directive takes. -/
def moment? (f : NumberField) (rest : List (Char × NumberField)) : Option Moment :=
  if (f :: rest.map (·.2)).all fun g => g.field.takes g.digits then
    (readFields [] {} (entries f rest)).bind Reading.moment?
  else none

/-- A text of separated numbers is read number by number. -/
theorem read_text (hs : ∀ e ∈ rest, e.1 ∈ separators) (hn : (fields f rest).Nodup) :
    read (format f rest) (text f rest) = .ok (moment? f rest) := by
  have hhalf : (entries f rest).find? (·.1 == Field.half) = none := by
    rw [List.find?_eq_none]
    intro entry he hhalf
    obtain ⟨g, _, rfl⟩ := List.mem_map.mp he
    obtain ⟨w, hw⟩ := g.exists_width
    rw [show g.field = Field.half from beq_iff_eq.mp hhalf] at hw
    cases hw
  rw [read, parts?_format hs]
  simp only [fieldsOf_parts, if_pos hn]
  by_cases ht : ∀ g ∈ f :: rest.map (·.2), g.field.takes g.digits
  · rw [matchParts_text hs ht, moment?, if_pos (List.all_eq_true.mpr ht)]
    simp only [hhalf]
    rfl
  · rw [moment?, if_neg fun ha => ht (List.all_eq_true.mp ha)]
    split
    · rename_i hm
      exact absurd (takes_of_matchParts hs hm) ht
    · rfl

/-- The parts of the format for the reader of numbers that may be too large. -/
def overflowParts (f : NumberField) : List (Char × NumberField) → List Overflow.Part
  | [] => [.field f.unit]
  | (s, g) :: rest => .field f.unit :: .char s :: overflowParts g rest

/-- The digits of each directive. -/
def overflowEntries (f : NumberField) (rest : List (Char × NumberField)) :
    List (Overflow.Unit × List Nat) :=
  (f :: rest.map (·.2)).map fun g => (g.unit, g.values)

def units (f : NumberField) (rest : List (Char × NumberField)) : List Overflow.Unit :=
  (f :: rest.map (·.2)).map (·.unit)

theorem overflow_parts?_unit (hu : Overflow.Unit.ofLetter? d = some u) (cs : List Char) :
    Overflow.parts? ('%' :: d :: cs) = (Overflow.parts? cs).map (.field u :: ·) := by
  unfold Overflow.Unit.ofLetter? at hu
  split at hu <;> cases hu <;> rfl

theorem overflow_parts?_format (hs : ∀ e ∈ rest, e.1 ∈ separators) :
    Overflow.parts? (format f rest) = some (overflowParts f rest) := by
  induction rest generalizing f with
  | nil => exact overflow_parts?_unit f.isUnit []
  | cons e rest ih =>
    obtain ⟨s, g⟩ := e
    obtain ⟨hse, hrest⟩ := List.forall_mem_cons.mp hs
    have hsep : Overflow.parts? (s :: format g rest) = some (.char s :: overflowParts g rest) := by
      simp only [separators, List.mem_cons, List.not_mem_nil, or_false] at hse
      rcases hse with rfl | rfl | rfl <;>
        exact (congrArg (Option.map _) (ih hrest)).trans rfl
    rw [format_cons, overflow_parts?_unit f.isUnit, hsep]
    rfl

theorem unitsOf_overflowParts (f : NumberField) (rest : List (Char × NumberField)) :
    Overflow.unitsOf (overflowParts f rest) = units f rest := by
  induction rest generalizing f with
  | nil => rfl
  | cons e rest ih => exact congrArg (f.unit :: ·) (ih e.2)

theorem findSome?_of_unique {h : α → Option β} {as : List α} (ha : a ∈ as) (hb : h a = some b)
    (hne : ∀ x ∈ as, x ≠ a → h x = none) : as.findSome? h = some b := by
  induction as with
  | nil => cases ha
  | cons x as ih =>
    obtain ⟨hx, hne⟩ := List.forall_mem_cons.mp hne
    rw [List.findSome?_cons]
    by_cases he : x = a
    · rw [he, hb]
    · rw [hx he]
      exact ih ((List.mem_cons.mp ha).resolve_left fun h => he h.symm) hne

/-- A directive takes all its digits when what follows does not go on with any of them. -/
theorem overflow_matchParts_field (hmore : ∀ c ∈ more.head?, ¬isDecimal c)
    (hstop : ∀ c cs, isDecimal c → Overflow.matchParts ps (c :: cs) = none)
    (h : Overflow.matchParts ps more = some found) :
    Overflow.matchParts (.field f.unit :: ps) (f.digits ++ more) =
      some ((f.unit, f.values) :: found) := by
  have hspan : Numeral.spanDigits (f.digits ++ more) = (f.values, more) :=
    Numeral.spanDigits_append f.areDecimal hmore
  have hlength : f.values.length = f.digits.length := length_filterMap_decimal f.areDecimal
  rw [Overflow.matchParts, hspan]
  apply findSome?_of_unique f.hasWidth
  · rw [if_pos hlength.ge, List.drop_left, h, ← hlength, List.take_length]
    rfl
  · intro n _ hn
    rw [hlength]
    split
    · rename_i hle
      have hlt : n < f.digits.length := lt_of_le_of_ne hle hn
      have hc := f.areDecimal f.digits[n] (List.getElem_mem hlt)
      rw [List.drop_append_of_le_length hle, List.drop_eq_getElem_cons hlt, List.cons_append,
        hstop _ _ hc]
      rfl
    · rfl

theorem overflow_matchParts_text (hs : ∀ e ∈ rest, e.1 ∈ separators) :
    Overflow.matchParts (overflowParts f rest) (text f rest) = some (overflowEntries f rest) := by
  have hmore := not_isDecimal_head? hs
  induction rest generalizing f with
  | nil => exact overflow_matchParts_field hmore (fun _ _ _ => rfl) rfl
  | cons e rest ih =>
    obtain ⟨s, g⟩ := e
    obtain ⟨hse, hrest⟩ := List.forall_mem_cons.mp hs
    apply overflow_matchParts_field hmore
    · intro c cs hc
      rw [Overflow.matchParts, if_neg]
      rintro rfl
      exact not_isDecimal_separator hse hc
    · exact (if_pos rfl).trans (ih hrest (not_isDecimal_head? hrest))

/-- A text of separated numbers stands for the moment that they carry over to. -/
theorem overflow_read?_text (hs : ∀ e ∈ rest, e.1 ∈ separators) (hn : (units f rest).Nodup) :
    Overflow.read? (format f rest) (text f rest) = Overflow.moment? (overflowEntries f rest) := by
  rw [Overflow.read?, overflow_parts?_format hs, Option.bind_eq_bind, Option.bind_some,
    unitsOf_overflowParts, if_pos hn, overflow_matchParts_text hs]
  rfl

end NumberField

theorem read_of_short_year (hp : parts? false format = some (.field .year :: parts))
    (hn : (fieldsOf (.field .year :: parts)).Nodup) (hmore : ∀ c ∈ more.head?, ¬isDecimal c)
    (hl : ds.length < 4) : read format (ds ++ more) = .ok none := by
  have hshapes : Field.year.shapes = [List.replicate 4 .digit] := rfl
  have hmatch : matchParts (.field .year :: parts) (ds ++ more) = none := by
    rw [matchParts, hshapes, List.filterMap_cons, fill?_of_short hmore hl]
    rfl
  rw [read, hp]
  dsimp only
  rw [if_pos hn, hmatch]

theorem overflow_read?_of_short_year (hp : Overflow.parts? format = some (.field .year :: parts))
    (hl : (Numeral.spanDigits text).1.length < 4) : Overflow.read? format text = none := by
  have hmatch : Overflow.matchParts (.field .year :: parts) text = none := by
    have hwidths : Overflow.Unit.year.widths = [4] := rfl
    rw [Overflow.matchParts, hwidths, List.findSome?_cons, if_neg (Nat.not_le.mpr hl)]
    rfl
  rw [Overflow.read?, hp, Option.bind_eq_bind, Option.bind_some, hmatch]
  exact ite_self none

end Time
end Covenant
