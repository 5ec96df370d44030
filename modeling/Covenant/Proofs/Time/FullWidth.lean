import Covenant.Proofs.Decimal.Script
import Covenant.Time.Reader
import Mathlib.Data.List.Forall2

/-! Texts that are nothing but digits, every number as wide as it can be: they are laid out in one
way only. -/

namespace Covenant

theorem length_flatten_le {xss yss : List (List α)}
    (h : List.Forall₂ (fun xs ys => xs.length ≤ ys.length) xss yss) :
    xss.flatten.length ≤ yss.flatten.length := by
  induction h with
  | nil => exact Nat.le_refl _
  | cons hle _ ih =>
    rw [List.flatten_cons, List.flatten_cons, List.length_append, List.length_append]
    exact Nat.add_le_add hle ih

/-- Parts that make up the same text are the same when none is longer than its counterpart. -/
theorem eq_of_flatten_eq {xss yss : List (List α)}
    (h : List.Forall₂ (fun xs ys => xs.length ≤ ys.length) xss yss)
    (he : xss.flatten = yss.flatten) : xss = yss := by
  induction h with
  | nil => rfl
  | @cons xs ys xss yss hle h ih =>
    have hrest := length_flatten_le h
    rw [List.flatten_cons, List.flatten_cons] at he
    have hlength := congrArg List.length he
    rw [List.length_append, List.length_append] at hlength
    obtain ⟨rfl, hflat⟩ := List.append_inj he (by omega)
    rw [ih hflat]

namespace Time

/-- The characters fill the slots one by one. -/
def Fills (slots : List Slot) (cs : List Char) : Prop :=
  List.Forall₂ (fun slot c => slot.allows c = true) slots cs

theorem fill?_eq_some :
    fill? slots cs = some (taken, rest) ↔ Fills slots taken ∧ cs = taken ++ rest := by
  induction slots generalizing cs taken with
  | nil =>
    constructor
    · intro h
      cases h
      exact ⟨.nil, rfl⟩
    · rintro ⟨h, rfl⟩
      cases h
      rfl
  | cons slot slots ih =>
    constructor
    · intro h
      cases cs with
      | nil => cases h
      | cons c cs =>
        rw [fill?] at h
        split at h
        · rename_i hc
          obtain ⟨⟨taken', rest'⟩, hf, he⟩ := Option.map_eq_some_iff.mp h
          cases he
          obtain ⟨hfills, rfl⟩ := ih.mp hf
          exact ⟨.cons hc hfills, rfl⟩
        · cases h
    · rintro ⟨h, rfl⟩
      cases h with
      | @cons _ c _ cs hc h =>
        rw [List.cons_append, fill?, if_pos hc, ih.mpr ⟨h, rfl⟩]
        rfl

/-- Too few digits do not fill the slots for them. -/
theorem fill?_of_short (hmore : ∀ c ∈ more.head?, ¬isDecimal c) (hl : ds.length < n) :
    fill? (List.replicate n .digit) (ds ++ more) = none := by
  induction n generalizing ds with
  | zero => exact absurd hl (Nat.not_lt_zero _)
  | succ n ih =>
    rw [List.replicate_succ]
    cases ds with
    | nil =>
      cases more with
      | nil => rfl
      | cons c more => exact if_neg (hmore c rfl)
    | cons d ds =>
      rw [List.cons_append, fill?, ih (Nat.lt_of_succ_lt_succ hl)]
      exact ite_self none

namespace Field

/-- The number of digits a directive for a number is written with; years are taken to have four.
-/
def width? : Field → Option Nat
  | year | isoYear => some 4
  | shortYear | month | day | hour | halfHour | minute | second | sundayWeek | mondayWeek
  | isoWeek => some 2
  | dayOfYear => some 3
  | micro => some 6
  | weekdayFromSunday | weekdayFromMonday => some 1
  | monthName | monthShort | half | weekdayName | weekdayShort | offset | zoneName => none

theorem width?_pos {f : Field} (h : f.width? = some w) : 0 < w := by
  cases f <;> cases h <;> decide

theorem width?_le {f : Field} (h : f.width? = some w) : w ≤ 6 := by
  cases f <;> cases h <;> decide

/-- Whether a text is one that the directive can read. -/
def takes (f : Field) (cs : List Char) : Bool :=
  f.shapes.any fun slots => (fill? slots cs).any (·.2.isEmpty)

theorem takes_iff {f : Field} : f.takes cs = true ↔ ∃ slots ∈ f.shapes, Fills slots cs := by
  have hfill (slots : List Slot) :
      (fill? slots cs).any (·.2.isEmpty) = true ↔ Fills slots cs := by
    rw [Option.any_eq_true]
    constructor
    · rintro ⟨⟨taken, rest⟩, h, he⟩
      obtain ⟨hf, rfl⟩ := fill?_eq_some.mp h
      obtain rfl := List.isEmpty_iff.mp he
      rwa [List.append_nil]
    · intro h
      exact ⟨(cs, []), fill?_eq_some.mpr ⟨h, (List.append_nil cs).symm⟩, rfl⟩
  rw [takes, List.any_eq_true]
  exact exists_congr fun slots => and_congr_right fun _ => hfill slots

theorem length_shape_le {f : Field} (h : f.width? = some w) : ∀ slots ∈ f.shapes,
    slots.length ≤ w := by
  cases f <;> cases h <;> decide

/-- Longer shapes are tried before shorter ones, but for one that begins with a blank. -/
theorem shapes_pairwise {f : Field} (h : f.width? = some w) :
    f.shapes.Pairwise fun a b => b.length ≤ a.length ∨ .exactly ' ' ∈ b := by
  cases f <;> cases h <;> decide

theorem not_fills_blank (h : Slot.exactly ' ' ∈ slots) (hd : ∀ c ∈ cs, isDecimal c) :
    ¬Fills slots cs := by
  intro hf
  induction hf with
  | nil => cases h
  | cons hc _ ih =>
    obtain ⟨hdc, hd⟩ := List.forall_mem_cons.mp hd
    rcases List.mem_cons.mp h with rfl | h
    · rw [← beq_iff_eq.mp hc] at hdc
      cases hdc
    · exact ih h hd

/-- The first shape that fits at the start of a text takes all digits when one takes them and none
takes more. -/
theorem head?_fill {shapes : List (List Slot)}
    (hp : shapes.Pairwise fun a b => b.length ≤ a.length ∨ .exactly ' ' ∈ b)
    (hs : slots ∈ shapes) (hf : Fills slots cs)
    (hl : ∀ slots ∈ shapes, ∀ taken more,
      fill? slots (cs ++ rest) = some (taken, more) → slots.length ≤ cs.length)
    (hd : ∀ c ∈ cs, isDecimal c) :
    (shapes.filterMap (fill? · (cs ++ rest))).head? = some (cs, rest) := by
  induction shapes with
  | nil => cases hs
  | cons first shapes ih =>
    obtain ⟨hfirst, hp⟩ := List.pairwise_cons.mp hp
    obtain ⟨hlfirst, hl⟩ := List.forall_mem_cons.mp hl
    have hfill : fill? slots (cs ++ rest) = some (cs, rest) := fill?_eq_some.mpr ⟨hf, rfl⟩
    cases ht : fill? first (cs ++ rest) with
    | none =>
      rcases List.mem_cons.mp hs with rfl | hs
      · rw [ht] at hfill
        cases hfill
      · rw [List.filterMap_cons, ht]
        exact ih hp hs hl
    | some taken =>
      obtain ⟨taken, rest'⟩ := taken
      rw [List.filterMap_cons, ht]
      show some (taken, rest') = some (cs, rest)
      rcases List.mem_cons.mp hs with rfl | hs
      · exact ht.symm.trans hfill
      · -- the shape comes first, so it is as long as the one that takes all digits
        obtain ⟨htaken, he⟩ := fill?_eq_some.mp ht
        have hle := (hfirst slots hs).resolve_right fun hb => not_fills_blank hb hd hf
        have hlength : cs.length = taken.length := by
          rw [← htaken.length_eq]
          exact Nat.le_antisymm (hf.length_eq ▸ hle) (hlfirst _ _ ht)
        obtain ⟨rfl, rfl⟩ := List.append_inj he hlength
        rfl

theorem ofLetter?_parts {f : Field} (h : ofLetter? d = some f) (b : Bool) (cs : List Char) :
    parts? b ('%' :: d :: cs) = (parts? false cs).map (.field f :: ·) := by
  unfold ofLetter? at h
  split at h <;> cases h <;> rfl

end Field

/-- What is matched makes up the text, and each directive can take its part. -/
theorem matchParts_fields {fields : List Field}
    (h : matchParts (fields.map .field) cs = some (found, rest)) :
    List.Forall₂ (fun f entry => entry.1 = f ∧ f.takes entry.2) fields found ∧
      cs = (found.map (·.2)).flatten ++ rest := by
  induction fields generalizing cs found with
  | nil =>
    cases h
    exact ⟨.nil, rfl⟩
  | cons f fields ih =>
    rw [List.map_cons, matchParts] at h
    obtain ⟨⟨taken, more⟩, hmem, h⟩ := List.exists_of_findSome?_eq_some h
    obtain ⟨⟨found', rest'⟩, hm, he⟩ := Option.map_eq_some_iff.mp h
    cases he
    obtain ⟨slots, hs, hfill⟩ := List.mem_filterMap.mp hmem
    obtain ⟨hfills, rfl⟩ := fill?_eq_some.mp hfill
    obtain ⟨hall, rfl⟩ := ih hm
    refine ⟨.cons ⟨rfl, Field.takes_iff.mpr ⟨slots, hs, hfills⟩⟩ hall, ?_⟩
    rw [List.map_cons, List.flatten_cons, List.append_assoc]

/-- A directive for a number, and digits that make up a number at its full width. -/
structure FullField where
  letter : Char
  field : Field
  digits : List Char
  isField : Field.ofLetter? letter = some field
  isFull : field.width? = some digits.length
  areDigits : ∀ c ∈ digits, isAsciiDigit c

namespace FullField

variable {fs : List FullField}

/-- The format that has the directives one behind the other. -/
def format (fs : List FullField) : List Char := (fs.map fun f => ['%', f.letter]).flatten

/-- The text that has the digits one behind the other. -/
def text (fs : List FullField) : List Char := (fs.map (·.digits)).flatten

def fields (fs : List FullField) : List Field := fs.map (·.field)

/-- What each directive reads. -/
def entries (fs : List FullField) : List (Field × List Char) := fs.map fun f => (f.field, f.digits)

theorem isAsciiDigit_of_mem_text (h : c ∈ text fs) : isAsciiDigit c := by
  obtain ⟨cs, hcs, hc⟩ := List.mem_flatten.mp h
  obtain ⟨f, _, rfl⟩ := List.mem_map.mp hcs
  exact f.areDigits c hc

theorem text_ne_nil (h : fs ≠ []) : text fs ≠ [] := by
  obtain ⟨f, fs, rfl⟩ := List.exists_cons_of_ne_nil h
  have hpos := Field.width?_pos f.isFull
  have hdigits : f.digits ≠ [] := List.ne_nil_of_length_pos hpos
  simp [text, hdigits]

theorem parts?_format (fs : List FullField) :
    parts? false (format fs) = some ((fields fs).map .field) := by
  induction fs with
  | nil => rfl
  | cons f fs ih =>
    show parts? false ('%' :: f.letter :: format fs) = _
    rw [Field.ofLetter?_parts f.isField, ih]
    rfl

theorem fieldsOf_map (fields : List Field) : fieldsOf (fields.map .field) = fields := by
  rw [fieldsOf, List.filterMap_map]
  exact List.filterMap_some

/-- Each directive takes its digits when all of them can. -/
theorem matchParts_text (h : ∀ f ∈ fs, f.field.takes f.digits) :
    matchParts ((fields fs).map .field) (text fs) = some (entries fs, []) := by
  induction fs with
  | nil => rfl
  | cons f fs ih =>
    obtain ⟨hf, h⟩ := List.forall_mem_cons.mp h
    obtain ⟨slots, hs, hfills⟩ := Field.takes_iff.mp hf
    have hhead : (f.field.shapes.filterMap (fill? · (f.digits ++ text fs))).head? =
        some (f.digits, text fs) :=
      Field.head?_fill (Field.shapes_pairwise f.isFull) hs hfills
        (fun slots hs _ _ _ => Field.length_shape_le f.isFull slots hs)
        fun c hc => isDecimal_of_isAsciiDigit (f.areDigits c hc)
    obtain ⟨more, hmore⟩ := List.head?_eq_some_iff.mp hhead
    show matchParts (.field f.field :: (fields fs).map .field) (f.digits ++ text fs) = _
    rw [matchParts, hmore, List.findSome?_cons]
    simp only [ih h]
    rfl

/-- A match of the whole text gives each directive its own digits. -/
theorem takes_of_matchParts (h : matchParts ((fields fs).map .field) (text fs) = some (found, [])) :
    ∀ f ∈ fs, f.field.takes f.digits := by
  obtain ⟨hall, htext⟩ := matchParts_fields h
  rw [List.append_nil] at htext
  rw [fields, List.forall₂_map_left_iff] at hall
  -- no directive takes more than its width, and together they take the whole text
  have hle : List.Forall₂ (fun xs ys => xs.length ≤ ys.length) (found.map (·.2))
      (fs.map (·.digits)) := by
    rw [List.forall₂_map_left_iff, List.forall₂_map_right_iff]
    refine hall.flip.imp fun entry f ⟨_, ht⟩ => ?_
    obtain ⟨slots, hs, hfills⟩ := Field.takes_iff.mp ht
    rw [← hfills.length_eq]
    exact Field.length_shape_le f.isFull slots hs
  have hdigits := eq_of_flatten_eq hle htext.symm
  clear h htext hle
  induction hall with
  | nil => exact fun f hf => absurd hf (by simp)
  | cons ht _ ih =>
    rw [List.map_cons, List.map_cons, List.cons.injEq] at hdigits
    rw [List.forall_mem_cons]
    exact ⟨hdigits.1 ▸ ht.2, ih hdigits.2⟩

/-- The moment that the numbers say, if each is one that its directive takes. -/
def moment? (fs : List FullField) : Option Moment :=
  if fs.all fun f => f.field.takes f.digits then
    (readFields [] {} (entries fs)).bind Reading.moment?
  else none

theorem find?_half (fs : List FullField) : (entries fs).find? (·.1 == Field.half) = none := by
  rw [List.find?_eq_none]
  intro entry he hhalf
  obtain ⟨f, _, rfl⟩ := List.mem_map.mp he
  have hw := f.isFull
  rw [show f.field = Field.half from beq_iff_eq.mp hhalf] at hw
  cases hw

/-- A text with every number at its full width is read number by number. -/
theorem read_text (fs : List FullField) : read (format fs) (text fs) =
    if (fields fs).Nodup then .ok (moment? fs) else .error (.crashed .repeatedField) := by
  rw [read, parts?_format]
  simp only [fieldsOf_map]
  split
  · by_cases h : ∀ f ∈ fs, f.field.takes f.digits
    · rw [matchParts_text h, moment?, if_pos (List.all_eq_true.mpr h)]
      simp only [find?_half]
      rfl
    · rw [moment?, if_neg fun ha => h (List.all_eq_true.mp ha)]
      split
      · rename_i hm
        exact absurd (takes_of_matchParts hm) h
      · rfl
  · rfl

end FullField
end Time
end Covenant
