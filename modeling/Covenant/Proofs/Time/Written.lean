import Covenant.Proofs.Charset.Length
import Covenant.Proofs.Decimal.Digits
import Covenant.Proofs.Time.FullWidth
import Covenant.Time.Writer
import Mathlib.Data.List.TakeWhile

/-! Dates and times of day that are written as nothing but digits. -/

namespace Covenant

namespace Time

open Decimal (figures digitChar exists_map_digitChar)
open Numeral (ofDigits)

theorem number_map_digitChar (h : ∀ d ∈ ds, d < 10) : number (ds.map digitChar) = ofDigits ds := by
  rw [number, List.filterMap_map]
  congr 1
  induction ds with
  | nil => rfl
  | cons d ds ih =>
    obtain ⟨hd, h⟩ := List.forall_mem_cons.mp h
    have hd : (decimalDigit? ∘ digitChar) d = some d := Decimal.decimalDigit?_digitChar hd
    rw [List.filterMap_cons_some hd, ih h]

theorem number_lt (h : ∀ c ∈ cs, isAsciiDigit c) : number cs < 10 ^ cs.length := by
  obtain ⟨ds, hds, rfl⟩ := exists_map_digitChar h
  rw [number_map_digitChar hds, List.length_map]
  exact Numeral.ofDigits_lt hds

theorem zeros_figures_lt (k n : Nat) : ∀ d ∈ List.replicate k 0 ++ figures n, d < 10 := by
  intro d hd
  rcases List.mem_append.mp hd with hd | hd
  · rw [List.eq_of_mem_replicate hd]
    decide
  · exact Decimal.figures_lt n d hd

theorem padded_eq (width n : Nat) :
    padded width n =
      (List.replicate (width - (figures n).length) 0 ++ figures n).map digitChar := by
  rw [padded, Decimal.pad, Decimal.digits_eq, List.length_map, List.map_append,
    List.map_replicate]
  rfl

theorem length_figures_number (h : ∀ c ∈ cs, isAsciiDigit c) (hl : 0 < cs.length) :
    (figures (number cs)).length ≤ cs.length :=
  Decimal.length_figures_le hl (by simpa using number_lt h)

/-- Digits are what their number is padded to. -/
theorem padded_number (h : ∀ c ∈ cs, isAsciiDigit c) (hl : cs.length = width) (hw : 0 < width) :
    padded width (number cs) = cs := by
  subst hl
  have hle := length_figures_number h hw
  obtain ⟨ds, hds, rfl⟩ := exists_map_digitChar h
  rw [List.length_map] at hle ⊢
  rw [number_map_digitChar hds] at hle ⊢
  rw [padded_eq]
  congr 1
  refine List.reverse_injective (Nat.ofDigits_inj_of_len_eq (b := 10) (by decide) ?_ ?_ ?_ ?_)
  · simp only [List.length_reverse, List.length_append, List.length_replicate]
    omega
  · exact fun d hd => zeros_figures_lt _ _ d (List.mem_reverse.mp hd)
  · exact fun d hd => hds d (List.mem_reverse.mp hd)
  · rw [← Numeral.ofDigits_eq, ← Numeral.ofDigits_eq, Numeral.ofDigits_append,
      Numeral.ofDigits_zeros, Decimal.ofDigits_figures, Nat.zero_mul, Nat.zero_add]

theorem length_padded (width n : Nat) : (padded width n).length = max width (figures n).length := by
  rw [padded_eq, List.length_map, List.length_append, List.length_replicate]
  omega

theorem number_padded (width n : Nat) : number (padded width n) = n := by
  rw [padded_eq, number_map_digitChar (zeros_figures_lt _ n), Numeral.ofDigits_append,
    Numeral.ofDigits_zeros, Decimal.ofDigits_figures, Nat.zero_mul, Nat.zero_add]

theorem isAsciiDigit_of_mem_padded (h : c ∈ padded width n) : isAsciiDigit c := by
  rw [padded_eq] at h
  obtain ⟨d, hd, rfl⟩ := List.mem_map.mp h
  exact Decimal.isAsciiDigit_digitChar (zeros_figures_lt _ n d hd)

theorem Spec.number_plain (width n : Nat) : Spec.number {} width n = padded width n := by
  have hs : ¬(n : Int) < 0 := by omega
  simp only [Spec.number, Spec.least, Option.getD_none, Nat.min_zero, Nat.max_zero, if_neg hs,
    List.nil_append, List.length_nil, Nat.sub_zero, Int.natAbs_natCast]
  rfl

/-- A directive that is written as a number without any fill of its own. -/
theorem expand_number (hx : extend? {} c = none)
    (hd : directive? m {} c = some (Spec.number {} width (n : Nat))) (cs : List Char) :
    expand m none ('%' :: c :: cs) = padded width n ++ expand m none cs := by
  simp only [expand, hx, hd, Option.getD_some, Spec.number_plain]

theorem expand_digits (h : ∀ c ∈ ds, isAsciiDigit c) (m : Moment) (cs : List Char) :
    expand m none (ds ++ cs) = ds ++ expand m none cs := by
  induction ds with
  | nil => rfl
  | cons d ds ih =>
    obtain ⟨hd, h⟩ := List.forall_mem_cons.mp h
    have hne : d ≠ '%' := by
      rintro rfl
      cases hd
    rw [List.cons_append, expand, ih h]
    · rfl
    · exact hne

namespace Field

/-- The directives that make up a date and a time of day. -/
def ofCalendar : List Field := [year, month, day, hour, minute, second, micro]

/-- The number that a directive stands for. -/
def part (m : Moment) : Field → Nat
  | year => m.date.year
  | month => m.date.month
  | day => m.date.day
  | hour => m.hour
  | minute => m.minute
  | second => m.second
  | micro => m.micro
  | _ => 0

/-- The number that is assumed when the directive does not come. -/
def assumed : Field → Nat
  | year => 1900
  | month | day => 1
  | _ => 0

/-- What a directive is written as; only years are not padded. -/
def written (m : Moment) (f : Field) : List Char :=
  padded (if f = year then 1 else f.width?.getD 0) (f.part m)

theorem letter_of_calendar (h : ofLetter? d = some f) (hf : f ∈ ofCalendar) :
    (d, f) ∈ [('Y', year), ('m', month), ('d', day), ('H', hour), ('M', minute), ('S', second),
      ('f', micro)] := by
  unfold ofLetter? at h
  split at h <;> cases h <;> first | exact absurd hf (by decide) | decide

theorem expand_directive {f : Field} (h : ofLetter? d = some f) (hf : f ∈ ofCalendar) (m : Moment)
    (cs : List Char) : expand m none (expandZone m ('%' :: d :: cs)) =
      f.written m ++ expand m none (expandZone m cs) := by
  have hmem := letter_of_calendar h hf
  simp only [List.mem_cons, List.not_mem_nil, or_false, Prod.mk.injEq] at hmem
  rcases hmem with ⟨rfl, rfl⟩ | ⟨rfl, rfl⟩ | ⟨rfl, rfl⟩ | ⟨rfl, rfl⟩ | ⟨rfl, rfl⟩ | ⟨rfl, rfl⟩ |
    ⟨rfl, rfl⟩
  · exact expand_number rfl rfl _
  · exact expand_number rfl rfl _
  · exact expand_number rfl rfl _
  · exact expand_number rfl rfl _
  · exact expand_number rfl rfl _
  · exact expand_number rfl rfl _
  · exact expand_digits (fun c hc => isAsciiDigit_of_mem_padded hc) m _

end Field

theorem le_roomFor (formatLength fuel room : Nat) : room ≤ roomFor formatLength fuel room := by
  induction fuel generalizing room with
  | zero => exact Nat.le_refl room
  | succ fuel ih =>
    rw [roomFor]
    split
    · exact Nat.le_refl room
    · exact (Nat.le_mul_of_pos_left room (by decide)).trans (ih (2 * room))

theorem write_of_expand (hf : format.takeWhile (· != Char.ofNat 0) = format)
    (h : expand m none (expandZone m format) = cs) (hl : cs.length < 256) :
    write format m = cs := by
  have hle := Utf8.length_encode_le cs
  have hroom := le_roomFor (Utf8.encode (expandZone m format)).length
    (Utf8.encode (expandZone m format)).length 1024
  rw [write, hf, h, if_pos (by omega)]

namespace FullField

variable {fs : List FullField}

/-- What the format of the fields is written as, if they are all of the calendar. -/
def written (fs : List FullField) (m : Moment) : List Char :=
  (fs.map (·.field.written m)).flatten

theorem takeWhile_format (fs : List FullField) :
    (format fs).takeWhile (· != Char.ofNat 0) = format fs := by
  refine List.takeWhile_eq_self_iff.mpr fun c hc => ?_
  obtain ⟨cs, hcs, hc⟩ := List.mem_flatten.mp hc
  obtain ⟨f, _, rfl⟩ := List.mem_map.mp hcs
  rw [bne_iff_ne]
  rintro rfl
  rcases List.mem_pair.mp hc with h | h
  · cases h
  · have hf := f.isField
    rw [← h] at hf
    cases hf

theorem expand_format (h : ∀ f ∈ fs, f.field ∈ Field.ofCalendar) (m : Moment) :
    expand m none (expandZone m (format fs)) = written fs m := by
  induction fs with
  | nil => rfl
  | cons f fs ih =>
    obtain ⟨hf, h⟩ := List.forall_mem_cons.mp h
    show expand m none (expandZone m ('%' :: f.letter :: format fs)) = _
    rw [Field.expand_directive f.isField hf, ih h]
    rfl

theorem write_format (h : ∀ f ∈ fs, f.field ∈ Field.ofCalendar)
    (hl : (written fs m).length < 256) : write (format fs) m = written fs m :=
  write_of_expand (takeWhile_format fs) (expand_format h m) hl

end FullField
end Time
end Covenant
