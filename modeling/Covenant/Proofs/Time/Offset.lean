import Covenant.Check.Temporal
import Covenant.Proofs.Time.Written

/-! What is known about a moment tells when it is: its text has the offset from UTC in full. -/

namespace Covenant

open Time (number)

namespace Zone

def isMark (c : Char) : Bool := !isAsciiDigit c

/-- The microseconds of hours, minutes, seconds and a fraction, the last ones where they are given.
-/
def microsOf : List Nat → Nat
  | [h, m] => (h * 60 + m) * 60 * million
  | [h, m, s] => ((h * 60 + m) * 60 + s) * million
  | [h, m, s, f] => ((h * 60 + m) * 60 + s) * million + f
  | _ => 0

/-- The microseconds of an offset, read from its text. -/
def readOffset (text : List Char) : Nat :=
  microsOf ((splitWhere isMark text.tail).map number)

theorem splitWhere_padded (width n : Nat) : splitWhere isMark (padded width n) = [padded width n] :=
  splitWhere_of_no_sep fun c hc => by simp [isMark, Time.isAsciiDigit_of_mem_padded hc]

theorem splitWhere_padded_append (width n : Nat) (hs : isMark s) (rest : List Char) :
    splitWhere isMark (padded width n ++ s :: rest) = padded width n :: splitWhere isMark rest :=
  splitWhere_append (fun c hc => by simp [isMark, Time.isAsciiDigit_of_mem_padded hc]) hs rest

theorem readOffset_offsetText (offset : Int) :
    readOffset (offsetText [':'] offset) = offset.natAbs := by
  have hcolon : isMark ':' := rfl
  have hpoint : isMark '.' := rfl
  rw [readOffset, offsetText]
  generalize offset.natAbs = n
  split_ifs with hmicro hsecond
  all_goals
    simp only [List.cons_append, List.append_assoc, List.nil_append, List.tail_cons,
      splitWhere_padded_append, hcolon, hpoint, splitWhere_padded, List.map_cons, List.map_nil,
      Time.number_padded, microsOf]
    rw [million] at *
    omega

theorem head?_offsetText (offset : Int) :
    (offsetText [':'] offset).head? = some (if offset < 0 then '-' else '+') := by
  rw [offsetText]
  split_ifs <;> rfl

theorem offsetText_ne_nil (offset : Int) : offsetText [':'] offset ≠ [] := by
  intro he
  have hhead := head?_offsetText offset
  rw [he] at hhead
  cases hhead

/-- An offset is told by its text. -/
theorem offsetText_injective (h : offsetText [':'] a = offsetText [':'] b) : a = b := by
  have habs : a.natAbs = b.natAbs := by
    rw [← readOffset_offsetText a, h, readOffset_offsetText]
  have hsign : a < 0 ↔ b < 0 := by
    have hhead := congrArg List.head? h
    rw [head?_offsetText, head?_offsetText, Option.some.injEq] at hhead
    split_ifs at hhead with ha hb hb
    · exact iff_of_true ha hb
    · exact absurd hhead (by decide)
    · exact absurd hhead (by decide)
    · exact iff_of_false ha hb
  omega

end Zone

theorem offset_of_text {z z' : Option Zone}
    (h : z.elim [] (fun z => Zone.offsetText [':'] z.offset) =
      z'.elim [] fun z => Zone.offsetText [':'] z.offset) :
    z.elim 0 (·.offset) = z'.elim 0 (·.offset) := by
  cases z with
  | none =>
    cases z' with
    | none => rfl
    | some z' => exact absurd h.symm (Zone.offsetText_ne_nil z'.offset)
  | some z =>
    cases z' with
    | none => exact absurd h (Zone.offsetText_ne_nil z.offset)
    | some z' => exact Zone.offsetText_injective h

/-- Moments of which the same is known are at the same time. -/
theorem Check.Temporal.sinceEpoch_of_components {m m' : Moment} (h : components m = components m') :
    m.sinceEpoch = m'.sinceEpoch := by
  simp only [components, Value.map.injEq, List.cons.injEq, Prod.mk.injEq, Value.int.injEq,
    Value.text.injEq, true_and, and_true, Int.natCast_inj, String.ofList_inj] at h
  obtain ⟨hiso, _, _, _, hyear, hmonth, hday, hhour, hminute, hsecond, hmicro⟩ := h
  have hdate : m.date = m'.date := by
    show Date.mk m.date.year m.date.month m.date.day = m'.date
    rw [hyear, hmonth, hday]
  have hoffset : m.zone.elim 0 (·.offset) = m'.zone.elim 0 (·.offset) := by
    apply offset_of_text
    rw [Moment.iso, Moment.iso, hdate, hhour, hminute, hsecond, hmicro] at hiso
    exact List.append_cancel_left hiso
  rw [Moment.sinceEpoch, Moment.sinceEpoch, Moment.micros, Moment.micros, hdate, hhour, hminute,
    hsecond, hmicro, hoffset]

end Covenant
