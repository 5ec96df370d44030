import Covenant.Proofs.Check.Default
import Covenant.Proofs.Double

/-! Where a check without parameters takes a step that no contract rule accounts for. -/

namespace Covenant

/-- An integer of too many digits is not written. -/
def Decimal.fault? (i : Int) : Option Fault :=
  if i.natAbs < Nat.pow 10 digitLimit then none else some .unreadable

/-- The step that goes wrong when data is checked without parameters: an integer is too large for a
float, or its digits are too many to be read or written. -/
def Kind.fault? (kind : Kind) (strict : Bool) (data : Value) : Option Fault :=
  match kind, strict, data with
  | int, false, .text s =>
    if (Loose.readInteger? (trim s.toList)).any (digitLimit < ·.2.length) then some .unreadable
    else none
  | float, false, .int i => if Double.leastOverflow ≤ i.natAbs then some .overflow else none
  | string, false, .int i | slug, false, .int i | ean, _, .int i | phone, _, .int i =>
    Decimal.fault? i
  | _, _, _ => none

theorem Kind.fault?_null (kind : Kind) (strict : Bool) : kind.fault? strict .null = none := by
  cases kind <;> cases strict <;> rfl

theorem Decimal.ofInt?_eq_crashed : ofInt? i = .error (.crashed fault) ↔ fault? i = some fault := by
  unfold ofInt? fault?
  split
  · simp
  · simp

theorem Decimal.ofInt?_stops (i : Int) : FailsAs (Failure.OnlyFault (fault? i)) (ofInt? i) := by
  intro f h fault he
  exact ofInt?_eq_crashed.mp (he ▸ h)

theorem Value.toText_int (i : Int) : (int i).toText = (Decimal.ofInt? i).map String.ofList := by
  simp [toText, shown]

namespace Loose

theorem readInteger?_zero_cons (h : readInteger? ('0' :: cs) = some n) : n = (false, [0]) := by
  unfold readInteger? at h
  simp only [Numeral.spanSign] at h
  split at h
  · exact (Option.some.inj h).symm
  · rename_i c rest _ he
    rw [if_neg fun hc => hc.2 (List.cons.inj he).1.symm] at h
    cases h
  · cases h

theorem readHex?_eq_some (h : readHex? cs = some n) : ∃ rest, cs = '0' :: rest := by
  unfold readHex? at h
  split at h
  · exact ⟨_, rfl⟩
  · cases h

theorem readOctal?_eq_some (h : readOctal? cs = some n) : ∃ rest, cs = '0' :: rest := by
  unfold readOctal? at h
  split at h
  · exact ⟨_, rfl⟩
  · cases h

/-- Only a decimal integer of too many digits is not read. -/
theorem readInt?_eq_error : readInt? cs = .error f ↔
    (readInteger? cs).any (digitLimit < ·.2.length) ∧ f = .crashed .unreadable := by
  have hz (h : ∃ rest, cs = '0' :: rest) : ¬(readInteger? cs).any (digitLimit < ·.2.length) := by
    obtain ⟨rest, rfl⟩ := h
    cases hr : readInteger? ('0' :: rest) with
    | none => simp
    | some n => simp [readInteger?_zero_cons hr, digitLimit]
  unfold readInt?
  split
  · rename_i n hn
    simp [hz (readHex?_eq_some hn)]
  · rename_i n _ hn
    simp [hz (readOctal?_eq_some hn)]
  · rename_i negative ds _ _ hr
    rw [hr]
    split
    · rename_i hl
      simp [hl, eq_comm]
    · rename_i hl
      simp [hl]
  · rename_i _ _ hr
    simp [hr]

end Loose

theorem Time.read_of_nodup (h : (parts? false format).all fun parts => (fieldsOf parts).Nodup)
    (text : List Char) : ∃ m, read format text = .ok m := by
  unfold read
  cases hp : parts? false format with
  | none => exact ⟨_, rfl⟩
  | some parts =>
    rw [hp, Option.all_some, decide_eq_true_eq] at h
    dsimp only
    rw [if_pos h]
    split
    · exact ⟨_, rfl⟩
    · exact ⟨_, rfl⟩

namespace Check

variable {known : Option Fault} {mode : Mode} {params : Params} {data : Value}

theorem toText_stops (i : Int) :
    FailsAs (Failure.OnlyFault (Decimal.fault? i)) (Value.int i).toText := by
  rw [Value.toText_int]
  exact .map _ (Decimal.ofInt?_stops i)

theorem readInt_stops (h : ∀ s, data = .text s →
    (Loose.readInteger? (trim s.toList)).any (digitLimit < ·.2.length) →
      known = some .unreadable) :
    FailsAs (Failure.OnlyFault known) (Loose.readInt data) := by
  unfold Loose.readInt Loose.toInt?
  split
  · exact .ok _
  · split
    · exact .ok _
    · exact .ok _
    · rename_i s _
      intro f hf
      obtain ⟨hl, rfl⟩ := Loose.readInt?_eq_error.mp hf
      simpa using h s rfl hl
    · exact .ok _

theorem readFloat_stops (h : ∀ i, data = .int i → Double.ofInt? i = none → known = some .overflow) :
    FailsAs (Failure.OnlyFault known) (Loose.readFloat data) := by
  unfold Loose.readFloat Loose.toFloat?
  split
  · exact .ok _
  · split
    · rename_i i _
      refine .bind ?_ fun _ => .ok _
      cases hi : Double.ofInt? i with
      | none => simpa [Double.ofIntChecked_of_none hi] using h i rfl hi
      | some x => simp [Double.ofIntChecked_of_some hi]
    · exact .ok _
    · exact .ok _
    · exact .ok _

/-- A format that names no field twice always reads a text, or finds that it cannot. -/
theorem Temporal.check_nil_stops (t : Temporal)
    (h : (Time.parts? false t.format.toList).all fun parts => (Time.fieldsOf parts).Nodup) :
    StopsAs (Failure.OnlyFault known) (t.check mode [] data) := by
  have hr (strict : Bool) (s : String) :
      FailsAs (Failure.OnlyFault known) (readText strict (.text t.format) s) := by
    obtain ⟨m, hm⟩ := Time.read_of_nodup h s.toList
    refine .bind (x := Time.read t.format.toList s.toList) (hm ▸ .ok _) fun m => ?_
    split
    · exact .ok _
    · exact .ok _
  refine check_stops t (.ok _) (.ok _) ?_ (.ok _)
  show FailsAs _ (readData mode.strict (.text t.format) data)
  unfold readData
  split
  · refine .ite (.bind (hr _ _) fun m => ?_) (hr _ _)
    split
    · exact .ok _
    · exact .ok _
  · exact .ok _

end Check

namespace Kind

variable {mode : Mode} {data : Value} {inner : Check.Delegate}

/-- Without parameters, a check only takes the wrong step that is known of its kind. -/
theorem check_nil_stops (kind : Kind)
    (hc : ∀ v, FailsAs (Failure.OnlyFault none) (inner.content [("type", .text "binary")] v)) :
    StopsAs (Failure.OnlyFault (kind.fault? mode.strict data)) (kind.check inner mode [] data) := by
  have hP (m : String) : (Failure.malformed m).OnlyFault (kind.fault? mode.strict data) :=
    Failure.malformed_onlyFault m
  cases kind with
  | null => exact @Check.null_stops _ [] mode data hP
  | bool => exact @Check.bool_stops _ [] mode data hP
  | int =>
    refine @Check.int_stops _ [] mode data hP (.ok _) (.ok _) fun hs =>
      Check.readInt_stops fun s he hl => ?_
    rw [he, hs, fault?, if_pos hl]
  | float =>
    refine @Check.float_stops _ [] mode data hP (.ok _) (.ok _) fun hs =>
      Check.readFloat_stops fun i he hi => ?_
    rw [he, hs, fault?, if_pos (Double.ofInt?_eq_none.mp hi)]
  | string =>
    refine @Check.string_stops _ [] mode data hP (.ok _) (fun hs i he => ?_) (fun cs h => ?_)
      fun _ => .ok _
    · rw [he, hs]
      exact Decimal.ofInt?_stops i
    · cases h
      exact fun _ => .ok _
  | email => exact @Check.email_stops _ [] mode data (.ok _) fun _ => .ok _
  | url => exact @Check.url_stops _ [] mode data (.ok _) (.ok _) fun _ => .ok _
  | enum => exact StopsAs.failed_iff.mpr (hP _)
  | list =>
    refine .lift_bind (.ok _) fun limits => ?_
    split
    · exact .refuse _
    · refine .ite (.refuse _) (.ite (.refuse _) ?_)
      split
      · rename_i h
        cases h
      · exact .accept _
  | assoc => exact StopsAs.failed_iff.mpr (hP _)
  | json =>
    refine .lift_bind (.ok _) fun limits => ?_
    split
    · refine .ite (.refuse _) (.ite (.refuse _) ?_)
      split
      · exact .refuse _
      · exact .ok _
    · exact .refuse _
  | date => exact Check.Temporal.check_nil_stops _ (by decide)
  | time => exact Check.Temporal.check_nil_stops _ (by decide)
  | datetime => exact Check.Temporal.check_nil_stops _ (by decide)
  | uuid => exact @Check.uuid_stops _ [] mode data
  | isbn => exact @Check.isbn_stops _ [] mode data
  | ean =>
    exact @Check.ean_stops _ [] mode data fun i he => he ▸ Check.toText_stops i
  | ip => exact @Check.ip_stops _ [] mode data (.ok _)
  | mac => exact @Check.mac_stops _ [] mode data
  | slug =>
    refine @Check.slug_stops _ [] mode data (.ok _) (fun hs i he => ?_) fun _ => .ok _
    rw [he, hs]
    exact Check.toText_stops i
  | base64 =>
    refine @Check.base64_stops _ [] mode data _ hP (.ok _) fun mimes h v f hf _ => ?_
    cases h
    exact hc v f hf
  | binary =>
    refine @Check.binary_stops _ [] mode data hP (.ok _) (fun charsets h => ?_) (fun mimes h => ?_)
      fun charsets h names hn => ?_
    · cases h
      exact .ok _
    · cases h
      exact fun _ => .ok _
    · cases h
      cases hn
      exact fun _ _ => .ok _
  | color => exact @Check.color_stops _ [] mode data
  | geo => exact @Check.Geo.check_stops _ [] mode data hP
  | phone =>
    exact @Check.phone_stops _ [] mode data fun i he => he ▸ Check.toText_stops i
  | hash =>
    refine @Check.hash_stops _ [] mode data hP (fun names h => ?_) (.ok _)
    cases h
    exact .ok _

/-- An integer that cannot be read fails whatever the bounds. -/
theorem int_fails {params : Params}
    (hl : Bound.ofInt (params.get "min") "min" true = .ok least)
    (hm : Bound.ofInt (params.get "max") "max" true = .ok most)
    (hc : Check.clamps params = .ok clamp)
    (hf : int.fault? mode.strict data = some fault) :
    int.check inner mode params data = .error (.failed (.crashed fault)) := by
  have hs : mode.strict = false := by
    rw [← Bool.not_eq_true]
    intro hs
    rw [hs] at hf
    cases hf
  have hd : Check.Loose.readInt data = .error (.crashed fault) := by
    rw [hs] at hf
    cases data with
    | text s =>
      rw [fault?] at hf
      split at hf
      · rename_i hl
        cases hf
        exact Loose.readInt?_eq_error.mpr ⟨hl, rfl⟩
      · cases hf
    | _ => cases hf
  show Check.int mode params data = _
  rw [Check.int, hs, Bool.not_false, Bool.or_true, hl, hm, hc]
  simp only [Bool.false_eq_true, if_false, hd]
  rfl

theorem check_nil_of_fault? {kind : Kind} (hf : kind.fault? mode.strict data = some fault) :
    kind.check inner mode [] data = .error (.failed (.crashed fault)) := by
  obtain ⟨strict, inline⟩ := mode
  have ht {i : Int} (h : Decimal.fault? i = some fault) :
      (Value.int i).toText = .error (.crashed fault) := by
    rw [Value.toText_int, Decimal.ofInt?_eq_crashed.mpr h]
    rfl
  unfold fault? at hf
  dsimp only at hf
  split at hf
  · exact int_fails rfl rfl rfl hf
  · rename_i i
    split at hf
    · rename_i hi
      have hi := Double.ofInt?_eq_none.mpr hi
      cases hf
      have hr : Check.Loose.readFloat (.int i) = .error (.crashed .overflow) := by
        rw [Check.Loose.readFloat, Loose.toFloat?, Double.ofIntChecked_of_none hi]
        · rfl
        · simp
      have hb (name : String) : Bound.ofFloat (Params.get [] name) name (inline || !false) =
          .ok none := rfl
      have hc : Check.clamps [] = .ok true := rfl
      rw [check, Check.float, hb, hb, hc]
      simp only [Bool.false_eq_true, if_false, hr]
      rfl
    · cases hf
  · rename_i i
    have hr : Check.readText ⟨false, inline⟩ (.int i) = .error (.failed (.crashed fault)) := by
      unfold Check.readText
      dsimp only
      rw [Decimal.ofInt?_eq_crashed.mpr hf]
      rfl
    have hl : Limits.ofParams [] = .ok ⟨none, none⟩ := rfl
    have hc : Params.list [] "charset" = .ok none := rfl
    rw [check, Check.string, hl, hc, hr]
    rfl
  · have hl : Limits.ofParams [] = .ok ⟨none, none⟩ := rfl
    unfold check Check.slug
    dsimp only
    rw [hl, ht hf]
    rfl
  · show Check.ean ⟨strict, inline⟩ [] (.int _) = _
    unfold Check.ean
    dsimp only
    rw [ht hf]
    rfl
  · show Check.phone ⟨strict, inline⟩ [] (.int _) = _
    unfold Check.phone
    dsimp only
    rw [ht hf]
    rfl
  · cases hf

/-- Without parameters, a check goes wrong exactly where that is known of its kind. -/
theorem check_nil_crashed_iff {kind : Kind}
    (hc : ∀ v, FailsAs (Failure.OnlyFault none) (inner.content [("type", .text "binary")] v)) :
    kind.check inner mode [] data = .error (.failed (.crashed fault)) ↔
      kind.fault? mode.strict data = some fault :=
  ⟨fun h => kind.check_nil_stops hc _ h fault rfl, check_nil_of_fault?⟩

end Kind
end Covenant
