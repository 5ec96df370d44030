import Covenant.Proofs.Check.Stops

/-! Reading parameters and converting values may fail, but only a check rejects data. -/

namespace Covenant

/-- Stated of the function, so that no step looks inside the rounding of an integer. -/
theorem Double.ofIntChecked_eq : ofIntChecked = fun i => match ofInt? i with
    | some x => .ok x
    | none => .error (.crashed .overflow) := by
  rfl

theorem Double.ofIntChecked_of_some (h : ofInt? i = some x) : ofIntChecked i = .ok x := by
  simp only [ofIntChecked_eq, h]

theorem Double.ofIntChecked_of_none (h : ofInt? i = none) :
    ofIntChecked i = .error (.crashed .overflow) := by
  simp only [ofIntChecked_eq, h]

theorem Double.truncate_crashes (x : Double) : FailsAs Failure.IsCrash x.truncate := by
  unfold truncate
  split
  · exact .ok _
  · exact FailsAs.error_iff.mpr ⟨_, rfl⟩

theorem Double.ofIntChecked_crashes (i : Int) : FailsAs Failure.IsCrash (ofIntChecked i) := by
  cases h : ofInt? i with
  | none =>
    rw [ofIntChecked_of_none h]
    exact FailsAs.error_iff.mpr ⟨_, rfl⟩
  | some x =>
    rw [ofIntChecked_of_some h]
    exact .ok _

theorem Decimal.ofInt?_crashes (i : Int) : FailsAs Failure.IsCrash (ofInt? i) :=
  .ite (.ok _) (FailsAs.error_iff.mpr ⟨_, rfl⟩)

namespace Value

mutual
theorem shown_crashes : (v : Value) → FailsAs Failure.IsCrash v.shown
  | null | bool _ | float _ | text _ | bytes _ | buffer _ => by simp [shown]
  | int i => by
    rw [shown]
    exact Decimal.ofInt?_crashes i
  | tuple [item] => by
    rw [shown]
    exact .bind (shown_crashes item) fun _ => .ok _
  | tuple [] => by
    rw [shown]
    · exact .bind (shownList_crashes []) fun _ => .ok _
    · simp
  | tuple (a :: b :: items) => by
    rw [shown]
    · exact .bind (shownList_crashes (a :: b :: items)) fun _ => .ok _
    · simp
  | list items | deque items => by
    rw [shown]
    exact .bind (shownList_crashes items) fun _ => .ok _
  | map entries => by
    rw [shown]
    exact .bind (shownEntries_crashes entries) fun _ => .ok _

theorem shownList_crashes : (vs : List Value) → FailsAs Failure.IsCrash (shownList vs)
  | [] => by simp [shownList]
  | v :: vs => by
    rw [shownList]
    exact .bind (shown_crashes v) fun _ => .bind (shownList_crashes vs) fun _ => .ok _

theorem shownEntries_crashes :
    (es : List (Value × Value)) → FailsAs Failure.IsCrash (shownEntries es)
  | [] => by simp [shownEntries]
  | (k, v) :: es => by
    rw [shownEntries]
    exact .bind (shown_crashes k) fun _ => .bind (shown_crashes v) fun _ =>
      .bind (shownEntries_crashes es) fun _ => .ok _
end

theorem toText_crashes (v : Value) : FailsAs Failure.IsCrash v.toText := by
  unfold toText
  split
  · exact .ok _
  · exact .map _ (shown_crashes _)

end Value

namespace Loose

theorem toFloat?_crashes (v : Value) : FailsAs Failure.IsCrash (toFloat? v) := by
  unfold toFloat?
  split
  · exact .bind (Double.ofIntChecked_crashes _) fun _ => .ok _
  · exact .ok _
  · exact .ok _
  · exact .ok _

theorem readInt?_crashes (cs : List Char) : FailsAs Failure.IsCrash (readInt? cs) := by
  unfold readInt?
  split
  · exact .ok _
  · exact .ok _
  · exact .ite (FailsAs.error_iff.mpr ⟨_, rfl⟩) (.ok _)
  · exact .ok _

theorem toInt?_crashes (v : Value) : FailsAs Failure.IsCrash (toInt? v) := by
  unfold toInt?
  split
  · exact .ok _
  · exact .ok _
  · exact readInt?_crashes _
  · exact .ok _

end Loose

namespace JsonText

theorem ofScalar?_crashes (h : ofScalar? v = some x) : FailsAs Failure.IsCrash x := by
  unfold ofScalar? at h
  split at h
  · exact Option.some.inj h ▸ .ok _
  · exact Option.some.inj h ▸ .ok _
  · exact Option.some.inj h ▸ Decimal.ofInt?_crashes _
  · exact Option.some.inj h ▸ .ok _
  · exact Option.some.inj h ▸ .ok _
  · cases h

theorem ofKey_crashes (key : Value) : FailsAs Failure.IsCrash (ofKey key) := by
  unfold ofKey
  split
  · exact .ok _
  · split
    · rename_i h
      exact .bind (ofScalar?_crashes h) fun _ => .ok _
    · exact FailsAs.error_iff.mpr ⟨_, rfl⟩

theorem ofOther_crashes (tolerant : Bool) (v : Value) :
    FailsAs Failure.IsCrash (ofOther tolerant v) := by
  refine .ite ?_ (FailsAs.error_iff.mpr ⟨_, rfl⟩)
  split
  · exact .ok _
  · exact .ok _
  · exact .bind (Value.toText_crashes _) fun _ => .ok _

mutual
theorem ofValue_crashes (tolerant : Bool) :
    (v : Value) → FailsAs Failure.IsCrash (ofValue tolerant v)
  | .list items | .tuple items => by
    rw [ofValue]
    exact .bind (ofItems_crashes tolerant items) fun _ => .ok _
  | .map entries => by
    rw [ofValue]
    exact .bind (ofEntries_crashes tolerant entries) fun _ => .ok _
  | .int i => by simpa [ofValue, ofScalar?] using Decimal.ofInt?_crashes i
  | .null | .bool _ | .float _ | .text _ => by simp [ofValue, ofScalar?]
  | .deque _ | .bytes _ | .buffer _ => by
    simpa [ofValue, ofScalar?] using ofOther_crashes tolerant _

theorem ofItems_crashes (tolerant : Bool) :
    (vs : List Value) → FailsAs Failure.IsCrash (ofItems tolerant vs)
  | [] => by simp [ofItems]
  | v :: vs => by
    rw [ofItems]
    exact .bind (ofValue_crashes tolerant v) fun _ =>
      .bind (ofItems_crashes tolerant vs) fun _ => .ok _

theorem ofEntries_crashes (tolerant : Bool) :
    (es : List (Value × Value)) → FailsAs Failure.IsCrash (ofEntries tolerant es)
  | [] => by simp [ofEntries]
  | (k, v) :: es => by
    rw [ofEntries]
    exact .bind (ofKey_crashes k) fun _ => .bind (ofValue_crashes tolerant v) fun _ =>
      .bind (ofEntries_crashes tolerant es) fun _ => .ok _
end

theorem write_crashes (tolerant : Bool) (v : Value) : FailsAs Failure.IsCrash (write tolerant v) :=
  .map _ (ofValue_crashes tolerant v)

end JsonText

theorem Codec.fits_crashes (codec : Codec) (cs : List Char) :
    FailsAs Failure.IsCrash (codec.fits cs) := by
  cases codec with
  | notText => exact FailsAs.error_iff.mpr ⟨_, rfl⟩
  | _ => exact .ok _

theorem Codec.encode_crashes (codec : Codec) (cs : List Char) :
    FailsAs Failure.IsCrash (codec.encode cs) := by
  cases codec with
  | notText => exact FailsAs.error_iff.mpr ⟨_, rfl⟩
  | _ => exact .ok _

namespace Check

theorem charsetList_crashes (charsets : List Value) :
    FailsAs Failure.IsCrash (charsetList charsets) := by
  unfold charsetList
  split
  · exact .ok _
  · exact FailsAs.error_iff.mpr ⟨_, rfl⟩

theorem fitsSome_crashes (cs : List Char) (names : List String) :
    FailsAs Failure.IsCrash (fitsSome cs names) := by
  induction names with
  | nil => exact .ok _
  | cons name rest ih => exact .bind (Codec.fits_crashes _ _) fun _ => .ite (.ok _) ih

theorem mimeAllowed_crashes (mime : String) (vs : List Value) :
    FailsAs Failure.IsCrash (mimeAllowed mime vs) := by
  fun_induction mimeAllowed mime vs with
  | case1 => exact .ok _
  | case2 => exact .ok _
  | case3 rest s accepted hs ih => exact ih
  | case4 rest data hd ih => exact ih
  | case5 => exact FailsAs.error_iff.mpr ⟨_, rfl⟩
  | case6 rest data hd ih => exact ih
  | case7 => exact FailsAs.error_iff.mpr ⟨_, rfl⟩
  | case8 => exact FailsAs.error_iff.mpr ⟨_, rfl⟩
  | case9 v rest hs hb hd hv ih => exact ih

theorem Hash.sourceBytes_crashes (source : Value) :
    FailsAs Failure.IsCrash (Hash.sourceBytes source) :=
  .ite (.bind (source.toText_crashes) fun _ => .ok _) (.ok _)

theorem readInt_crashes (data : Value) : FailsAs Failure.IsCrash (Loose.readInt data) := by
  unfold Loose.readInt
  split
  · exact .ok _
  · exact Loose.toInt?_crashes _

theorem readFloat_crashes (data : Value) : FailsAs Failure.IsCrash (Loose.readFloat data) := by
  unfold Loose.readFloat
  split
  · exact .ok _
  · exact Loose.toFloat?_crashes _

namespace Temporal

theorem formatChars_crashes (format : Value) : FailsAs Failure.IsCrash (formatChars format) := by
  unfold formatChars
  split
  · exact .ok _
  · exact FailsAs.error_iff.mpr ⟨_, rfl⟩

theorem read_crashes (format text : List Char) :
    FailsAs Failure.IsCrash (Time.read format text) := by
  unfold Time.read
  split
  · exact .ok _
  · refine .ite ?_ (FailsAs.error_iff.mpr ⟨_, rfl⟩)
    split <;> exact .ok _

theorem readExact_crashes (format : Value) (s : String) :
    FailsAs Failure.IsCrash (readExact format s) :=
  .bind (formatChars_crashes format) fun _ => read_crashes _ _

theorem readText_crashes (strict : Bool) (format : Value) (s : String) :
    FailsAs Failure.IsCrash (readText strict format s) := by
  refine .bind (formatChars_crashes format) fun cs => .bind (read_crashes _ _) fun m => ?_
  split <;> exact .ok _

theorem readData_crashes (strict : Bool) (format data : Value) :
    FailsAs Failure.IsCrash (readData strict format data) := by
  unfold readData
  split
  · refine .ite (.bind (readText_crashes _ _ _) fun m => ?_) (readText_crashes _ _ _)
    split <;> exact .ok _
  · exact .ok _

end Temporal
end Check

theorem badParameter_isFinal (name : String) : (badParameter name).IsFinal :=
  Failure.malformed_isFinal _

theorem Size.bad_final (v : Value) : FailsAs Failure.IsFinal (bad v : Except Failure α) :=
  .bind v.toText_crashes.final fun _ => FailsAs.error_iff.mpr (Failure.malformed_isFinal _)

theorem Size.ofValue_final (v : Value) : FailsAs Failure.IsFinal (ofValue v) := by
  unfold ofValue
  split
  · exact .ok _
  · split
    · exact .bind (Double.ofIntChecked_crashes _).final fun _ => .ite (bad_final _) (.ok _)
    · exact .ite (bad_final _) (.bind (Double.truncate_crashes _).final fun _ => .ok _)
    · split
      · exact .bind (Double.truncate_crashes _).final fun _ => .ok _
      · exact bad_final _
    · exact bad_final _

theorem Limits.ofParams_final (params : Params) : FailsAs Failure.IsFinal (ofParams params) :=
  .bind (Size.ofValue_final _) fun _ => .bind (Size.ofValue_final _) fun _ => .ok _

theorem Bound.number?_final (v : Value) (name : String) (convert : Bool) :
    FailsAs Failure.IsFinal (number? v name convert) := by
  unfold number?
  split
  · exact .ok _
  · split
    · exact .ok _
    · split
      · split <;> simp [badParameter_isFinal]
      · simp [badParameter_isFinal]

theorem Bound.ofInt_final (v : Value) (name : String) (convert : Bool) :
    FailsAs Failure.IsFinal (ofInt v name convert) := by
  refine .bind (number?_final v name convert) fun n => ?_
  split
  · exact .ok _
  · exact .bind (Double.truncate_crashes _).final fun _ => .ok _
  · exact .ok _

theorem Bound.ofFloat_final (v : Value) (name : String) (convert : Bool) :
    FailsAs Failure.IsFinal (ofFloat v name convert) := by
  refine .bind (number?_final v name convert) fun n => ?_
  split
  · exact .bind (Double.ofIntChecked_crashes _).final fun _ => .ok _
  · exact .ok _
  · exact .ok _

theorem Mask.search_final (mask text : String) : FailsAs Failure.IsFinal (search mask text) := by
  refine .bind ?_ fun _ => .ok _
  unfold compile
  split
  · exact .ok _
  · rename_i flaw _
    cases flaw <;> simp [badMask]

theorem Params.maskAllows_final (params : Params) (cs : List Char) :
    FailsAs Failure.IsFinal (params.maskAllows cs) := by
  unfold maskAllows
  split
  · exact .ite (.ok _) (Mask.search_final _ _)
  · exact .ite (by simp) (.ok _)

theorem Charset.canonicalName_final (name : String) :
    FailsAs Failure.IsFinal (canonicalName name) := by
  dsimp only [canonicalName]
  refine .ite (by simp) ?_
  split <;> simp

namespace Check

theorem charsetNames_final (vs : List Value) : FailsAs Failure.IsFinal (charsetNames vs) := by
  fun_induction charsetNames vs with
  | case1 => exact .ok _
  | case2 s rest hs ih => exact ih
  | case3 s rest hs ih =>
    exact .bind (Charset.canonicalName_final s) fun _ => .bind ih fun _ => .ok _
  | case4 rest data hd ih => exact ih
  | case5 => simp
  | case6 rest data hd ih => exact ih
  | case7 => simp
  | case8 => simp
  | case9 v rest hs hb hd hv ih => exact ih

theorem ipVersion_final (v : Value) : FailsAs Failure.IsFinal (ipVersion v) := by
  unfold ipVersion
  split
  · exact .ok _
  · refine .bind v.toText_crashes.final fun text => ?_
    split <;> simp

theorem Url.allowed_final (params : Params) : FailsAs Failure.IsFinal (Url.allowed params) := by
  refine .foldlM (fun found name => .bind ?_ fun texts => ?_) _ _
  · refine .bind (ListParam.ofValue_fails Failure.malformed_isFinal _ _) fun values => ?_
    split
    · exact .ok _
    · exact .bind (.mapM (fun v => .bind v.toText_crashes.final fun _ => .ok _) _) fun _ => .ok _
  · split <;> simp

theorem positions_final (values : Value) : FailsAs Failure.IsFinal (positions values) := by
  unfold positions
  split
  · refine .bind ?_ fun _ => .ok _
    unfold Record.split
    split
    · exact .ite (by simp) (.ok _)
    · simp
  · exact .ok _
  · exact .ok _
  · simp [badParameter_isFinal]

theorem Hash.chooseAll_final (vs : List Value) : FailsAs Failure.IsFinal (Hash.chooseAll vs) := by
  fun_induction Hash.chooseAll vs with
  | case1 => exact .ok _
  | case2 s rest ih =>
    refine .bind ?_ fun _ => .bind ih fun _ => .ok _
    dsimp only [Hash.choose]
    split
    · exact .ok _
    · exact .ite (by simp) (by simp)
  | case3 => simp
  | case4 => simp
  | case5 => simp

end Check
end Covenant
