import Covenant.Proofs.Check.Parts
import Covenant.Proofs.Filter.Fault

/-! A malformed contract of one type is found whatever the data: what a check reads of its contract,
it reads before the data. -/

namespace Covenant

/-- A failure that does not blame the contract. -/
def Failure.SparesContract (f : Failure) : Prop := ∀ m, f ≠ .malformed m

@[simp]
theorem Failure.crashed_sparesContract (fault : Fault) : (crashed fault).SparesContract := by
  intro m h
  cases h

theorem FailsAs.spares {x : Except Failure α} (h : FailsAs Failure.IsCrash x) :
    FailsAs Failure.SparesContract x := by
  refine h.mono fun f hf => ?_
  obtain ⟨fault, rfl⟩ := hf
  exact Failure.crashed_sparesContract fault

namespace Check

/-- Whether the check finds the contract malformed, and why, is the same for all data. -/
def BlamesAlike (check : Value → Except Stop α) : Prop :=
  ∀ a b m, check a = .error (.failed (.malformed m)) → check b = .error (.failed (.malformed m))

namespace BlamesAlike

theorem of_spares {check : Value → Except Stop α}
    (h : ∀ data, StopsAs Failure.SparesContract (check data)) : BlamesAlike check := by
  intro a b m ha
  exact absurd rfl (h a _ ha m)

/-- The common shape: a step on the contract alone, then the rest. -/
theorem bind {x : Except Stop β} {rest : β → Value → Except Stop α}
    (h : ∀ b, BlamesAlike (rest b)) : BlamesAlike fun data => x >>= fun b => rest b data := by
  intro a b m ha
  rcases bind_eq_error.mp ha with hx | ⟨c, hx, ha⟩
  · exact bind_eq_error.mpr (.inl hx)
  · exact bind_eq_error.mpr (.inr ⟨c, hx, h c a b m ha⟩)

/-- Where some data is refused, the contract is well-formed. -/
theorem spares {check : Value → Except Stop α} (h : BlamesAlike check)
    (hr : check a = .error (.refused m)) (data : Value) :
    StopsAs Failure.SparesContract (check data) := by
  rintro f hf m' rfl
  have ha := h data a m' hf
  rw [hr] at ha
  cases ha

end BlamesAlike

variable {mode : Mode} {params : Params}

theorem bool_blames : BlamesAlike (bool mode params) := by
  unfold bool
  split
  · refine .of_spares fun data => ?_
    split
    · exact .accept _
    · exact .refuse _
    · exact .ite (.refuse _) (.accept _)
  · exact .bind fun expected => .of_spares fun data => boolConst_stops _ _ _

theorem int_blames : BlamesAlike (int mode params) := by
  refine .bind fun least => .bind fun most => .bind fun clamp => .of_spares fun data => ?_
  refine .lift_bind (.ite (.ok _) (readInt_crashes _).spares) fun read => ?_
  split
  · exact .refuse _
  · exact .ite (.ite (.refuse _) (.accept _)) (.accept _)

theorem float_blames : BlamesAlike (float mode params) := by
  refine .bind fun least => .bind fun most => .bind fun clamp => .of_spares fun data => ?_
  refine .lift_bind (.ite (.ok _) (readFloat_crashes _).spares) fun read => ?_
  split
  · exact .refuse _
  · exact .ite (.ite (.refuse _) (.accept _)) (.accept _)

theorem enum_blames : BlamesAlike (enum mode params) := by
  refine .bind fun values => .bind fun _ => .of_spares fun data => ?_
  exact .ite (.accept _) (.lift_bind data.toText_crashes.spares fun _ => .refuse _)

theorem Temporal.check_blames (t : Temporal) : BlamesAlike (t.check mode params) := by
  refine .bind fun least => .bind fun most => .of_spares fun data => ?_
  have hu (format : Value) (m : Moment) :
      StopsAs Failure.SparesContract (t.upTo mode most format m) :=
    upTo_stops t (formatChars_crashes format).spares
  split
  case h_4 => exact .refuse _
  all_goals
    refine .lift_bind (readData_crashes _ _ _).spares fun m => ?_
    split
    · exact .refuse _
    · split
      · exact .ite (.ite (.refuse _) (hu _ _)) (hu _ _)
      · exact hu _ _

theorem hash_blames : BlamesAlike (hash mode params) := by
  refine .bind fun names => .bind fun _ => .bind fun choices => .of_spares fun data => ?_
  split
  · refine .ite (.refuse _) (.ite (.lift_bind (Hash.sourceBytes_crashes _).spares fun source => ?_)
      (.refuse _))
    split
    · exact .ok _
    · exact .refuse _
  · exact .refuse _

theorem ip_blames : BlamesAlike (ip mode params) := by
  refine .bind fun wanted => .of_spares fun data => ?_
  dsimp only
  split
  · split
    · exact .ite (.ok _) (.refuse _)
    · exact .refuse _
  · exact .refuse _

theorem Geo.check_blames : BlamesAlike (check mode params) := by
  refine .bind fun southWest => .bind fun northEast => .of_spares fun data => ?_
  split
  · exact .refuse _
  · split
    · exact .ite (.ite (.refuse _) upTo_stops) upTo_stops
    · exact upTo_stops

theorem inCharset_spares (mode : Mode) (charsets : List Value) (names : List String)
    (content : Content) (bytes : List UInt8) :
    StopsAs Failure.SparesContract (inCharset mode charsets names content bytes) := by
  unfold inCharset
  split
  · exact .ok _
  · refine .ite (.ok _) (.ite ?_ ?_)
    · exact .lift_bind (charsetList_crashes _).spares fun _ => .refuse _
    · exact .lift_bind (Codec.encode_crashes _ _).spares fun _ => .ok _

theorem binary_blames : BlamesAlike (binary mode params) := by
  refine .bind fun limits => .bind fun mimes => .bind fun charsets => .bind fun names =>
    .of_spares fun data => ?_
  split
  · exact .refuse _
  · exact .refuse _
  · refine .ite (.refuse _) (.ite (.refuse _) ?_)
    refine .ite (.bind (.ok _) fun allowed => ?_)
      (.lift_bind (mimeAllowed_crashes _ _).spares fun allowed => ?_)
    all_goals
      exact .ite (.refuse _) (.bind (inCharset_spares _ _ _ _ _) fun result => .ok _)

theorem base64_blames
    (h : ∀ mimes bytes, FailsAs Failure.SparesContract (content (contentParams mimes) bytes)) :
    BlamesAlike (base64 content mode params) := by
  refine .bind fun limits => .bind fun mimes => .of_spares fun data => ?_
  split
  · split
    · exact .refuse _
    · refine .ite (.refuse _) ?_
      dsimp only
      split
      · exact .ok _
      · exact .refuse _
      · rename_i f _ he
        exact StopsAs.failed_iff.mpr (h _ _ f he)
  · exact .refuse _

end Check

theorem Check.settle_eq_malformed :
    settle x = .error (.malformed m) ↔ x = .error (.failed (.malformed m)) := by
  cases x with
  | ok r => simp [settle]
  | error s => cases s <;> simp [settle]

variable {instances : List Instance} {nested : Filter.Pass} {mode : Mode} {params : Params}

/-- The content of base64 is held to a contract that is well-formed. -/
theorem Filter.content_spares (inline : Bool) (mimes : List Value) (bytes : Value) :
    FailsAs Failure.SparesContract (content ⟨Registry.builtin, true, instances⟩ nested inline
      (Check.contentParams mimes) bytes) := by
  have hk : (⟨Registry.builtin, true, instances⟩ : Registry).kind "binary" = .ok .binary :=
    Registry.kind_of_byToken (by decide)
  have hr : Check.binary ⟨false, inline⟩ (Check.contentParams mimes) .null =
      refuse "Data is not a binary string." := by
    unfold Check.contentParams
    split
    · rfl
    · rfl
  rintro f hf m rfl
  simp only [content, hk, bind, Except.bind,
    Kind.validate_without_default (Check.get_default_contentParams mimes),
    Check.settle_eq_malformed] at hf
  exact Check.binary_blames.spares hr bytes _ hf m rfl

namespace Kind

theorem check_blames {kind : Kind} (hk : kind ∈ [bool, int, float, enum, date, time, datetime,
      hash, ip, geo, binary, base64]) :
    Check.BlamesAlike (kind.check
      (Filter.delegate ⟨Registry.builtin, true, instances⟩ nested mode) mode params) := by
  simp only [List.mem_cons, List.not_mem_nil, or_false] at hk
  rcases hk with rfl | rfl | rfl | rfl | rfl | rfl | rfl | rfl | rfl | rfl | rfl | rfl
  · exact Check.bool_blames
  · exact Check.int_blames
  · exact Check.float_blames
  · exact @Check.enum_blames mode params
  · exact Check.Temporal.check_blames _
  · exact Check.Temporal.check_blames _
  · exact Check.Temporal.check_blames _
  · exact @Check.hash_blames mode params
  · exact @Check.ip_blames mode params
  · exact Check.Geo.check_blames
  · exact Check.binary_blames
  · exact Check.base64_blames (Filter.content_spares _)

/-- These kinds find a malformed contract whatever the data, and say the same of it. -/
theorem validate_malformed_iff {kind : Kind} (hk : kind ∈ [bool, int, float, enum, date, time,
      datetime, hash, ip, geo, binary, base64])
    (hd : params.get "default" = .null) (a b : Value) (m : String) :
    kind.validate (Filter.delegate ⟨Registry.builtin, true, instances⟩ nested mode) mode params
        a = .error (.malformed m) ↔
      kind.validate (Filter.delegate ⟨Registry.builtin, true, instances⟩ nested mode) mode params
        b = .error (.malformed m) := by
  rw [validate_without_default hd, validate_without_default hd, Check.settle_eq_malformed,
    Check.settle_eq_malformed]
  exact ⟨check_blames hk a b m, check_blames hk b a m⟩

/-- A number is no list of media types, whether there is content to look at or not. -/
theorem validate_base64_of_number :
    Kind.base64.validate
        (Filter.delegate .initial (fun _ _ _ => .error (.malformed "")) ⟨true, false⟩)
        ⟨true, false⟩ [("mime", .int 5)] (.text "QQ==") =
      .error (.malformed "Bad contract 'mime' parameter.") :=
  (validate_malformed_iff (by decide) rfl (.text "QQ==") .null _).mpr (by rfl)

end Kind
end Covenant
