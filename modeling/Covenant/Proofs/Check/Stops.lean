import Covenant.Kind
import Covenant.Proofs.Outcome

/-! Where a check fails, one of its readings failed, or the contract is malformed. -/

namespace Covenant

variable {P : Failure → Prop} {params : Params} {mode : Mode} {data : Value}

theorem require_fails (hP : ∀ m, P (.malformed m)) (holds : Bool) (message : String) :
    FailsAs P (require holds message) :=
  .ite (.ok _) (FailsAs.error_iff.mpr (hP _))

theorem Flag.ofValue_fails (hP : ∀ m, P (.malformed m)) (v : Value) (name : String) :
    FailsAs P (ofValue v name) := by
  unfold ofValue
  split
  · exact .ok _
  · exact .ok _
  · split
    · exact .ok _
    · exact FailsAs.error_iff.mpr (hP _)
  · exact FailsAs.error_iff.mpr (hP _)

theorem ListParam.ofValue_fails (hP : ∀ m, P (.malformed m)) (v : Value) (name : String) :
    FailsAs P (ofValue v name) := by
  unfold ofValue
  split
  · exact .ok _
  · exact .ok _
  · exact .ok _
  · exact .ok _
  · exact FailsAs.error_iff.mpr (hP _)

theorem Params.list_fails (hP : ∀ m, P (.malformed m)) (params : Params) (name : String) :
    FailsAs P (Params.list params name) :=
  ListParam.ofValue_fails hP _ _

namespace Check

theorem null_stops (hP : ∀ m, P (.malformed m)) : StopsAs P (null mode params data) := by
  unfold null
  split
  · exact .accept _
  · exact .refuse _
  · exact .ite (.accept _) (StopsAs.failed_iff.mpr (hP _))
  · exact StopsAs.failed_iff.mpr (hP _)

theorem boolConst_stops (mode : Mode) (expected : Bool) (data : Value) :
    StopsAs P (boolConst mode expected data) :=
  .ite (.accept _) (.refuse _)

theorem bool_stops (hP : ∀ m, P (.malformed m)) : StopsAs P (bool mode params data) := by
  unfold bool
  split
  · split
    · exact .accept _
    · exact .refuse _
    · exact .ite (.refuse _) (.accept _)
  · exact .lift_bind (Flag.ofValue_fails hP _ _) fun _ => boolConst_stops _ _ _

theorem int_stops (hP : ∀ m, P (.malformed m))
    (hl : FailsAs P (Bound.ofInt (params.get "min") "min" (mode.inline || !mode.strict)))
    (hm : FailsAs P (Bound.ofInt (params.get "max") "max" (mode.inline || !mode.strict)))
    (hd : mode.strict = false → FailsAs P (Loose.readInt data)) :
    StopsAs P (int mode params data) := by
  refine .lift_bind hl fun least => .lift_bind hm fun most => .lift_bind (Flag.ofValue_fails hP _ _)
    fun clamp => .lift_bind ?_ fun read => ?_
  · split
    · exact .ok _
    · rename_i hs
      exact hd (Bool.eq_false_iff.mpr hs)
  · split
    · exact .refuse _
    · exact .ite (.ite (.refuse _) (.accept _)) (.accept _)

theorem float_stops (hP : ∀ m, P (.malformed m))
    (hl : FailsAs P (Bound.ofFloat (params.get "min") "min" (mode.inline || !mode.strict)))
    (hm : FailsAs P (Bound.ofFloat (params.get "max") "max" (mode.inline || !mode.strict)))
    (hd : mode.strict = false → FailsAs P (Loose.readFloat data)) :
    StopsAs P (float mode params data) := by
  refine .lift_bind hl fun least => .lift_bind hm fun most => .lift_bind (Flag.ofValue_fails hP _ _)
    fun clamp => .lift_bind ?_ fun read => ?_
  · split
    · exact .ok _
    · rename_i hs
      exact hd (Bool.eq_false_iff.mpr hs)
  · split
    · exact .refuse _
    · exact .ite (.ite (.refuse _) (.accept _)) (.accept _)

theorem readText_stops
    (hd : mode.strict = false → ∀ i, data = .int i → FailsAs P (Decimal.ofInt? i)) :
    StopsAs P (readText mode data) := by
  unfold readText
  split
  · exact .ok _
  · split
    · exact .refuse _
    · rename_i hs
      split
      · exact .ok _
      · exact .lift (hd (Bool.eq_false_iff.mpr hs) _ rfl)
      · exact .ok _
      · exact .refuse _

theorem string_stops (hP : ∀ m, P (.malformed m)) (hl : FailsAs P (Limits.ofParams params))
    (hd : mode.strict = false → ∀ i, data = .int i → FailsAs P (Decimal.ofInt? i))
    (hw : ∀ charsets, params.list "charset" = .ok charsets → ∀ cs,
      StopsAs P (withinCharsets mode (charsets.getD []) cs))
    (hm : ∀ cs, FailsAs P (params.maskAllows cs)) : StopsAs P (string mode params data) := by
  refine .lift_bind_of (params.list_fails hP _) fun charsets hc => .lift_bind hl fun limits =>
    .bind (readText_stops hd) fun cs => .ite (.refuse _) (.ite (.refuse _) ?_)
  exact .bind (hw charsets hc _) fun cs => .lift_bind (hm cs) fun _ => .ite (.accept _) (.refuse _)

theorem email_stops (hl : FailsAs P (Limits.ofParams params))
    (hm : ∀ cs, FailsAs P (params.maskAllows cs)) : StopsAs P (email mode params data) := by
  refine .lift_bind hl fun limits => ?_
  split
  · split
    · refine .ite (.refuse _) (.lift_bind (hm _) fun _ => .ite (.refuse _) ?_)
      exact .ite (.refuse _) (.ite (.refuse _) (.accept _))
    · exact .refuse _
  · exact .refuse _

theorem url_stops (hl : FailsAs P (Limits.ofParams params)) (ha : FailsAs P (Url.allowed params))
    (hm : ∀ cs, FailsAs P (params.maskAllows cs)) : StopsAs P (url mode params data) := by
  refine .lift_bind hl fun limits => .lift_bind ha fun allowed => ?_
  split
  · refine .ite (.refuse _) (.ite (.refuse _) ?_)
    refine .lift_bind (hm _) fun _ => .ite (.refuse _) (.ite (.refuse _) ?_)
    split
    · exact .refuse _
    · dsimp only
      split
      · exact .refuse _
      · exact .ok _
  · exact .refuse _

theorem ip_stops (hv : FailsAs P (ipVersion (params.get "version"))) :
    StopsAs P (ip mode params data) := by
  refine .lift_bind hv fun wanted => ?_
  dsimp only
  split
  · split
    · exact .ite (.ok _) (.refuse _)
    · exact .refuse _
  · exact .refuse _

theorem mac_stops : StopsAs P (mac mode params data) := by
  unfold mac
  split
  · exact .ite (.accept _) (.refuse _)
  · exact .refuse _

theorem uuid_stops : StopsAs P (uuid mode params data) := by
  unfold uuid
  split
  · refine .ite (.refuse _) ?_
    split
    · exact .ok _
    · exact .refuse _
  · exact .refuse _

theorem isbn_stops : StopsAs P (isbn mode params data) := by
  unfold isbn
  split
  · refine .ite (.ite (.accept _) (.refuse _)) (.ite (.ite (.accept _) (.refuse _)) (.refuse _))
  · exact .refuse _

theorem hash_stops (hP : ∀ m, P (.malformed m))
    (hc : ∀ names, params.list "algo" = .ok names → FailsAs P (Hash.chooseAll (names.getD [])))
    (hs : FailsAs P (Hash.sourceBytes (params.get "source"))) :
    StopsAs P (hash mode params data) := by
  refine .lift_bind_of (params.list_fails hP _) fun names hnames =>
    .lift_bind (require_fails hP _ _) fun _ => .lift_bind (hc names hnames) fun choices => ?_
  split
  · refine .ite (.refuse _) (.ite (.lift_bind hs fun source => ?_) (.refuse _))
    split
    · exact .ok _
    · exact .refuse _
  · exact .refuse _

theorem color_stops : StopsAs P (color mode params data) := by
  unfold color
  split
  · exact .ite (.accept _) (.refuse _)
  · exact .refuse _

theorem ean_stops (hd : ∀ i, data = .int i → FailsAs P data.toText) :
    StopsAs P (ean mode params data) := by
  unfold ean
  split
  · exact .lift_bind (.ok _) fun _ => .ite (.accept _) (.refuse _)
  · exact .lift_bind (hd _ rfl) fun _ => .ite (.accept _) (.refuse _)
  · exact .refuse _

theorem phone_stops (hd : ∀ i, data = .int i → FailsAs P data.toText) :
    StopsAs P (phone mode params data) := by
  unfold phone
  split
  · exact .lift_bind (.ok _) fun _ => .ite (.ok _) (.refuse _)
  · exact .lift_bind (hd _ rfl) fun _ => .ite (.ok _) (.refuse _)
  · exact .lift_bind (.map _ (.ok _)) fun _ => .ite (.ok _) (.refuse _)
  · exact .refuse _

theorem slug_stops (hl : FailsAs P (Limits.ofParams params))
    (hd : mode.strict = false → ∀ i, data = .int i → FailsAs P data.toText)
    (hm : ∀ cs, FailsAs P (params.maskAllows cs)) : StopsAs P (slug mode params data) := by
  refine .lift_bind hl fun limits => ?_
  extract_lets rest
  have hrest (text : String) : StopsAs P (rest text) :=
    .ite (.refuse _) (.ite (.refuse _) (.lift_bind (hm _) fun _ =>
      .ite (.refuse _) (.ite (.ok _) (.refuse _))))
  split
  · exact .bind (.pure _) hrest
  · split
    · exact .bind (.refuse _) hrest
    · rename_i hs
      refine .lift_bind ?_ hrest
      simp only [Bool.or_eq_true, not_or, Bool.not_eq_true, Bool.not_eq_false'] at hs
      cases data with
      | int i => exact hd hs.1 i rfl
      | float x => exact .map _ (.ok _)
      | _ => cases hs.2

theorem binary_stops (hP : ∀ m, P (.malformed m)) (hl : FailsAs P (Limits.ofParams params))
    (hn : ∀ charsets, params.list "charset" = .ok charsets →
      FailsAs P (charsetNames (charsets.getD [])))
    (ha : ∀ mimes, params.list "mime" = .ok mimes → ∀ mime,
      FailsAs P (mimeAllowed mime (mimes.getD [])))
    (hc : ∀ charsets, params.list "charset" = .ok charsets → ∀ names,
      charsetNames (charsets.getD []) = .ok names → ∀ content bytes,
      StopsAs P (inCharset mode (charsets.getD []) names content bytes)) :
    StopsAs P (binary mode params data) := by
  refine .lift_bind hl fun limits => .lift_bind_of (params.list_fails hP _) fun mimes hmimes =>
    .lift_bind_of (params.list_fails hP _) fun charsets hcharsets =>
      .lift_bind_of (hn charsets hcharsets) fun names hnames => ?_
  split
  · exact .refuse _
  · exact .refuse _
  · refine .ite (.refuse _) (.ite (.refuse _) ?_)
    refine .ite (.bind (.ok _) fun allowed => ?_) (.lift_bind (ha mimes hmimes _) fun allowed => ?_)
    all_goals
      exact .ite (.refuse _) (.bind (hc charsets hcharsets names hnames _ _) fun result => .ok _)

theorem base64_stops (hP : ∀ m, P (.malformed m)) (hl : FailsAs P (Limits.ofParams params))
    (hc : ∀ mimes, params.list "mime" = .ok mimes → ∀ v f,
      content (if (mimes.getD []).isEmpty then [("type", .text "binary")]
        else [("type", .text "binary"), ("mime", .list (mimes.getD []))]) v = .error f →
      f.IsFinal → P f) :
    StopsAs P (base64 content mode params data) := by
  refine .lift_bind hl fun limits => .lift_bind_of (params.list_fails hP _) fun mimes hmimes => ?_
  split
  · split
    · exact .refuse _
    · refine .ite (.refuse _) ?_
      dsimp only
      split
      · exact .ok _
      · exact .refuse _
      · rename_i f hne he
        exact StopsAs.failed_iff.mpr (hc mimes hmimes _ f he hne)
  · exact .refuse _

namespace Geo

theorem corner_fails (hP : ∀ m, P (.malformed m)) (params : Params) (name : String) :
    FailsAs P (corner params name) := by
  dsimp only [corner]
  refine .ite (.ok _) ?_
  split
  · exact .ok _
  · exact FailsAs.error_iff.mpr (hP _)

theorem upTo_stops : StopsAs P (upTo mode northEast p) := by
  unfold upTo
  split
  · exact .ite (.ite (.refuse _) (.ok _)) (.ok _)
  · exact .ok _

theorem check_stops (hP : ∀ m, P (.malformed m)) : StopsAs P (check mode params data) := by
  refine .lift_bind (corner_fails hP _ _) fun southWest => .lift_bind (corner_fails hP _ _)
    fun northEast => ?_
  split
  · exact .refuse _
  · split
    · exact .ite (.ite (.refuse _) upTo_stops) upTo_stops
    · exact upTo_stops

end Geo

namespace Temporal

theorem upTo_stops {format : Value} (t : Temporal) (hf : FailsAs P (formatChars format)) :
    StopsAs P (t.upTo mode most format m) := by
  have hd (m : Moment) : StopsAs P (finish format m) := .lift_bind hf fun _ => .ok _
  unfold upTo
  split
  · exact .ite (.ite (.refuse _) (hd _)) (hd _)
  · exact hd _

theorem check_stops (t : Temporal)
    (hl : FailsAs P (t.bound (params.get "min") (formatOr (params.get "inFormat")
      (formatOr (params.get "format") (.text t.format))) "Min"))
    (hm : FailsAs P (t.bound (params.get "max") (formatOr (params.get "inFormat")
      (formatOr (params.get "format") (.text t.format))) "Max"))
    (hd : FailsAs P (readData mode.strict (formatOr (params.get "inFormat")
      (formatOr (params.get "format") (.text t.format))) data))
    (hf : FailsAs P (formatChars (formatOr (params.get "outFormat")
      (formatOr (params.get "format") (.text t.format))))) :
    StopsAs P (t.check mode params data) := by
  refine .lift_bind hl fun least => .lift_bind hm fun most => ?_
  split
  case h_4 => exact .refuse _
  all_goals
    refine .lift_bind hd fun m => ?_
    split
    · exact .refuse _
    · split
      · exact .ite (.ite (.refuse _) (upTo_stops t hf)) (upTo_stops t hf)
      · exact upTo_stops t hf

end Temporal
end Check
end Covenant
