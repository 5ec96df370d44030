import Covenant.Proofs.Final

/-! Where the data is to blame, a check refuses it and leaves the rest to a default. Only the parts
of a record are rejected past its default. -/

namespace Covenant
namespace Check

theorem withinCharsets_final (mode : Mode) (charsets : List Value) (cs : List Char) :
    StopsAs Failure.IsFinal (withinCharsets mode charsets cs) := by
  refine .lift_bind (charsetNames_final charsets) fun names => ?_
  split
  · exact .ok _
  · refine .lift_bind (fitsSome_crashes _ _).final fun fits => .ite (.ok _) (.ite ?_ (.ok _))
    exact .lift_bind (charsetList_crashes _).final fun _ => .refuse _

theorem enum_final : StopsAs Failure.IsFinal (enum mode params data) :=
  .lift_bind (params.list_fails Failure.malformed_isFinal _) fun _ =>
    .lift_bind (require_fails Failure.malformed_isFinal _ _) fun _ =>
      .ite (.accept _) (.lift_bind data.toText_crashes.final fun _ => .refuse _)

theorem element_final (inner : Delegate) (index : Nat) (contract item : Value) :
    StopsAs Failure.IsFinal (element inner index contract item) := by
  unfold element
  split
  · exact .ok _
  · exact .refuse _
  · rename_i f hne _
    rw [StopsAs.failed_iff]
    intro m he
    exact hne m he

theorem uniform_final (inner : Delegate) (contract : Value) (index : Nat) (items : List Value) :
    StopsAs Failure.IsFinal (uniform inner contract index items) := by
  induction items generalizing index with
  | nil => exact .ok _
  | cons item items ih => exact .bind (element_final _ _ _ _) fun _ => .bind (ih _) fun _ => .ok _

theorem positional_final (inner : Delegate) (strict : Bool) (index : Nat)
    (items contracts : List Value) :
    StopsAs Failure.IsFinal (positional inner strict index items contracts) := by
  induction items generalizing index contracts with
  | nil =>
    cases contracts with
    | nil => exact .ok _
    | cons contract contracts => exact .ite (.refuse _) (.ok _)
  | cons item items ih =>
    cases contracts with
    | nil => exact .ite (.refuse _) (.ok _)
    | cons contract contracts =>
      exact .ite (.ok _) (.bind (element_final _ _ _ _) fun _ => .bind (ih _ _) fun _ => .ok _)

variable {inner : Delegate}

theorem list_final : StopsAs Failure.IsFinal (list inner mode params data) := by
  refine .lift_bind (Limits.ofParams_final _) fun limits => ?_
  split
  · exact .refuse _
  · refine .ite (.refuse _) (.ite (.refuse _) (.ite ?_ ?_))
    · exact .lift_bind (positions_final _) fun _ => .bind (positional_final _ _ _ _ _) fun _ =>
        .accept _
    · split
      · exact .accept _
      · exact .bind (uniform_final _ _ _ _) fun _ => .accept _

theorem json_final : StopsAs Failure.IsFinal (json inner mode params data) := by
  refine .lift_bind (Limits.ofParams_final _) fun limits => ?_
  split
  · refine .ite (.refuse _) (.ite (.refuse _) ?_)
    split
    · exact .refuse _
    · refine .ite (.ok _) ?_
      split
      · exact .ite (.ok _) (.lift_bind (JsonText.write_crashes _ _).final fun _ => .ok _)
      · exact .refuse _
      · rename_i f hne _
        rw [StopsAs.failed_iff]
        intro m he
        exact hne m he
  · exact .refuse _

theorem inCharset_final (mode : Mode) (charsets : List Value) (names : List String)
    (content : Content) (bytes : List UInt8) :
    StopsAs Failure.IsFinal (inCharset mode charsets names content bytes) := by
  unfold inCharset
  split
  · exact .ok _
  · refine .ite (.ok _) (.ite ?_ ?_)
    · exact .lift_bind (charsetList_crashes _).final fun _ => .refuse _
    · exact .lift_bind (Codec.encode_crashes _ _).final fun _ => .ok _

namespace Temporal

theorem bound_final (t : Temporal) (value format : Value) (label : String) :
    FailsAs Failure.IsFinal (t.bound value format label) := by
  refine .ite (.ok _) ?_
  dsimp only
  split
  · refine .bind (readExact_crashes _ _).final fun m => ?_
    split <;> simp
  · refine .bind (.ok _) fun m => ?_
    split <;> simp

theorem check_final (t : Temporal) : StopsAs Failure.IsFinal (t.check mode params data) :=
  check_stops t (bound_final _ _ _ _) (bound_final _ _ _ _) (readData_crashes _ _ _).final
    (formatChars_crashes _).final

end Temporal
end Check

theorem Kind.check_final {inner : Check.Delegate} (h : kind ≠ assoc) :
    StopsAs Failure.IsFinal (kind.check inner mode params data) := by
  have hP := Failure.malformed_isFinal
  cases kind with
  | null => exact Check.null_stops hP
  | bool => exact Check.bool_stops hP
  | int => exact Check.int_stops hP (Bound.ofInt_final _ _ _) (Bound.ofInt_final _ _ _) fun _ =>
      (Check.readInt_crashes _).final
  | float =>
    exact Check.float_stops hP (Bound.ofFloat_final _ _ _) (Bound.ofFloat_final _ _ _) fun _ =>
      (Check.readFloat_crashes _).final
  | string =>
    exact Check.string_stops hP (Limits.ofParams_final _)
      (fun _ i _ => (Decimal.ofInt?_crashes i).final)
      (fun _ _ cs => Check.withinCharsets_final _ _ cs) params.maskAllows_final
  | email =>
    exact @Check.email_stops _ params mode data (Limits.ofParams_final _) params.maskAllows_final
  | url =>
    exact Check.url_stops (Limits.ofParams_final _) (Check.Url.allowed_final _)
      params.maskAllows_final
  | enum => exact @Check.enum_final mode params data
  | list => exact Check.list_final
  | assoc => exact absurd rfl h
  | json => exact @Check.json_final inner mode params data
  | date => exact Check.Temporal.check_final _
  | time => exact Check.Temporal.check_final _
  | datetime => exact Check.Temporal.check_final _
  | uuid => exact @Check.uuid_stops _ params mode data
  | isbn => exact @Check.isbn_stops _ params mode data
  | ean => exact @Check.ean_stops _ params mode data fun _ _ => data.toText_crashes.final
  | ip => exact @Check.ip_stops _ params mode data (Check.ipVersion_final _)
  | mac => exact @Check.mac_stops _ params mode data
  | slug =>
    exact Check.slug_stops (Limits.ofParams_final _) (fun _ _ _ => data.toText_crashes.final)
      params.maskAllows_final
  | base64 =>
    exact Check.base64_stops hP (Limits.ofParams_final _) fun _ _ _ _ _ hf => hf
  | binary =>
    exact Check.binary_stops hP (Limits.ofParams_final _) (fun _ _ => Check.charsetNames_final _)
      (fun _ _ _ => (Check.mimeAllowed_crashes _ _).final)
      fun _ _ _ _ _ _ => Check.inCharset_final _ _ _ _ _
  | color => exact @Check.color_stops _ params mode data
  | geo => exact Check.Geo.check_stops hP
  | phone => exact @Check.phone_stops _ params mode data fun _ _ => data.toText_crashes.final
  | hash =>
    exact @Check.hash_stops _ params mode data hP (fun _ _ => Check.Hash.chooseAll_final _)
      (Check.Hash.sourceBytes_crashes _).final

end Covenant
