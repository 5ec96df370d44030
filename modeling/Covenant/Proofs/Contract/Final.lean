import Covenant.Proofs.Contract.Params
import Covenant.Proofs.Final

/-! Reading a contract may fail, but it does not reject data. -/

namespace Covenant

variable {P : Failure → Prop}

theorem Source.skip_fails (hP : ∀ m, P (.malformed m)) (chars : List Char) :
    FailsAs P (skip chars) :=
  .ite (.ok _) (FailsAs.error_iff.mpr (hP _))

/-- The compact notation is only malformed. -/
theorem Source.readParams_fails (hP : ∀ m, P (.malformed m)) (params : Params) (stage : Stage)
    (cs : List Char) : FailsAs P (readParams params stage cs) := by
  fun_induction readParams params stage cs
  case case1 => exact .bind (skip_fails hP _) fun _ => .ok _
  case case2 ih => exact .bind (skip_fails hP _) fun _ => ih
  case case3 => exact FailsAs.error_iff.mpr (hP _)
  case case6 => exact .ok _
  case case12 => exact FailsAs.error_iff.mpr (hP _)
  -- What is left goes on reading.
  all_goals
    rename_i ih
    exact ih

theorem Source.read_fails (hP : ∀ m, P (.malformed m)) (source : String) :
    FailsAs P (read source) := by
  rw [read]
  split
  · exact .ok _
  · exact readParams_fails hP _ _ _

theorem TypeExpr.read_final (spec : Value) : FailsAs Failure.IsFinal (read spec) := by
  have hbad : FailsAs Failure.IsFinal (do
      .error (.malformed ("Bad contract type " ++ String.ofList (← spec.shown) ++ ".")) :
        Except Failure String) :=
    .bind (Value.shown_crashes spec).final fun _ => FailsAs.error_iff.mpr
      (Failure.malformed_isFinal _)
  refine .bind ?_ fun source => .ite ?_ (.ite (.ok _) (.ok _))
  · unfold sourceOf
    split
    · exact .ok _
    · split
      · exact .ok _
      · exact hbad
    · split
      · exact .ok _
      · exact hbad
    · exact hbad
  · exact .bind (Value.toText_crashes spec).final fun _ => FailsAs.error_iff.mpr
      (Failure.malformed_isFinal _)

theorem Params.ofEntries_crashes (entries : Entries) :
    FailsAs Failure.IsCrash (ofEntries entries) := by
  refine .foldlM (fun params e => ?_) _ _
  split
  · exact .ok _
  · exact FailsAs.error_iff.mpr (Failure.crashed_isCrash _)
  · exact FailsAs.error_iff.mpr (Failure.crashed_isCrash _)

namespace Node

theorem paramsOf_final (contract : Value) : FailsAs Failure.IsFinal (paramsOf contract) := by
  unfold paramsOf
  split
  · exact .ok _
  · exact .ite (.ok _) (.bind (Source.read_fails Failure.malformed_isFinal _) fun _ => .ok _)
  · exact .ok _
  · exact .ok _
  · exact .ok _
  · exact .ite (.ok _) (.bind (Params.ofEntries_crashes _).final fun _ => .ok _)
  · exact .bind (Value.shown_crashes _).final fun _ => FailsAs.error_iff.mpr
      (Failure.malformed_isFinal _)

theorem ofContract_final (i : Bool) (contract : Value) :
    FailsAs Failure.IsFinal (ofContract i contract) := by
  refine .bind (paramsOf_final contract) fun params? => ?_
  split
  · exact .ok _
  · exact .ite (.ok _) (.bind (TypeExpr.read_final _) fun _ => .ok _)

/-- A mode that cannot be read is malformed. -/
theorem strict_fails (hP : ∀ m, P (.malformed m)) (node : Node) (ambient : Bool) :
    FailsAs P (node.strict ambient) := by
  unfold strict
  split
  · exact .ok _
  · exact .ok _
  · exact Flag.ofValue_fails hP _ _

end Node
end Covenant
