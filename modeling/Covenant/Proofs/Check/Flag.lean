import Covenant.Proofs.Check.Default
import Covenant.Proofs.Check.Record
import Covenant.Proofs.Refine

/-! Flags that are given as text and as truth values, in the parameters of a contract and in the
contracts of the parts of data. -/

namespace Covenant

open List (Forall₂)

namespace Flag

/-- The parameters that are flags. -/
def names : List String := ["strict", "clamp", "const", "mandatory"]

theorem ofValue_text (h : ofWord? s = some b) (name : String) : ofValue (.text s) name = .ok b := by
  rw [ofValue, h]

end Flag

namespace Check.Field

/-- The flag that is taken off the contract of a field. -/
def flag? (key contract : Value) : Option Value :=
  match key, contract with
  | .text name, .map entries =>
    if !isWildcard key && (readName name).2 then Entries.get? entries (.text "mandatory") else none
  | _, _ => none

def withoutFlag (entries : Entries) : Entries :=
  entries.filter fun e => !e.1.equals (.text "mandatory")

end Check.Field

variable {R : Value → Value → Prop}

/-- Keys of a record whose contracts are alike. A mandatory flag counts by the truth of its value,
which is whether a text is empty. -/
inductive KeyAlike (R : Value → Value → Prop) : Value × Value → Value × Value → Prop
  | part (hf : Check.Field.flag? key c = none) (hf' : Check.Field.flag? key c' = none)
      (h : R c c') : KeyAlike R (key, c) (key, c')
  | mandatory (hf : Check.Field.flag? key (.map entries) = some flag)
      (hf' : Check.Field.flag? key (.map entries') = some flag') (ht : flag.isTrue = flag'.isTrue)
      (h : R (.map (Check.Field.withoutFlag entries)) (.map (Check.Field.withoutFlag entries'))) :
      KeyAlike R (key, .map entries) (key, .map entries')

/-- Values of a parameter that are the same, but for flags that are given as text or as the truth
value that is read from it. The elements of a list may have contracts of their own. -/
inductive ParamAlike (R : Value → Value → Prop) (listed : Bool) :
    String × Value → String × Value → Prop
  | same (p : String × Value) : ParamAlike R listed p p
  | flag (hn : name ∈ Flag.names) (h : Flag.ofWord? s = some b) :
      ParamAlike R listed (name, .text s) (name, .bool b)
  | contract (hn : name = "contract") (h : R c c') : ParamAlike R listed (name, c) (name, c')
  | keys (hn : name = "keys") (h : Forall₂ (KeyAlike R) keys keys') :
      ParamAlike R listed (name, .map keys) (name, .map keys')
  | list (hn : name = "values") (hl : listed = true) (h : Forall₂ R cs cs') :
      ParamAlike R listed (name, .list cs) (name, .list cs')
  | tuple (hn : name = "values") (hl : listed = true) (h : Forall₂ R cs cs') :
      ParamAlike R listed (name, .tuple cs) (name, .tuple cs')

/-- The same parameters, with values that are alike. -/
def Params.Alike (R : Value → Value → Prop) (listed : Bool) (p p' : Params) : Prop :=
  Forall₂ (ParamAlike R listed) p p'

/-- Contracts are taken for alike where they are the same, and else only mappings. -/
structure AlikeContracts (R : Value → Value → Prop) : Prop where
  refl : ∀ c, R c c
  mappings : ∀ c c', R c c' → c = c' ∨ ∃ e entries e' entries', c = .map (e :: entries) ∧
    c' = .map (e' :: entries')

theorem getD_alike (h : Option.Rel R c c') (hv : R v v') : R (c.getD v) (c'.getD v') := by
  cases h with
  | some h => exact h
  | none => exact hv

namespace AlikeContracts

variable (hR : AlikeContracts R) (h : R c c')
include hR h

theorem isTrue : c.isTrue = c'.isTrue := by
  rcases hR.mappings c c' h with rfl | ⟨_, _, _, _, rfl, rfl⟩ <;> rfl

theorem isNull : c.isNull = c'.isNull := by
  rcases hR.mappings c c' h with rfl | ⟨_, _, _, _, rfl, rfl⟩ <;> rfl

theorem isWildcard : Check.isWildcard c = Check.isWildcard c' := by
  rcases hR.mappings c c' h with rfl | ⟨_, _, _, _, rfl, rfl⟩ <;> rfl

/-- Blanks around a contract by position do not matter. -/
theorem trimText : R (Check.trimText c) (Check.trimText c') ∧
    (Check.trimText c).equals (.text Check.restMarker) =
      (Check.trimText c').equals (.text Check.restMarker) := by
  rcases hR.mappings c c' h with rfl | ⟨_, _, _, _, rfl, rfl⟩
  · exact ⟨hR.refl _, rfl⟩
  · exact ⟨h, rfl⟩

end AlikeContracts

namespace ParamAlike

variable {listed : Bool} {v v' : Value}

theorem name_eq (h : ParamAlike R listed e e') : e.1 = e'.1 := by
  cases h <;> rfl

theorem eq (h : ParamAlike R listed (name, v) (name, v'))
    (hn : name ∉ Flag.names ++ ["contract", "keys", "values"]) : v = v' := by
  cases h with
  | same => rfl
  | flag h => exact absurd (List.mem_append_left _ h) hn
  | contract h | keys h | list h | tuple h => exact absurd (by simp [h]) hn

theorem of_flag (h : ParamAlike R listed (name, v) (name, v')) (hn : name ∈ Flag.names) :
    v = v' ∨ ∃ s b, Flag.ofWord? s = some b ∧ v = .text s ∧ v' = .bool b := by
  have hnot : ∀ name ∈ Flag.names, name ∉ ["contract", "keys", "values"] := by decide
  have hne := hnot name hn
  cases h with
  | same => exact .inl rfl
  | flag _ h => exact .inr ⟨_, _, h, rfl, rfl⟩
  | contract h | keys h | list h | tuple h => exact absurd (by simp [h]) hne

theorem ofValue (h : ParamAlike R listed (name, v) (name, v')) (hn : name ∈ Flag.names)
    (n : String) : Flag.ofValue v n = Flag.ofValue v' n := by
  rcases h.of_flag hn with rfl | ⟨s, b, hw, rfl, rfl⟩
  · rfl
  · exact Flag.ofValue_text hw n

theorem of_contract (h : ParamAlike R listed ("contract", v) ("contract", v'))
    (hR : AlikeContracts R) : R v v' := by
  cases h with
  | same => exact hR.refl v
  | contract _ h => exact h
  | flag h | keys h | list h | tuple h => exact absurd h (by decide)

theorem of_keys (h : ParamAlike R listed ("keys", v) ("keys", v')) :
    v = v' ∨ ∃ keys keys', Forall₂ (KeyAlike R) keys keys' ∧ v = .map keys ∧ v' = .map keys' := by
  cases h with
  | same => exact .inl rfl
  | keys _ h => exact .inr ⟨_, _, h, rfl, rfl⟩
  | flag h | contract h | list h | tuple h => exact absurd h (by decide)

/-- The contracts of the elements of a list, if they are listed. -/
theorem of_values (h : ParamAlike R listed ("values", v) ("values", v')) :
    v = v' ∨ listed = true ∧ ∃ cs cs', Forall₂ R cs cs' ∧
      (v = .list cs ∧ v' = .list cs' ∨ v = .tuple cs ∧ v' = .tuple cs') := by
  cases h with
  | same => exact .inl rfl
  | flag h | contract h | keys h => exact absurd h (by decide)
  | list _ hl h => exact .inr ⟨hl, _, _, h, .inl ⟨rfl, rfl⟩⟩
  | tuple _ hl h => exact .inr ⟨hl, _, _, h, .inr ⟨rfl, rfl⟩⟩

theorem isNull (h : ParamAlike R listed e e') (hR : AlikeContracts R) :
    e.2.isNull = e'.2.isNull := by
  cases h with
  | contract _ h => exact hR.isNull h
  | _ => rfl

end ParamAlike

namespace Params.Alike

variable {listed : Bool} {p p' : Params}

theorem get? (h : Alike R listed p p') (name : String) :
    Option.Rel (fun v v' => ParamAlike R listed (name, v) (name, v')) (Named.get? p name)
      (Named.get? p' name) := by
  induction h with
  | nil => exact .none
  | @cons e e' p p' he h ih =>
    obtain ⟨n, v⟩ := e
    obtain ⟨n', v'⟩ := e'
    obtain rfl : n = n' := he.name_eq
    by_cases hn : n = name
    · subst hn
      rw [Named.get?_cons_self, Named.get?_cons_self]
      exact .some he
    · rw [Named.get?_cons_ne hn, Named.get?_cons_ne hn]
      exact ih

theorem get (h : Alike R listed p p') (name : String) :
    ParamAlike R listed (name, p.get name) (name, p'.get name) :=
  getD_alike (h.get? name) (.same _)

/-- Parameters that are neither flags nor contracts are the same. -/
theorem agreeOn (h : Alike R listed p p')
    (hn : ∀ name ∈ names, name ∉ Flag.names ++ ["contract", "keys", "values"]) :
    AgreeOn names p p' := by
  intro name hm
  have hg := h.get? name
  revert hg
  generalize Named.get? p name = v?
  generalize Named.get? p' name = v'?
  rintro (hv | _)
  · exact congrArg some (hv.eq (hn name hm))
  · rfl

theorem put (h : Alike R listed p p') (hv : ParamAlike R listed (name, v) (name, v')) :
    Alike R listed (p.put name v) (p'.put name v') := by
  induction h with
  | nil => exact .cons hv .nil
  | @cons e e' p p' he h ih =>
    obtain ⟨n, w⟩ := e
    obtain ⟨n', w'⟩ := e'
    obtain rfl : n = n' := he.name_eq
    rw [Named.put, Named.put]
    split
    · rename_i hn
      exact .cons (hn ▸ hv) h
    · exact .cons he ih

end Params.Alike

theorem KeyAlike.refl (hR : AlikeContracts R) (e : Value × Value) : KeyAlike R e e := by
  obtain ⟨key, c⟩ := e
  cases hf : Check.Field.flag? key c with
  | none => exact .part hf hf (hR.refl c)
  | some flag =>
    cases c with
    | map entries => exact .mandatory hf hf rfl (hR.refl _)
    | _ =>
      unfold Check.Field.flag? at hf
      split at hf
      · rename_i he
        cases he
      · cases hf

namespace Check

/-- Fields that are read alike. -/
inductive Field.Alike (R : Value → Value → Prop) : Field → Field → Prop
  | others (h : Option.Rel R c c') : Alike R (.others c) (.others c')
  | named (h : R c c') : Alike R (.named name mandatory c) (.named name mandatory c')

theorem Field.ofNamed_of_flag?_eq_none (hw : isWildcard (.text name) = false)
    (h : flag? (.text name) c = none) :
    ofNamed name c = .named (readName name).1 (readName name).2 c := by
  unfold ofNamed
  split
  · rename_i hn
    simp only [flag?, hw, hn, Bool.not_false, Bool.and_true, if_true] at h
    simp only [h, hn]
  · rename_i hn _
    rw [hn]

theorem Field.ofNamed_of_flag?_eq_some (h : flag? (.text name) (.map entries) = some flag) :
    isWildcard (.text name) = false ∧ ofNamed name (.map entries) =
      .named (readName name).1 flag.isTrue (.map (withoutFlag entries)) := by
  simp only [flag?] at h
  split at h
  · rename_i hn
    rw [Bool.and_eq_true, Bool.not_eq_true'] at hn
    refine ⟨hn.1, ?_⟩
    have hr : readName name = ((readName name).1, true) := by rw [← hn.2]
    unfold ofNamed
    rw [hr]
    simp only [h]
    rfl
  · cases h

end Check

/-- Keys whose contracts are alike are read as fields that are. -/
theorem KeyAlike.ofEntry (hR : AlikeContracts R) (h : KeyAlike R e e') :
    Related (Check.Field.Alike R) (Check.Field.ofEntry e.1 e.2)
      (Check.Field.ofEntry e'.1 e'.2) := by
  cases h with
  | @part key c c' hf hf' h =>
    cases key with
    | text name =>
      have hwild := hR.isWildcard h
      cases hw : Check.isWildcard (.text name) with
      | true =>
        simp only [Check.Field.ofEntry, hw, if_true, ← hwild]
        split
        · exact .ok (.others .none)
        · exact .ok (.others (.some h))
      | false =>
        simp only [Check.Field.ofEntry, hw, Bool.false_eq_true, if_false, ← hwild,
          Check.Field.ofNamed_of_flag?_eq_none hw hf, Check.Field.ofNamed_of_flag?_eq_none hw hf']
        split
        · exact .ok (.others .none)
        · exact .ok (.named h)
    | _ => exact .error _
  | @mandatory key entries flag entries' flag' hf hf' ht h =>
    cases key with
    | text name =>
      obtain ⟨hw, hn⟩ := Check.Field.ofNamed_of_flag?_eq_some hf
      obtain ⟨_, hn'⟩ := Check.Field.ofNamed_of_flag?_eq_some hf'
      simp only [Check.Field.ofEntry, hw, hn, hn', ht]
      exact .ok (.named h)
    | _ => exact .error _

end Covenant
