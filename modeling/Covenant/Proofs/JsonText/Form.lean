import Covenant.Proofs.JsonText.Number
import Covenant.Proofs.Outcome

/-! The data that JSON has for a value. -/

namespace Covenant

namespace Value

mutual
/-- Whether all numbers in data are finite, keys apart. -/
def isFinite : Value → Bool
  | .float x => x.isFinite
  | .list items | .tuple items => allFinite items
  | .map entries => entriesFinite entries
  | _ => true

def allFinite : List Value → Bool
  | [] => true
  | item :: rest => isFinite item && allFinite rest

def entriesFinite : List (Value × Value) → Bool
  | [] => true
  | (_, v) :: rest => isFinite v && entriesFinite rest
end

theorem allFinite_eq (items : List Value) : allFinite items = items.all isFinite := by
  induction items with
  | nil => rfl
  | cons item items ih => rw [allFinite, ih, List.all_cons]

theorem entriesFinite_eq (entries : List (Value × Value)) :
    entriesFinite entries = entries.all (·.2.isFinite) := by
  induction entries with
  | nil => rfl
  | cons e entries ih => rw [entriesFinite, ih, List.all_cons]

end Value

namespace JsonText

open Decimal (digitChar figures signText Written)

/-- The name that a key is written as. -/
def keyName : Value → String
  | .text s => s
  | key =>
    match ofScalar? key with
    | some (.ok cs) => String.ofList cs
    | _ => ""

mutual
/-- The data that the text of a value stands for: lists for tuples, names for keys, and texts for
what JSON has no form for. -/
def form : Value → Value
  | .list items | .tuple items => .list (forms items)
  | .map entries => .map (Entries.ofList (entryForms entries))
  | .bytes data | .buffer data => .text (String.ofList (Base64.encode data))
  | .deque items => ((Value.deque items).toText.toOption.map Value.text).getD .null
  | v => v

def forms : List Value → List Value
  | [] => []
  | item :: rest => form item :: forms rest

def entryForms : List (Value × Value) → List (Value × Value)
  | [] => []
  | (k, v) :: rest => (.text (keyName k), form v) :: entryForms rest
end

theorem forms_eq_map (items : List Value) : forms items = items.map form := by
  induction items with
  | nil => rfl
  | cons item items ih => rw [forms, ih, List.map_cons]

theorem entryForms_eq_map (entries : List (Value × Value)) :
    entryForms entries = entries.map fun e => (.text (keyName e.1), form e.2) := by
  induction entries with
  | nil => rfl
  | cons e entries ih => rw [entryForms, ih, List.map_cons]

section Keys

/-- Characters that are written as they are. -/
def Unescaped (cs : List Char) : Prop := ∀ c ∈ cs, escape c = [c]

theorem Unescaped.quote_eq (h : Unescaped cs) : quote cs = '"' :: cs ++ ['"'] := by
  rw [quote, List.flatMap_congr h, List.flatMap_singleton']

theorem unescaped_append : Unescaped (cs ++ ds) ↔ Unescaped cs ∧ Unescaped ds :=
  List.forall_mem_append

theorem unescaped_digits {ds : List Nat} (h : ∀ d ∈ ds, d < 10) : Unescaped (ds.map digitChar) := by
  have hd : ∀ d < 10, escape (digitChar d) = [digitChar d] := by decide
  intro c hc
  obtain ⟨d, hm, rfl⟩ := List.mem_map.mp hc
  exact hd d (h d hm)

theorem unescaped_signText (negative : Bool) : Unescaped (signText negative) := by
  cases negative <;> simp [Unescaped, signText, escape]

theorem unescaped_text {w : Written} (h : w.IsFloat) : Unescaped w.text := by
  obtain ⟨hwhole, hfraction⟩ := List.forall_mem_append.mp h.digits
  refine unescaped_append.mpr ⟨unescaped_digits hwhole, unescaped_append.mpr ⟨?_, ?_⟩⟩
  · rw [Written.fractionText]
    split
    · exact List.forall_mem_nil _
    · exact List.forall_mem_cons.mpr ⟨by decide, unescaped_digits hfraction⟩
  · rw [Written.exponentText]
    split
    · exact List.forall_mem_nil _
    · rename_i e _
      have hs : escape (if e < 0 then '-' else '+') = [if e < 0 then '-' else '+'] := by
        split <;> decide
      exact List.forall_mem_cons.mpr ⟨by decide, List.forall_mem_cons.mpr
        ⟨hs, unescaped_digits (Decimal.exponentFigures_lt e.natAbs)⟩⟩

theorem unescaped_ofInt (i : Int) : Unescaped (Decimal.ofInt i) := by
  rw [ofInt_eq]
  exact unescaped_append.mpr
    ⟨unescaped_signText _, unescaped_digits (Decimal.figures_lt i.natAbs)⟩

theorem unescaped_ofDouble (x : Double) : Unescaped (ofDouble x) := by
  rw [ofDouble.eq_def]
  split
  · rename_i hx
    obtain ⟨negative, w, hw, ht, _⟩ := Decimal.ofDouble_eq hx
    rw [ht]
    exact unescaped_append.mpr ⟨unescaped_signText negative, unescaped_text hw⟩
  · split
    · simp [Unescaped, escape]
    · split <;> simp [Unescaped, escape]

/-- A key is written as the text of its name. -/
theorem ofKey_eq_ok (h : ofKey key = .ok cs) : cs = quote (keyName key).toList := by
  have hscalar {ds : List Char} (hs : ofScalar? key = some (.ok ds)) (hu : Unescaped ds)
      (hk : keyName key = String.ofList ds) : '"' :: ds ++ ['"'] = quote (keyName key).toList := by
    rw [hk, String.toList_ofList, hu.quote_eq]
  cases key with
  | text s => exact (Except.ok.inj h).symm
  | null =>
    cases h
    exact hscalar rfl (by simp [Unescaped, escape]) rfl
  | bool b =>
    cases h
    exact hscalar rfl (by cases b <;> simp [Unescaped, escape]) rfl
  | int i =>
    rw [ofKey] at h
    · obtain ⟨ds, hd, h⟩ := bind_eq_ok.mp h
      cases h
      have hs : ofScalar? (.int i) = some (.ok ds) := congrArg some hd
      refine hscalar hs ?_ (by rw [keyName, hs]; simp)
      rw [Decimal.ofInt?] at hd
      split at hd
      · cases hd
        exact unescaped_ofInt i
      · cases hd
    · simp
  | float x =>
    cases h
    exact hscalar rfl (unescaped_ofDouble x) rfl
  | _ => cases h

end Keys
end JsonText
end Covenant
