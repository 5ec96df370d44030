import Covenant.Proofs.Check.Repeat
import Covenant.Proofs.Refine

/-! What a check lets through strictly, it lets through loosely. -/

namespace Covenant

theorem Bound.number?_loose (v : Value) (name : String) (convert : Bool) :
    Extends (number? v name convert) (number? v name true) := by
  cases convert with
  | true => exact .refl _
  | false =>
    refine .ite (.refl _) (.ite (.refl _) ?_)
    cases v <;> exact .of_cut trivial _

theorem Bound.ofInt_loose (v : Value) (name : String) (convert : Bool) :
    Extends (ofInt v name convert) (ofInt v name true) :=
  .bind (number?_loose v name convert) fun _ => .refl _

namespace Check

variable {params : Params} {data : Value}

/-- A test that only the strict mode makes. -/
theorem ite_strict_loose {c : Bool} {x y z z' : Except Stop α} (hz : Extends z y)
    (h : Extends x y) :
    Extends (if (true && c) = true then z else x) (if (false && c) = true then z' else y) := by
  cases c with
  | true => exact hz
  | false => exact h

theorem bind_refuse_extends (x : Except Stop β) (m : β → String) (y : Except Stop α) :
    Extends (x >>= fun b => refuse (m b)) y :=
  .bind_left fun _ _ => .of_cut trivial y

theorem boolConst_loose (i b : Bool) (data : Value) :
    Extends (boolConst ⟨true, i⟩ b data) (boolConst ⟨false, i⟩ b data) := by
  cases data with
  | null => exact .refl _
  | bool b' => exact .refl _
  | _ => exact .of_cut trivial _

theorem bool_loose (i : Bool) :
    Extends (bool ⟨true, i⟩ params data) (bool ⟨false, i⟩ params data) := by
  unfold bool
  split
  · cases data with
    | bool b => exact .refl _
    | null => exact .refl _
    | _ => exact .of_cut trivial _
  · exact .bind (.refl _) fun b => boolConst_loose i b data

/-- An integer is read as itself. -/
theorem readInt_of_exactInt (h : exactInt data = some i) : Loose.readInt data = .ok (some i) := by
  cases data with
  | int j => exact congrArg Except.ok h
  | _ => cases h

theorem int_loose (i : Bool) :
    Extends (int ⟨true, i⟩ params data) (int ⟨false, i⟩ params data) := by
  have hconvert : (i || !false) = true := Bool.or_true i
  unfold int
  simp only [hconvert]
  refine .bind (.lift (fun _ _ => trivial) (Bound.ofInt_loose _ _ _)) fun least => ?_
  refine .bind (.lift (fun _ _ => trivial) (Bound.ofInt_loose _ _ _)) fun most => ?_
  refine .bind (.refl _) fun clamp => ?_
  cases hi : exactInt data with
  | none => exact .of_cut trivial _
  | some n =>
    rw [readInt_of_exactInt hi]
    exact .ite (.of_cut trivial _) (.refl _)

theorem withinCharsets_loose (i : Bool) (charsets : List Value) (cs : List Char) :
    Extends (withinCharsets ⟨true, i⟩ charsets cs) (withinCharsets ⟨false, i⟩ charsets cs) := by
  refine .bind (.refl _) fun names => ?_
  split
  · exact .refl _
  · exact .bind (.refl _) fun fits => .ite (.refl _) (bind_refuse_extends _ _ _)

theorem readText_loose (i : Bool) (data : Value) :
    Extends (readText ⟨true, i⟩ data) (readText ⟨false, i⟩ data) := by
  cases data with
  | text s => exact .refl _
  | _ => exact .of_cut trivial _

theorem string_loose (i : Bool) :
    Extends (string ⟨true, i⟩ params data) (string ⟨false, i⟩ params data) := by
  refine .bind (.refl _) fun charsets => .bind (.refl _) fun limits => ?_
  refine .bind (readText_loose i data) fun cs => ?_
  refine ite_strict_loose (.of_cut trivial _) (.ite (.refl _) ?_)
  exact .bind (withinCharsets_loose i _ _) fun cs => .refl _

theorem url_loose (i : Bool) :
    Extends (url ⟨true, i⟩ params data) (url ⟨false, i⟩ params data) := by
  unfold url
  refine .bind (.refl _) fun limits => .bind (.refl _) fun allowed => ?_
  split
  · exact ite_strict_loose (.of_cut trivial _) (.refl _)
  · exact .refl _

theorem uuid_loose (i : Bool) :
    Extends (uuid ⟨true, i⟩ params data) (uuid ⟨false, i⟩ params data) := by
  unfold uuid
  split
  · exact ite_strict_loose (.of_cut trivial _) (.refl _)
  · exact .refl _

theorem inCharset_loose (i : Bool) (charsets : List Value) (names : List String)
    (content : Content) (bytes : List UInt8) :
    Extends (inCharset ⟨true, i⟩ charsets names content bytes)
      (inCharset ⟨false, i⟩ charsets names content bytes) := by
  cases names with
  | nil => exact .refl _
  | cons name names => exact .ite (.refl _) (bind_refuse_extends _ _ _)

theorem binary_loose (i : Bool) :
    Extends (binary ⟨true, i⟩ params data) (binary ⟨false, i⟩ params data) := by
  refine .bind (.refl _) fun limits => .bind (.refl _) fun mimes => ?_
  refine .bind (.refl _) fun charsets => .bind (.refl _) fun names => ?_
  dsimp only
  split
  · exact .refl _
  · exact .refl _
  · refine ite_strict_loose (.of_cut trivial _) (.ite (.refl _) (.ite ?_ ?_))
    all_goals
      refine .bind (.refl _) fun allowed => .ite (.refl _) ?_
      exact .bind (inCharset_loose i _ _ _ _) fun found => .refl _

namespace Geo

theorem upTo_loose (i : Bool) (northEast : Option Point) (p : Point) :
    Extends (upTo ⟨true, i⟩ northEast p) (upTo ⟨false, i⟩ northEast p) := by
  cases northEast with
  | none => exact .refl _
  | some corner => exact .ite (.of_cut trivial _) (.refl _)

theorem check_loose (i : Bool) :
    Extends (check ⟨true, i⟩ params data) (check ⟨false, i⟩ params data) := by
  refine .bind (.refl _) fun southWest => .bind (.refl _) fun northEast => ?_
  dsimp only
  split
  · exact .refl _
  · split
    · exact .ite (.of_cut trivial _) (upTo_loose i _ _)
    · exact upTo_loose i _ _

end Geo

namespace Temporal

theorem upTo_loose (t : Temporal) (i : Bool) (most : Option Moment) (format : Value) (m : Moment) :
    Extends (t.upTo ⟨true, i⟩ most format m) (t.upTo ⟨false, i⟩ most format m) := by
  cases most with
  | none => exact .refl _
  | some latest => exact .ite (.of_cut trivial _) (.refl _)

/-- A text that is what its moment is written as is read without overflow. -/
theorem readText_loose {format : Value} (h : readText true format s = .ok (some m)) :
    readText false format s = .ok (some m) := by
  rw [readText] at h ⊢
  obtain ⟨cs, hcs, h⟩ := bind_eq_ok.mp h
  obtain ⟨read, hread, h⟩ := bind_eq_ok.mp h
  simp only [hcs, hread, bind, Except.bind]
  cases read with
  | none => cases h
  | some m' =>
    dsimp only at h
    split at h
    · cases h
    · exact h

theorem readData_loose {format : Value} (h : readData true format data = .ok (some m)) :
    readData false format data = .ok (some m) := by
  cases data with
  | text s =>
    rw [readData] at h ⊢
    split
    · rename_i hn
      rwa [if_pos hn] at h
    · rename_i hn
      rw [if_neg hn] at h
      exact readText_loose h
  | _ => exact h

/-- What is done with the moment that is read, if one is read strictly, is done loosely. -/
theorem bind_readData_loose {format : Value} {k l : Option Moment → Outcome}
    (hn : k none = refuse message) (hs : ∀ m, Extends (k (some m)) (l (some m))) :
    Extends (liftM (readData true format data) >>= k) (liftM (readData false format data) >>= l) := by
  refine Extends.bind_left fun read hr => ?_
  cases read with
  | none =>
    rw [hn]
    exact .of_cut trivial _
  | some m =>
    rw [readData_loose (lift_eq_ok.mp hr)]
    exact hs m

theorem check_loose (t : Temporal) (i : Bool) :
    Extends (t.check ⟨true, i⟩ params data) (t.check ⟨false, i⟩ params data) := by
  refine .bind (.refl _) fun least => .bind (.refl _) fun most => ?_
  cases data with
  | int _ | float _ | text _ =>
    refine bind_readData_loose rfl fun m => ?_
    cases least with
    | none => exact upTo_loose t i _ _ m
    | some earliest => exact .ite (.of_cut trivial _) (upTo_loose t i _ _ m)
  | _ => exact .refl _

end Temporal

namespace Base64

open Covenant.Base64 (encode digitChar)

/-- A character that is read as itself, loosely too. -/
def Plain (c : Char) : Prop := isBlank c = false ∧ c ≠ '-' ∧ c ≠ '_'

instance : DecidablePred Plain := fun _ => inferInstanceAs (Decidable (_ ∧ _))

theorem digitChar_plain (n : Nat) : Plain (digitChar n) := by
  have hsmall : ∀ k : Fin 62, Plain (digitChar k) := by decide
  by_cases hn : n < 62
  · exact hsmall ⟨n, hn⟩
  · rw [digitChar, if_neg (by omega), if_neg (by omega), if_neg hn]
    split
    · decide
    · decide

theorem encode_plain (bytes : List UInt8) :
    (∀ c ∈ encode bytes, Plain c) ∧ (encode bytes).length % 4 = 0 := by
  have heq : Plain '=' := by decide
  fun_induction encode bytes with
  | case1 a b c rest n ih =>
    obtain ⟨hc, hl⟩ := ih
    refine ⟨?_, by simpa only [List.length_cons, Nat.add_assoc, Nat.add_mod_right] using hl⟩
    simp only [List.forall_mem_cons]
    exact ⟨digitChar_plain _, digitChar_plain _, digitChar_plain _, digitChar_plain _, hc⟩
  | case2 a b n => simp [digitChar_plain, heq]
  | case3 a => simp [digitChar_plain, heq]
  | case4 => simp

/-- What bytes are encoded as is read as it is, loosely too. -/
theorem loosen_encode (bytes : List UInt8) : loosen (encode bytes) = encode bytes := by
  obtain ⟨hc, hl⟩ := encode_plain bytes
  have hfilter : (encode bytes).filter (!isBlank ·) = encode bytes := by
    rw [List.filter_eq_self]
    intro c hm
    rw [(hc c hm).1]
    rfl
  have hmap : (encode bytes).map (fun c => if c = '-' then '+' else if c = '_' then '/' else c) =
      encode bytes := by
    refine (List.map_congr_left fun c hm => ?_).trans (List.map_id _)
    rw [if_neg (hc c hm).2.1, if_neg (hc c hm).2.2]
    rfl
  rw [loosen, hfilter, hmap, hl]
  exact List.append_nil _

theorem decode?_loose (h : decode? true cs = some bytes) : decode? false cs = some bytes := by
  rw [decode?, if_pos rfl, Option.bind_eq_some_iff] at h
  obtain ⟨found, hf, h⟩ := h
  split at h
  · rename_i he
    cases h
    rw [decode?, if_neg (by decide), ← he, loosen_encode, he]
    exact hf
  · cases h

end Base64

theorem base64_loose {content : Params → Value → Except Failure Result} (i : Bool) :
    Extends (base64 content ⟨true, i⟩ params data) (base64 content ⟨false, i⟩ params data) := by
  refine .bind (.refl _) fun limits => .bind (.refl _) fun mimes => ?_
  cases data with
  | text s =>
    dsimp only
    by_cases hs : (s == "") = true
    · rw [if_pos hs, if_pos hs]
      exact .refl _
    · rw [if_neg hs, if_neg hs]
      cases hd : Base64.decode? true s.toList with
      | none => exact .of_cut trivial _
      | some bytes =>
        rw [Base64.decode?_loose hd]
        exact .refl _
  | _ => exact .refl _

variable {inner : Delegate}

theorem elements?_loose (h : elements? true data = some items) :
    elements? false data = some items := by
  cases data with
  | list items => exact h
  | tuple items => exact h
  | _ => cases h

theorem positional_loose (index : Nat) (items contracts : List Value) :
    Extends (positional inner true index items contracts)
      (positional inner false index items contracts) := by
  induction items generalizing index contracts with
  | nil =>
    cases contracts with
    | nil => exact .refl _
    | cons contract contracts => exact .of_cut trivial _
  | cons item items ih =>
    cases contracts with
    | nil => exact .of_cut trivial _
    | cons contract contracts =>
      rw [positional, positional]
      exact .ite (.refl _) (.bind (.refl _) fun v => .bind (ih _ _) fun vs => .refl _)

theorem list_loose (i : Bool) :
    Extends (list inner ⟨true, i⟩ params data) (list inner ⟨false, i⟩ params data) := by
  refine .bind (.refl _) fun limits => ?_
  dsimp only
  cases he : elements? true data with
  | none => exact .of_cut trivial _
  | some items =>
    rw [elements?_loose he]
    refine ite_strict_loose (.of_cut trivial _) (.ite (.refl _) (.ite ?_ (.refl _)))
    refine .bind (.refl _) fun contracts => .bind ?_ fun vs => .refl _
    exact positional_loose 0 _ contracts

theorem assoc_loose (i : Bool) :
    Extends (assoc inner ⟨true, i⟩ params data) (assoc inner ⟨false, i⟩ params data) := by
  refine .bind (.refl _) fun keys => ?_
  cases data with
  | map entries =>
    refine .bind (.refl _) fun reading => ?_
    dsimp only
    split
    · exact .refl _
    · exact ite_strict_loose (bind_refuse_extends _ _ _) (.refl _)
  | _ => exact .refl _

end Check

/-- What is let through strictly is let through loosely, and the same is found out about it. Only
floats, phone numbers and slugs are another matter. -/
theorem Kind.check_loose {inner : Check.Delegate} (kind : Kind)
    (hk : kind ∉ [float, phone, slug]) (i : Bool) :
    Extends (kind.check inner ⟨true, i⟩ params data) (kind.check inner ⟨false, i⟩ params data) := by
  cases kind with
  | bool => exact Check.bool_loose i
  | int => exact Check.int_loose i
  | string => exact Check.string_loose i
  | url => exact Check.url_loose i
  | list => exact Check.list_loose i
  | assoc => exact Check.assoc_loose i
  | date => exact Check.Temporal.check_loose .date i
  | time => exact Check.Temporal.check_loose .time i
  | datetime => exact Check.Temporal.check_loose .datetime i
  | uuid => exact @Check.uuid_loose params data i
  | base64 => exact Check.base64_loose i
  | binary => exact Check.binary_loose i
  | geo => exact Check.Geo.check_loose i
  | float => exact absurd (by simp) hk
  | phone => exact absurd (by simp) hk
  | slug => exact absurd (by simp) hk
  | _ => exact .refl _

end Covenant
