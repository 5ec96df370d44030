import Covenant.Proofs.Decimal.Notation
import Covenant.Proofs.Decimal.ReadBack
import Covenant.Proofs.Filter.Rounded

/-! Integers with thousands separators are read as the binary64 numbers nearest to them, while the
same digits without separators are read exactly. -/

namespace Covenant

open Decimal (digitChar figures)
open Double (rounded? IsExact leastOverflow)

namespace Decimal

/-- A comma in front of every group of three digits, but not of the first digits of all. -/
def commas : List Char → List Char
  | [] => []
  | c :: cs => if cs ≠ [] ∧ cs.length % 3 = 0 then c :: ',' :: commas cs else c :: commas cs

/-- An integer in decimal digits with thousands separators. -/
def grouped (i : Int) : List Char := signText (i < 0) ++ commas (digits i.natAbs)

theorem commas_cons (c : Char) (cs : List Char) : ∃ rest, commas (c :: cs) = c :: rest := by
  rw [commas]
  split
  · exact ⟨_, rfl⟩
  · exact ⟨_, rfl⟩

theorem commas_of_length_le (h : cs.length ≤ 3) : commas cs = cs := by
  induction cs with
  | nil => rfl
  | cons c cs ih =>
    rw [List.length_cons] at h
    have hlast : ¬(cs ≠ [] ∧ cs.length % 3 = 0) := by
      rintro ⟨hne, hmod⟩
      have hpos := List.length_pos_iff.mpr hne
      omega
    rw [commas, if_neg hlast, ih (by omega)]

/-- The first comma stands behind one to three digits. -/
theorem commas_append (hfirst : first ≠ []) (hl : first.length ≤ 3) (hrest : rest ≠ [])
    (hmod : rest.length % 3 = 0) : commas (first ++ rest) = first ++ ',' :: commas rest := by
  induction first with
  | nil => exact absurd rfl hfirst
  | cons c cs ih =>
    rw [List.length_cons] at hl
    rw [List.cons_append, commas]
    cases cs with
    | nil => rw [List.nil_append, if_pos ⟨hrest, hmod⟩, List.singleton_append]
    | cons d ds =>
      have hlength : ¬((d :: ds ++ rest) ≠ [] ∧ (d :: ds ++ rest).length % 3 = 0) := by
        rw [List.length_append]
        rintro ⟨-, h⟩
        rw [List.length_cons] at hl h
        omega
      rw [if_neg hlength, ih (List.cons_ne_nil d ds) (by omega)]
      rfl

theorem mem_commas (h : c ∈ commas cs) : c = ',' ∨ c ∈ cs := by
  induction cs with
  | nil => exact .inr h
  | cons d ds ih =>
    have hmem : c = d ∨ c = ',' ∨ c ∈ commas ds := by
      rw [commas] at h
      split at h
      · simpa using h
      · exact (List.mem_cons.mp h).imp_right .inr
    rcases hmem with rfl | rfl | h
    · exact .inr List.mem_cons_self
    · exact .inl rfl
    · exact (ih h).imp_right (List.mem_cons_of_mem d)

theorem not_isBlank_of_mem_grouped (h : c ∈ grouped i) : ¬isBlank c := by
  rcases List.mem_append.mp h with hc | hc
  · rw [signText] at hc
    split at hc
    · rw [List.mem_singleton.mp hc]
      decide
    · cases hc
  · rcases mem_commas hc with rfl | hc
    · decide
    · exact not_isBlank_of_mem_ofInt (i := (i.natAbs : Int)) hc

theorem trim_grouped (i : Int) : trim (grouped i) = grouped i :=
  trim_of_no_blank fun _ => not_isBlank_of_mem_grouped

end Decimal

namespace Numeral

open Decimal (commas grouped)

theorem spanGroups_cons (ha : a < 10) (hb : b < 10) (hc : c < 10) (rest : List Char) :
    spanGroups (',' :: digitChar a :: digitChar b :: digitChar c :: rest) =
      (a :: b :: c :: (spanGroups rest).1, (spanGroups rest).2) := by
  simp only [spanGroups, Decimal.decimalDigit?_digitChar ha, Decimal.decimalDigit?_digitChar hb,
    Decimal.decimalDigit?_digitChar hc]

/-- Each group of three digits is read behind its comma. -/
theorem spanGroups_commas {ds : List Nat} (h : ∀ d ∈ ds, d < 10) (hl : ds.length = 3 * (k + 1)) :
    spanGroups (',' :: commas (ds.map digitChar)) = (ds, []) := by
  induction k generalizing ds with
  | zero =>
    obtain ⟨a, b, c, rfl⟩ := List.length_eq_three.mp hl
    simp only [List.forall_mem_cons] at h
    obtain ⟨ha, hb, hc, _⟩ := h
    rw [Decimal.commas_of_length_le (by simp)]
    exact spanGroups_cons ha hb hc []
  | succ k ih =>
    obtain ⟨a, b, c, rest, rfl⟩ : ∃ a b c rest, ds = a :: b :: c :: rest := by
      match ds, hl with
      | a :: b :: c :: rest, _ => exact ⟨a, b, c, rest, rfl⟩
    simp only [List.forall_mem_cons] at h
    obtain ⟨ha, hb, hc, h⟩ := h
    have hrest : rest.length = 3 * (k + 1) := by
      simp only [List.length_cons] at hl
      omega
    have hne : rest.map digitChar ≠ [] := by
      rw [Ne, ← List.length_eq_zero_iff, List.length_map]
      omega
    have hmod : (rest.map digitChar).length % 3 = 0 := by
      rw [List.length_map]
      omega
    have hcommas : commas ((a :: b :: c :: rest).map digitChar) =
        digitChar a :: digitChar b :: digitChar c :: ',' :: commas (rest.map digitChar) :=
      @Decimal.commas_append [digitChar a, digitChar b, digitChar c] _ (List.cons_ne_nil _ _)
        (Nat.le_refl 3) hne hmod
    rw [hcommas, spanGroups_cons ha hb hc, ih h hrest]

theorem spanSign_grouped (i : Int) :
    spanSign (grouped i) = (decide (i < 0), commas ((figures i.natAbs).map digitChar)) := by
  obtain ⟨d, ds, hf⟩ := Decimal.figures_cons i.natAbs
  have hd : d < 10 := Decimal.figures_lt i.natAbs d (by simp [hf])
  obtain ⟨rest, hcommas⟩ := Decimal.commas_cons (digitChar d) (ds.map digitChar)
  rw [grouped, Decimal.digits_eq, hf, List.map_cons, hcommas, Decimal.spanSign_signText hd]

/-- From four digits on there is a comma, behind one to three of them. -/
theorem exists_groups {ds : List Nat} (h : 3 < ds.length) :
    ∃ first groups k, ds = first ++ groups ∧ first ≠ [] ∧ first.length ≤ 3 ∧
      groups.length = 3 * (k + 1) := by
  obtain ⟨m, hm⟩ : ∃ m, m = (ds.length - 1) % 3 + 1 := ⟨_, rfl⟩
  have hds : ds = ds.take m ++ ds.drop m := (List.take_append_drop m ds).symm
  refine ⟨ds.take m, ds.drop m, (ds.length - 1) / 3 - 1, hds, ?_, ?_, ?_⟩
  · rw [Ne, ← List.length_eq_zero_iff, List.length_take]
    omega
  · rw [List.length_take]
    omega
  · rw [List.length_drop]
    omega

/-- The digits are read without their commas. -/
theorem spanDigits_commas {ds : List Nat} (h : ∀ d ∈ ds, d < 10) (hl : 3 < ds.length) :
    ∃ first groups rest, ds = first ++ groups ∧ first ≠ [] ∧ first.length ≤ 3 ∧ groups ≠ [] ∧
      spanDigits (commas (ds.map digitChar)) = (first, ',' :: rest) ∧
        spanGroups (',' :: rest) = (groups, []) := by
  obtain ⟨first, groups, k, rfl, hfirst, hshort, hgroups⟩ := exists_groups hl
  have hne : groups ≠ [] := by
    rintro rfl
    cases hgroups
  obtain ⟨hf, hg⟩ := List.forall_mem_append.mp h
  have hcommas : commas ((first ++ groups).map digitChar) =
      first.map digitChar ++ ',' :: commas (groups.map digitChar) := by
    rw [List.map_append]
    apply Decimal.commas_append
    · exact fun hnil => hfirst (List.map_eq_nil_iff.mp hnil)
    · rwa [List.length_map]
    · exact fun hnil => hne (List.map_eq_nil_iff.mp hnil)
    · rw [List.length_map]
      omega
  refine ⟨first, groups, _, rfl, hfirst, hshort, hne, ?_, spanGroups_commas hg hgroups⟩
  rw [hcommas]
  apply Decimal.spanDigits_map_append hf
  intro c hc
  cases hc
  decide

variable {i : Int}

theorem three_lt_length_figures (hi : 1000 ≤ i.natAbs) : 3 < (figures i.natAbs).length :=
  Decimal.lt_length_figures (k := 3) hi

theorem readGrouped?_grouped (hi : 1000 ≤ i.natAbs) :
    readGrouped? (grouped i) = some ⟨decide (i < 0), figures i.natAbs, [], 0⟩ := by
  obtain ⟨first, groups, rest, hf, hfirst, hshort, hgroups, hspan, hrest⟩ :=
    spanDigits_commas (Decimal.figures_lt i.natAbs) (three_lt_length_figures hi)
  rw [readGrouped?]
  simp only [spanSign_grouped, hspan, hrest]
  rw [if_neg (by simp [hfirst, hgroups, hshort]), hf]
  rfl

end Numeral

namespace Loose

open Decimal (grouped)

variable {i : Int}

/-- Separators keep digits from being read as an integer. -/
theorem readInteger?_grouped (hi : 1000 ≤ i.natAbs) : readInteger? (grouped i) = none := by
  obtain ⟨first, groups, rest, hf, hfirst, hshort, hgroups, hspan, hrest⟩ :=
    Numeral.spanDigits_commas (Decimal.figures_lt i.natAbs) (Numeral.three_lt_length_figures hi)
  rw [readInteger?]
  simp only [Numeral.spanSign_grouped]
  split
  · rename_i he
    rw [he] at hspan
    cases hspan
  · split
    · rw [hspan]
    · rfl
  · rfl

theorem head_grouped (hi : 1000 ≤ i.natAbs) : ∀ c ∈ (grouped i).head?, c ≠ '0' := by
  intro c hc
  obtain ⟨d, ds, hf, hd⟩ := Decimal.figures_eq_cons (n := i.natAbs) (by omega)
  have hlt : d < 10 := Decimal.figures_lt i.natAbs d (by simp [hf])
  obtain ⟨rest, hcommas⟩ := Decimal.commas_cons (digitChar d) (ds.map digitChar)
  rw [grouped, Decimal.digits_eq, hf, List.map_cons, hcommas, Decimal.signText] at hc
  split at hc
  · cases hc
    decide
  · cases hc
    exact digitChar_ne_zero hlt hd

theorem readFloat?_grouped (hi : 1000 ≤ i.natAbs) :
    readFloat? (grouped i) = Double.ofInt? i := by
  rw [readFloat?, Numeral.readGrouped?_grouped hi]
  dsimp only
  rw [Numeral.toDouble_digits, Decimal.ofDigits_figures]
  rfl

/-- With separators, what is left of an integer as a binary64 number is read. -/
theorem readInt?_grouped (hi : 1000 ≤ i.natAbs) : readInt? (grouped i) = .ok (rounded? i) := by
  have hhead := head_grouped hi
  rw [readInt?, readHex?_of_head hhead, readOctal?_of_head hhead, readInteger?_grouped hi]
  dsimp only
  rw [readFloat?_grouped hi, Double.ofInt?_eq]
  cases hr : rounded? i with
  | none => rfl
  | some r =>
    rw [Option.map_some, Option.bind_some]
    exact congrArg Except.ok hr

end Loose

namespace Kind

open Decimal (grouped)

variable {inner : Check.Delegate} {params : Params} {i : Int}

section Without

variable (hp : ∀ name ∈ ["default", "min", "max", "clamp"], params.get? name = none)
include hp

/-- Without parameters, an integer is what is read of the text. -/
theorem validate_int_without (inline : Bool) (hr : Loose.toInt? (.text s) = .ok i?) :
    int.validate inner ⟨false, inline⟩ params (.text s) =
      i?.elim (.error (.rejected "Data doesn't respect contract (can't cast to int)."))
        fun i => .ok ⟨.int i, .int i⟩ := by
  have hget (name : String) (hn : name ∈ ["default", "min", "max", "clamp"]) :
      params.get name = .null := by
    rw [Params.get, hp name hn]
    rfl
  have hclamp : Check.clamps params = .ok true := by
    rw [Check.clamps, hp "clamp" (by simp)]
    rfl
  have hbound (name : String) (convert : Bool) : Bound.ofInt .null name convert = .ok none := rfl
  rw [validate_without_default (hget "default" (by simp))]
  have hread : Check.Loose.readInt (.text s) = .ok i? := hr
  show Check.settle (Check.int ⟨false, inline⟩ params (.text s)) = _
  rw [Check.int, hget "min" (by simp), hget "max" (by simp), hbound, hbound, hclamp]
  cases i? with
  | none =>
    simp only [hread]
    rfl
  | some i =>
    simp only [hread]
    rfl

/-- Thousands separators round an integer to the binary64 number nearest to it, which the same
digits without separators do not: so the two are read alike exactly when there are at most 53 binary
digits in front of the zeros, and the separated digits of a number too large are refused. -/
theorem validate_grouped (hi : 1000 ≤ i.natAbs)
    (hl : (Decimal.figures i.natAbs).length ≤ digitLimit) (inline : Bool) :
    let plain := int.validate inner ⟨false, inline⟩ params (.text (Decimal.text i))
    let separated :=
      int.validate inner ⟨false, inline⟩ params (.text (String.ofList (grouped i)))
    plain = .ok ⟨.int i, .int i⟩ ∧
    separated = (rounded? i).elim
      (.error (.rejected "Data doesn't respect contract (can't cast to int)."))
      (fun r => .ok ⟨.int r, .int r⟩) ∧
    (separated = plain ↔ IsExact i.natAbs) ∧
    (separated = .error (.rejected "Data doesn't respect contract (can't cast to int).") ↔
      leastOverflow ≤ i.natAbs) := by
  have hplain : Loose.toInt? (.text (Decimal.text i)) = .ok (some i) := by
    rw [Loose.toInt?, Decimal.text, String.toList_ofList, Decimal.trim_ofInt,
      Loose.readInt?_decimal hl]
  have hgrouped : Loose.toInt? (.text (String.ofList (grouped i))) = .ok (rounded? i) := by
    rw [Loose.toInt?, String.toList_ofList, Decimal.trim_grouped, Loose.readInt?_grouped hi]
  intro plain separated
  have hp' : plain = .ok ⟨.int i, .int i⟩ := validate_int_without hp inline hplain
  have hs : separated = (rounded? i).elim _ _ := validate_int_without hp inline hgrouped
  refine ⟨hp', hs, ?_, ?_⟩
  · rw [hp', hs, ← Double.rounded?_eq_self]
    cases rounded? i with
    | none => simp
    | some r => simp
  · rw [hs, ← Double.rounded?_eq_none]
    cases rounded? i with
    | none => simp
    | some r => simp

end Without

/-- A bare type as a contract. -/
def bare (spec : String) : Params := [("type", .text spec)]

theorem get?_bare : ∀ name ∈ ["default", "min", "max", "clamp"],
    (bare "int").get? name = none := by decide

theorem validate_grouped_exact :
    int.validate Check.noParts ⟨false, true⟩ (bare "int")
        (.text "-9,007,199,254,740,994") =
      .ok ⟨.int (-9007199254740994), .int (-9007199254740994)⟩ := by
  obtain ⟨hplain, _, hexact, _⟩ := @validate_grouped Check.noParts _ (-9007199254740994) get?_bare
    (by decide) (by decide) true
  have hmul : IsExact 9007199254740994 :=
    @Double.isExact_mul 4503599627370497 1 (by decide) (by decide)
  exact (hexact.mpr hmul).trans hplain

/-- With separators, an integer of more binary digits may be read as the one after it. -/
theorem validate_grouped_above :
    Loose.toInt? (.text "9,007,199,254,740,995") = .ok (some 9007199254740996) ∧
      Filter.initial.validate (.text "9,007,199,254,740,995") (.text "int") (some false) =
        .ok ⟨.int 9007199254740996, .int 9007199254740996⟩ ∧
      Filter.initial.validate (.text "9007199254740995") (.text "int") (some false) =
        .ok ⟨.int 9007199254740995, .int 9007199254740995⟩ := by
  have hr : rounded? 9007199254740995 = some 9007199254740996 := by decide +kernel
  have hread : Loose.toInt? (.text "9,007,199,254,740,995") = .ok (some 9007199254740996) := by
    have h := @Loose.readInt?_grouped 9007199254740995 (by decide)
    rw [hr] at h
    exact h
  have hc : Node.ofContract false (.text "int") =
      .ok (some ⟨⟨["int"], none, false⟩, bare "int", true⟩) := rfl
  refine ⟨hread, ?_, rfl⟩
  rw [Filter.validate_kind hc rfl rfl rfl (by simp)]
  exact validate_int_without get?_bare true hread

end Kind
end Covenant
