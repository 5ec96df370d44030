import Covenant.Check.Scalar
import Covenant.Proofs.Check.Default
import Covenant.Proofs.Contract.Source
import Covenant.Proofs.Contract.TypeExpr
import Covenant.Proofs.Decimal.Integer
import Covenant.Proofs.Filter.Step
import Covenant.Proofs.Final

/-! Bounds and sizes that are written as texts mean the binary64 numbers nearest to them, and an
integer is let through between two such bounds. -/

namespace Covenant

open Decimal (digitChar figures)
open Double (rounded? IsExact leastOverflow)

theorem chars_of_isAsciiLetter (h : isAsciiLetter c) : ¬isBlank c ∧ ¬isDecimal c ∧ c ≠ '.' := by
  simp only [isAsciiLetter, isAsciiUpper, isAsciiLower, Bool.or_eq_true, Bool.and_eq_true,
    decide_eq_true_eq] at h
  refine ⟨?_, ?_, ?_⟩
  · simp only [isBlank, Bool.or_eq_true, Bool.and_eq_true, decide_eq_true_eq, beq_iff_eq]
    omega
  · rw [isDecimal_of_ascii (by omega), isAsciiDigit, Bool.and_eq_true, decide_eq_true_eq,
      decide_eq_true_eq]
    omega
  · rintro rfl
    exact absurd h (by decide)

theorem Double.truncate_ofInt (i : Int) :
    (ofInt i).truncate = (rounded? i).elim (.error (.crashed .overflow)) .ok := by
  obtain ⟨rank, hr⟩ := exists_ofInt i
  rw [Double.truncate, rounded?, hr]
  cases (ofRank (decide (i < 0)) rank).truncate? <;> rfl

/-- A bound in decimal digits is the integer that is left of it as a binary64 number. -/
theorem Bound.ofInt_text (i : Int) (name : String) :
    ofInt (.text (String.ofList (Decimal.ofInt i))) name true =
      (rounded? i).elim (.error (badParameter name)) fun r => .ok (some r) := by
  have hne : String.ofList (Decimal.ofInt i) ≠ "" := by
    rw [Ne, ← String.toList_eq_nil_iff, String.toList_ofList]
    exact Decimal.ofInt_ne_nil i
  have habsent : (Value.text (String.ofList (Decimal.ofInt i))).isAbsent = false :=
    beq_eq_false_iff_ne.mpr hne
  simp only [ofInt, number?, habsent, Value.isNumber, String.toList_ofList, Decimal.trim_ofInt,
    Loose.readFloat?_ofInt, Double.ofInt?_eq, Bool.false_eq_true, if_false]
  have htruncate := Double.truncate_ofInt i
  cases hr : rounded? i with
  | none => rfl
  | some r =>
    rw [hr, Option.elim_some] at htruncate
    simp only [Option.map_some, pure_bind, htruncate]
    rfl

namespace Size

/-- The letters of the units, and the powers of 1024 that they stand for. -/
def letters : List (Char × Nat) :=
  [('k', 1), ('K', 1), ('m', 2), ('M', 2), ('g', 3), ('G', 3), ('t', 4), ('T', 4)]

/-- What may stand behind the letter of a unit, or in its place. -/
def marks : List (List Char) := [[], ['b'], ['B'], ['i', 'b'], ['i', 'B'], ['I', 'b'], ['I', 'B']]

/-- The texts that stand for a power of 1024. -/
inductive IsUnit : Nat → List Char → Prop
  | one (hm : mark ∈ marks) : IsUnit 0 mark
  | power (hl : (letter, k) ∈ letters) (hm : mark ∈ marks) : IsUnit k (letter :: mark)

/-- The ways to write a number of units: its digits and the unit, blanks around and between. -/
inductive Writes (n k : Nat) : List Char → Prop
  | mk {before gap unit after : List Char} (hu : IsUnit k unit) (hb : ∀ c ∈ before, isBlank c)
      (hg : ∀ c ∈ gap, isBlank c) (ha : ∀ c ∈ after, isBlank c) :
      Writes n k (before ++ (Decimal.digits n ++ (gap ++ unit)) ++ after)

variable {unit gap : List Char}

theorem IsUnit.readUnit? (h : IsUnit k unit) : Size.readUnit? unit = some k := by
  cases h with
  | one hm =>
    have hall : ∀ mark ∈ marks, Size.readUnit? mark = some 0 := by decide
    exact hall _ hm
  | power hl hm =>
    have hletters : ∀ p ∈ letters, unit? p.1 = some p.2 := by decide
    have hmarks : ∀ mark ∈ marks, isByteMark mark := by decide
    simp only [Size.readUnit?, hletters _ hl, if_pos (hmarks _ hm)]

theorem IsUnit.isAsciiLetter (h : IsUnit k unit) : ∀ c ∈ unit, isAsciiLetter c := by
  have hmarks : marks.all (·.all Covenant.isAsciiLetter) := by decide
  have hmark {mark : List Char} (hm : mark ∈ marks) : ∀ c ∈ mark, Covenant.isAsciiLetter c :=
    List.all_eq_true.mp (List.all_eq_true.mp hmarks _ hm)
  cases h with
  | one hm => exact hmark hm
  | power hl hm =>
    have hletters : letters.all fun p => Covenant.isAsciiLetter p.1 := by decide
    exact List.forall_mem_cons.mpr ⟨List.all_eq_true.mp hletters _ hl, hmark hm⟩

/-- Behind its digits and blanks, a size is a unit. -/
theorem read?_of_trim {rest : List Char} (h : trim cs = Decimal.digits n ++ rest)
    (hr : ∀ c ∈ rest.head?, ¬isDecimal c ∧ c ≠ '.') :
    read? cs = (readUnit? (trimLeft rest)).map (⟨false, figures n, [], 0⟩, ·) := by
  have hspan : Numeral.spanDigits (trim cs) = (figures n, rest) := by
    rw [h, Decimal.digits_eq]
    refine Decimal.spanDigits_map_append (Decimal.figures_lt n) fun c hc => ?_
    exact Option.not_isSome_iff_eq_none.mp (hr c hc).1
  obtain ⟨d, ds, hf⟩ := Decimal.figures_cons n
  rw [hf] at hspan
  simp only [read?, hspan, hf, List.isEmpty_cons, Bool.false_eq_true, if_false]
  cases rest with
  | nil => rfl
  | cons c rest =>
    have hc := (hr c rfl).2
    split
    · rename_i he
      exact absurd (List.cons.inj he).1 hc
    · cases readUnit? (trimLeft (c :: rest)) <;> rfl

/-- A number of units is read as its digits and the power of its unit. -/
theorem Writes.read? (h : Writes n k cs) :
    Size.read? cs = some (⟨false, figures n, [], 0⟩, k) := by
  obtain @⟨before, gap, unit, after, hu, hb, hg, ha⟩ := h
  have hunit := hu.readUnit?
  have hdigits : ∀ c ∈ Decimal.digits n, ¬isBlank c := fun c hc =>
    Decimal.not_isBlank_of_mem_ofInt (i := n) hc
  -- without a unit, the gap is one with the blanks at the end
  cases unit with
  | nil =>
    have htrim : trim (before ++ (Decimal.digits n ++ (gap ++ [])) ++ after) =
        Decimal.digits n ++ [] := by
      have hgap := @trim_between [] gap (by simp) hg (Decimal.digits n)
      rw [List.nil_append] at hgap
      rw [trim_between hb ha, List.append_nil, hgap, trim_of_no_blank hdigits, List.append_nil]
    rw [read?_of_trim htrim (by simp), trimLeft, List.dropWhile_nil, hunit]
    rfl
  | cons c unit =>
    have hletters := hu.isAsciiLetter
    have hfirst : ∀ d ∈ (Decimal.digits n ++ (gap ++ c :: unit)).head?, ¬isBlank d := by
      intro d hd
      rw [List.head?_append_of_ne_nil _ (Decimal.digits_ne_nil n)] at hd
      exact hdigits d (List.mem_of_mem_head? hd)
    have hlast : ∀ d ∈ (Decimal.digits n ++ (gap ++ c :: unit)).getLast?, ¬isBlank d := by
      intro d hd
      rw [← List.append_assoc, List.getLast?_append_of_ne_nil _ (List.cons_ne_nil c unit)] at hd
      exact (chars_of_isAsciiLetter (hletters d (List.mem_of_getLast? hd))).1
    have htrim : trim (before ++ (Decimal.digits n ++ (gap ++ c :: unit)) ++ after) =
        Decimal.digits n ++ (gap ++ c :: unit) := by
      rw [trim_between hb ha, trim_of_ends hfirst hlast]
    have hleft : trimLeft (gap ++ c :: unit) = c :: unit := by
      rw [trimLeft, List.dropWhile_append_of_pos hg]
      exact trimLeft_cons_of_not_blank (chars_of_isAsciiLetter (hletters c (by simp))).1
    rw [read?_of_trim htrim ?_, hleft, hunit]
    · rfl
    · intro d hd
      have hmem := List.mem_of_mem_head? hd
      rcases List.mem_append.mp hmem with h | h
      · have hblank := hg d h
        refine ⟨fun hdec => not_isBlank_of_isDecimal hdec hblank, ?_⟩
        rintro rfl
        exact absurd hblank (by decide)
      · exact (chars_of_isAsciiLetter (hletters d h)).2

/-- A size in digits and a unit is what is left of it as a binary64 number. -/
theorem ofValue_text (h : Writes n k cs) : ofValue (.text (String.ofList cs)) =
    (rounded? ((n * 1024 ^ k : Nat) : Int)).elim (.error (.crashed .overflow))
      fun r => .ok (some r.toNat) := by
  have hread := h.read?
  have hne : String.ofList cs ≠ "" := by
    rw [Ne, ← String.toList_eq_nil_iff, String.toList_ofList]
    rintro rfl
    cases hread
  have habsent : (Value.text (String.ofList cs)).isAbsent = false := beq_eq_false_iff_ne.mpr hne
  have hscale : ((⟨false, figures n, [], 0⟩ : Numeral).toDouble.scale (10 * k)).truncate =
      (Double.ofInt ((n * 1024 ^ k : Nat) : Int)).truncate := by
    rw [Numeral.toDouble_digits, Decimal.ofDigits_figures, Double.scale_nearest, pow_mul,
      Double.ofInt_natCast, show 2 ^ 10 = 1024 by norm_num]
  simp only [ofValue, habsent, String.toList_ofList, hread, hscale, Double.truncate_ofInt,
    Bool.false_eq_true, if_false]
  cases rounded? ((n * 1024 ^ k : Nat) : Int) <;> rfl

/-- A native size is left as it is, unless it is too large for a binary64 number. -/
theorem ofValue_nat (n : Nat) : ofValue (.int n) =
    (rounded? n).elim (.error (.crashed .overflow)) fun _ => .ok (some n) := by
  have hn : ¬(n : Int) < 0 := Int.not_lt.mpr (Int.natCast_nonneg n)
  show (do
    let _ ← Double.ofIntChecked n
    if (n : Int) < 0 then bad (.int n) else return some (Int.toNat n)) = _
  rw [if_neg hn, Int.toNat_natCast]
  cases hr : rounded? n with
  | none =>
    have hx : Double.ofInt? n = none := by rw [Double.ofInt?_eq, hr, Option.map_none]
    rw [Double.ofIntChecked_of_none hx]
    rfl
  | some r =>
    have hx : Double.ofInt? n = some (Double.ofInt n) := by
      rw [Double.ofInt?_eq, hr, Option.map_some]
    rw [Double.ofIntChecked_of_some hx]
    rfl

end Size

namespace Check

/-- Integers are checked by what the bounds are read as. -/
theorem int_congr {mode mode' : Mode} {p p' : Params} (hs : mode.strict = mode'.strict)
    (hl : Bound.ofInt (p.get "min") "min" (mode.inline || !mode.strict) =
      Bound.ofInt (p'.get "min") "min" (mode'.inline || !mode'.strict))
    (hm : Bound.ofInt (p.get "max") "max" (mode.inline || !mode.strict) =
      Bound.ofInt (p'.get "max") "max" (mode'.inline || !mode'.strict))
    (hc : p.get? "clamp" = p'.get? "clamp") (data : Value) :
    int mode p data = int mode' p' data := by
  simp only [int, hl, hm]
  simp only [hs, clamps, hc]

end Check

/-- An integer in decimal digits. -/
def Decimal.text (i : Int) : String := String.ofList (Decimal.ofInt i)

namespace Filter

variable {spec : String} {t : TypeExpr} {a b x y : Int}

/-- A contract with native bounds. -/
def between (spec : String) (x y : Int) : Value :=
  Entries.withType [(.text "min", .int x), (.text "max", .int y)] spec

def native (spec : String) (x y : Int) : Params :=
  [("type", .text spec), ("min", .int x), ("max", .int y)]

/-- Bounds as they are written behind a type. -/
def boundTexts (a b : Int) : List (String × String) :=
  [("min", Decimal.text a), ("max", Decimal.text b)]

def written (spec : String) (a b : Int) : Params :=
  ("type", .text spec) :: Source.texts (boundTexts a b)

theorem ofContract_between (ht : TypeExpr.read (.text spec) = .ok t) (i : Bool) (x y : Int) :
    Node.ofContract i (between spec x y) = .ok (some ⟨t, native spec x y, i⟩) :=
  Node.ofContract_type_cons rfl (TypeExpr.isAbsent_of_read ht) ht i

theorem ofContract_boundTexts (ht : TypeExpr.read (.text spec) = .ok t)
    (htrim : trim spec.toList = spec.toList) (hs : ';' ∉ spec.toList)
    (hw : Source.Writes (boundTexts a b) cs) (i : Bool) :
    Node.ofContract i (.text (spec ++ String.ofList cs)) =
      .ok (some ⟨t, written spec a b, true⟩) := by
  have hnames : ∀ name ∈ (boundTexts a b).map (·.1), Source.IsName name :=
    show ∀ name ∈ ["min", "max"], Source.IsName name by decide
  have hread : Source.read (spec ++ String.ofList cs) = .ok (written spec a b) :=
    Source.read_written htrim hs (fun p hp => hnames p.1 (List.mem_map_of_mem hp))
      (by simp [boundTexts]) hw
  have hblank : trim (spec ++ String.ofList cs).toList ≠ [] := by
    have hne := TypeExpr.trim_ne_nil (TypeExpr.read_text_eq_ok_iff.mp ht).1
    rw [Ne, trim_eq_nil_iff] at hne ⊢
    rw [String.toList_append]
    exact fun h => hne fun c hc => h c (List.mem_append_left _ hc)
  have hget : (written spec a b).get "type" = .text spec := rfl
  rw [Node.ofContract_of_paramsOf (Node.paramsOf_text hblank hread), hget,
    TypeExpr.isAbsent_of_read ht, ht]
  cases i <;> rfl

/-- To integers and to null it does not matter whether bounds are written or native. -/
theorem validate_bounds {inner inner' : Check.Delegate} {kind : Kind}
    (hk : kind ∈ [Kind.int, .null]) (ha : rounded? a = some x) (hb : rounded? b = some y)
    (strict : Bool) (data : Value) :
    kind.validate inner ⟨strict, true⟩ (written spec a b) data =
      kind.validate inner' ⟨strict, false⟩ (native spec x y) data := by
  rw [Kind.validate_without_default rfl, Kind.validate_without_default rfl]
  simp only [List.mem_cons, List.not_mem_nil, or_false] at hk
  rcases hk with rfl | rfl
  · have hl : Bound.ofInt (.text (Decimal.text a)) "min" true =
        Bound.ofInt (.int x) "min" (false || !strict) := by
      rw [Decimal.text, Bound.ofInt_text, ha]
      rfl
    have hm : Bound.ofInt (.text (Decimal.text b)) "max" true =
        Bound.ofInt (.int y) "max" (false || !strict) := by
      rw [Decimal.text, Bound.ofInt_text, hb]
      rfl
    exact congrArg Check.settle (@Check.int_congr ⟨strict, true⟩ ⟨strict, false⟩
      (written spec a b) (native spec x y) rfl hl hm rfl data)
  · cases data <;> rfl

section Contract

variable {f : Filter} (htrim : trim spec.toList = spec.toList) (hs : ';' ∉ spec.toList)
  (ht : TypeExpr.read (.text spec) = .ok t)
  (hkind : ∀ token ∈ t.tokens, ∃ kind ∈ [Kind.int, .null], f.registry.kind token = .ok kind)
  (hw : Source.Writes (boundTexts a b) cs)
include htrim hs ht hkind hw

/-- Written bounds filter data as the native ones that are left of them. -/
theorem validate_boundTexts (ha : rounded? a = some x) (hb : rounded? b = some y) (data : Value)
    (strict : Option Bool) : f.validate data (.text (spec ++ String.ofList cs)) strict =
      f.validate data (between spec x y) strict := by
  rw [validate, validate, run]
  -- the types and their order are the same, so it is enough to compare them one by one
  refine step_congr (ofContract_boundTexts ht htrim hs hw _) (ofContract_between ht _ x y) rfl ?_ ?_
  · cases data <;> rfl
  · intro mode _ tokens htokens token htoken
    obtain ⟨kind, hk, hlookup⟩ := hkind token (Node.candidates_subset htokens htoken)
    rw [attempt_kind hlookup, attempt_kind hlookup]
    exact validate_bounds hk ha hb mode data

/-- A number that is written as a text means the binary64 number nearest to it: a bound and a size
are what is left of it as such a number, and so is a bound of a contract in the compact notation.
This is the number itself exactly when it has at most 53 binary digits in front of its zeros. -/
theorem validate_rounded (hsize : Size.Writes n k size) :
    (∀ name, Bound.ofInt (.text (Decimal.text a)) name true =
      (rounded? a).elim (.error (badParameter name)) fun r => .ok (some r)) ∧
    Size.ofValue (.text (String.ofList size)) = (rounded? (n * 1024 ^ k : Nat)).elim
      (.error (.crashed .overflow)) (fun r => .ok (some r.toNat)) ∧
    Size.ofValue (.int (n * 1024 ^ k : Nat)) = (rounded? (n * 1024 ^ k : Nat)).elim
      (.error (.crashed .overflow)) (fun _ => .ok (some (n * 1024 ^ k))) ∧
    (∀ x y, rounded? a = some x → rounded? b = some y → ∀ data strict,
      f.validate data (.text (spec ++ String.ofList cs)) strict =
        f.validate data (between spec x y) strict) ∧
    ∀ i, (rounded? i = some i ↔ IsExact i.natAbs) ∧
      (rounded? i = none ↔ leastOverflow ≤ i.natAbs) :=
  ⟨Bound.ofInt_text a, Size.ofValue_text hsize, Size.ofValue_nat _,
    fun _ _ ha hb => validate_boundTexts htrim hs ht hkind hw ha hb,
    fun _ => ⟨Double.rounded?_eq_self, Double.rounded?_eq_none⟩⟩

end Contract

theorem validate_exact_bounds :
    Size.ofValue (.text " 9007199254740994 GiB\n") =
        .ok (some (9007199254740994 * 1024 ^ 3)) ∧
      initial.validate (.int 9007199254740993)
        (.text "?int; min: -9007199254740994; max: \"9007199254740994\"") (some true) =
          .ok ⟨.int 9007199254740993, .int 9007199254740993⟩ := by
  have hsize : Size.Writes 9007199254740994 3 " 9007199254740994 GiB\n".toList :=
    @Size.Writes.mk 9007199254740994 3 [' '] [' '] ['G', 'i', 'B'] ['\n']
      (.power (by decide) (by decide)) (List.forall_mem_singleton.mpr rfl)
      (List.forall_mem_singleton.mpr rfl) (List.forall_mem_singleton.mpr rfl)
  obtain ⟨_, hw, rfl⟩ : ∃ cs, Source.Writes (boundTexts (-9007199254740994) 9007199254740994) cs ∧
      cs = "; min: -9007199254740994; max: \"9007199254740994\"".toList :=
    ⟨_, .cons (.plain (by decide) (by decide)) (.cons .quoted .nil), by decide⟩
  have ht : TypeExpr.read (.text "?int") = .ok ⟨["null", "int"], none, true⟩ := by decide
  obtain ⟨_, hs, _, hv, hr⟩ := validate_rounded (f := initial) (by decide) (by decide) ht
    (by decide) hw hsize
  have hexact : IsExact 9007199254740994 :=
    @Double.isExact_mul 4503599627370497 1 (by decide) (by decide)
  have hlarge : IsExact ((9007199254740994 * 1024 ^ 3 : Nat) : Int).natAbs :=
    @Double.isExact_mul 4503599627370497 31 (by decide) (by decide)
  constructor
  · rw [(hr _).1.mpr hlarge] at hs
    exact hs
  · refine (hv _ _ ((hr _).1.mpr hexact) ((hr _).1.mpr hexact) _ _).trans ?_
    rfl

theorem rounded?_odd : rounded? 9007199254740993 = some 9007199254740992 := by decide +kernel

/-- The number before the lower bound passes, since a written bound loses its last binary digit. -/
theorem validate_below_written :
    Bound.ofInt (.text "9007199254740993") "min" true = .ok (some 9007199254740992) ∧
      Size.ofValue (.text "9007199254740993") = .ok (some 9007199254740992) ∧
      initial.validate (.int 9007199254740992)
        (.text "int; min: 9007199254740993; max: 9007199254740993") (some true) =
          .ok ⟨.int 9007199254740992, .int 9007199254740992⟩ ∧
      initial.validate (.int 9007199254740992) (between "int" 9007199254740993 9007199254740993)
        (some true) =
          .error (.rejected "Data doesn't respect contract (out of range integer).") := by
  have hsize : Size.Writes 9007199254740993 0 "9007199254740993".toList :=
    @Size.Writes.mk 9007199254740993 0 [] [] [] [] (.one (by decide)) (by simp) (by simp) (by simp)
  obtain ⟨_, hw, rfl⟩ : ∃ cs, Source.Writes (boundTexts 9007199254740993 9007199254740993) cs ∧
      cs = "; min: 9007199254740993; max: 9007199254740993".toList :=
    ⟨_, .cons (.plain (by decide) (by decide)) (.cons (.plain (by decide) (by decide)) .nil),
      by decide⟩
  have ht : TypeExpr.read (.text "int") = .ok ⟨["int"], none, false⟩ := by decide
  refine ⟨?_, ?_, ?_, by rfl⟩
  · have hb := Bound.ofInt_text 9007199254740993 "min"
    rw [rounded?_odd] at hb
    exact hb
  · have hs := Size.ofValue_text hsize
    rw [show ((9007199254740993 * 1024 ^ 0 : Nat) : Int) = 9007199254740993 by rfl,
      rounded?_odd] at hs
    exact hs
  · exact (validate_boundTexts (f := initial) (by decide) (by decide) ht (by decide) hw rounded?_odd
      rounded?_odd _ _).trans (by rfl)

end Filter
end Covenant
