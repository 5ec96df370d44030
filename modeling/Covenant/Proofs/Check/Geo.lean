import Covenant.Proofs.Check.Coordinate
import Covenant.Proofs.Check.Default
import Covenant.Proofs.Check.Repeat
import Covenant.Proofs.Double.Order
import Covenant.Proofs.Filter.Step
import Covenant.Proofs.Text
import Covenant.Proofs.Value.Equality

/-! Points are read back from the text they are written in, inside the area they were moved to. -/

namespace Covenant

namespace Double

variable {x y x' y' : Double} {least most : Option Double}

theorem max_key (hx : x.key = some a) (hy : y.key = some b) : (x.max y).key = some (a ⊔ b) := by
  rw [max, lt, hx, hy]
  dsimp only
  split
  · rename_i h
    rw [hy, max_eq_right (of_decide_eq_true h).le]
  · rename_i h
    rw [hx, max_eq_left (not_lt.mp fun hlt => h (decide_eq_true hlt))]

theorem min_key (hx : x.key = some a) (hy : y.key = some b) : (x.min y).key = some (a ⊓ b) := by
  rw [min, lt, hx, hy]
  dsimp only
  split
  · rename_i h
    rw [hy, min_eq_right (of_decide_eq_true h).le]
  · rename_i h
    rw [hx, min_eq_left (not_lt.mp fun hlt => h (decide_eq_true hlt))]

theorem IsUpTo.isFinite (h : x.IsUpTo n) : x.isFinite := by
  obtain ⟨negative, rank, rfl, hi, _⟩ := h
  exact ofRank_isFinite.mpr hi

theorem lt_congr (hx : x.key = x'.key) (hy : y.key = y'.key) : x.lt y = x'.lt y' := by
  rw [lt, lt, hx, hy]

theorem eq_of_key (hx : x.isFinite) (h : y.key = x.key) : y.eq x := by
  obtain ⟨a, ha⟩ := exists_key hx
  rw [eq, h, ha]
  exact decide_eq_true rfl

theorem eq_ofRank_zero {rank : Fin (infinityRank + 1)} (h : rank.val = 0) :
    number negative rank = ofRank negative 0 :=
  congrArg (number negative) (Fin.ext h)

/-- Numbers at one place are the same, or zeros. -/
theorem eq_or_zero_of_key (hx : x.isFinite) (h : y.key = x.key) :
    y = x ∨ ∃ s t, x = ofRank s 0 ∧ y = ofRank t 0 := by
  cases x with
  | nan => cases hx
  | number negative rank =>
    cases y with
    | nan => cases h
    | number negative' rank' =>
      have hk := Option.some.inj h
      by_cases h0 : rank.val = 0
      · have h0' : rank'.val = 0 := by
          cases negative <;> cases negative' <;>
            simp only [if_true, if_false, Bool.false_eq_true] at hk <;> omega
        exact .inr ⟨negative, negative', eq_ofRank_zero h0, eq_ofRank_zero h0'⟩
      · left
        cases negative <;> cases negative' <;>
          simp only [if_true, if_false, Bool.false_eq_true] at hk
        · exact congrArg (number false) (Fin.ext (by omega))
        · omega
        · omega
        · exact congrArg (number true) (Fin.ext (by omega))

/-- A number moved to the nearest bound. -/
def clamped (least most : Option Double) (x : Double) : Double :=
  most.elim (least.elim x x.max) (least.elim x x.max).min

/-- A moved number is the number or one of the bounds. -/
theorem clamped_of_forall {P : Double → Prop} (hx : P x) (hl : ∀ b ∈ least, P b)
    (hm : ∀ b ∈ most, P b) : P (clamped least most x) :=
  hold_of_forall lt hx hl hm

/-- What has been moved between bounds stays there, even if the bounds are not in order. -/
theorem clamped_key (hl : ∀ b ∈ least, b.isFinite) (hm : ∀ b ∈ most, b.isFinite)
    (hx : x.isFinite) (h : y.key = (clamped least most x).key) :
    (clamped least most y).key = y.key := by
  obtain ⟨a, ha⟩ := exists_key hx
  cases least with
  | none =>
    cases most with
    | none => rfl
    | some c =>
      obtain ⟨k, hk⟩ := exists_key (hm c rfl)
      have hy : y.key = some (a ⊓ k) := h.trans (min_key ha hk)
      rw [hy]
      exact (min_key hy hk).trans (by rw [inf_assoc, inf_idem])
  | some b =>
    obtain ⟨j, hj⟩ := exists_key (hl b rfl)
    cases most with
    | none =>
      have hy : y.key = some (a ⊔ j) := h.trans (max_key ha hj)
      rw [hy]
      exact (max_key hy hj).trans (by rw [sup_assoc, sup_idem])
    | some c =>
      obtain ⟨k, hk⟩ := exists_key (hm c rfl)
      have hy : y.key = some ((a ⊔ j) ⊓ k) := h.trans (min_key (max_key ha hj) hk)
      rw [hy]
      exact (min_key (max_key hy hj) hk).trans (congrArg some (by omega))

end Double

theorem formatNumber_congr {x y : Double} (hx : x.isFinite) (h : y.key = x.key) :
    formatNumber y = formatNumber x := by
  rcases Double.eq_or_zero_of_key hx h with rfl | h
  · rfl
  · have hzero (s : Bool) : formatNumber (.ofRank s 0) = "0" := by
      have ht := @Check.Geo.formatNumber_whole 0 0 (by decide) (Nat.zero_mul _).symm s
      rw [← String.toList_inj, ht]
      simp
      rfl
    obtain ⟨s, t, rfl, rfl⟩ := h
    rw [hzero, hzero]

namespace Check.Geo

open Double (clamped)
open Decimal (Written digitChar signText)

/-- A point in the ranges of latitudes and longitudes. -/
structure OnEarth (p : Point) : Prop where
  latitude : p.latitude.IsUpTo 90
  longitude : p.longitude.IsUpTo 180

/-- A point with the same coordinates, the signs of zeros apart. -/
structure Same (q p : Point) : Prop where
  latitude : q.latitude.key = p.latitude.key
  longitude : q.longitude.key = p.longitude.key

/-- A point moved to the nearest edge of an area. -/
def moved (southWest northEast : Option Point) (p : Point) : Point :=
  ⟨clamped (southWest.map Point.latitude) (northEast.map Point.latitude) p.latitude,
    clamped (southWest.map Point.longitude) (northEast.map Point.longitude) p.longitude⟩

def text (p : Point) : String := formatNumber p.latitude ++ ", " ++ formatNumber p.longitude

theorem mem_text {w : Written} (hd : ∀ d ∈ w.whole ++ w.fraction, d < 10)
    (hc : c ∈ signText negative ++ w.text) : isAsciiDigit c ∨ c ∈ ['-', '+', '.', 'e'] := by
  have hdigits {ds : List Nat} (h : ∀ d ∈ ds, d < 10) (hc : c ∈ ds.map digitChar) :
      isAsciiDigit c := by
    obtain ⟨d, hd, rfl⟩ := List.mem_map.mp hc
    exact Decimal.isAsciiDigit_digitChar (h d hd)
  obtain ⟨hw, hf⟩ := List.forall_mem_append.mp hd
  rcases List.mem_append.mp hc with hc | hc
  · right
    cases negative
    · cases hc
    · rw [List.mem_singleton.mp hc]
      decide
  · rcases List.mem_append.mp hc with hc | hc
    · exact .inl (hdigits hw hc)
    · rcases List.mem_append.mp hc with hc | hc
      · unfold Written.fractionText at hc
        split at hc
        · cases hc
        · rename_i h
          rcases List.mem_cons.mp hc with rfl | hc
          · exact .inr (by decide)
          · exact .inl (hdigits hf hc)
      · unfold Written.exponentText at hc
        split at hc
        · cases hc
        · rename_i e _
          rcases List.mem_cons.mp hc with rfl | hc
          · exact .inr (by decide)
          · rcases List.mem_cons.mp hc with rfl | hc
            · right
              split <;> decide
            · exact .inl (hdigits (Decimal.exponentFigures_lt e.natAbs) hc)

/-- A finite number is written without blanks and commas. -/
theorem plain_formatNumber {x : Double} (hx : x.IsUpTo n) :
    (formatNumber x).toList ≠ [] ∧
      ∀ c ∈ (formatNumber x).toList, ¬isBlank c ∧ ¬(c == ',') := by
  obtain ⟨negative, w, hd, hne, he⟩ : ∃ negative w,
      (∀ d ∈ w.whole ++ w.fraction, d < 10) ∧ w.whole ≠ [] ∧
        (formatNumber x).toList = signText negative ++ Written.text w := by
    obtain ⟨negative, rank, rfl, hi, _⟩ := hx
    by_cases h : (Double.ofRank negative rank).isInteger
    · have hu := Nat.div_mul_cancel (Nat.dvd_of_mod_eq_zero ((isInteger_iff hi negative).mp h))
      refine ⟨_, _, ?_, ?_, formatNumber_whole hi hu.symm negative⟩
      · simpa using Decimal.figures_lt _
      · obtain ⟨d, ds, hd⟩ := Decimal.figures_cons (Double.units rank / Double.unitsOfOne)
        simp [hd]
    · have h0 := pos_of_not_isInteger hi h
      have hw := Decimal.isFloat_written (Decimal.roundsTo_shortest h0 hi).1
      obtain ⟨d, ds, hwhole⟩ := hw.whole_eq_cons
      exact ⟨_, _, hw.digits, by simp [hwhole], formatNumber_fraction h hi h0⟩
  rw [he]
  refine ⟨by simp [Written.text, hne], fun c hc => ?_⟩
  rcases mem_text hd hc with hc | hc
  · refine ⟨not_isBlank_of_digit hc, ?_⟩
    rintro hcomma
    rw [beq_iff_eq.mp hcomma] at hc
    cases hc
  · have hmarks : ['-', '+', '.', 'e'].all (fun c => !isBlank c && !(c == ',')) := by decide
    simpa using List.all_eq_true.mp hmarks c hc

/-- The two numbers in a point's text are read one by one. -/
theorem point?_text (hp : OnEarth p) : point? (text p) =
    (coordinate? isLatitude (formatNumber p.latitude).toList).bind fun latitude =>
      (coordinate? isLongitude (formatNumber p.longitude).toList).map fun longitude =>
        ⟨latitude, longitude⟩ := by
  obtain ⟨hne, hlat⟩ := plain_formatNumber hp.latitude
  obtain ⟨hne', hlon⟩ := plain_formatNumber hp.longitude
  have htext : (text p).toList = (formatNumber p.latitude).toList ++
      ',' :: ' ' :: (formatNumber p.longitude).toList := by
    rw [text, String.toList_append, String.toList_append, List.append_assoc]
    rfl
  obtain ⟨c, cs, hc⟩ := List.exists_cons_of_ne_nil hne
  obtain ⟨d, ds, hd⟩ := List.exists_cons_of_ne_nil hne'
  have hblank : isBlank ' ' := by decide
  have htrim : trim (text p).toList = (text p).toList := by
    apply trim_of_ends
    · rw [htext, hc]
      rintro _ ⟨⟩
      exact (hlat c (by simp [hc])).1
    · rw [htext, List.append_cons, List.append_cons, List.getLast?_append_of_ne_nil _ hne']
      exact fun x hx => (hlon x (List.mem_of_getLast? hx)).1
  have hrest : splitWhere (· == ',') (' ' :: (formatNumber p.longitude).toList) =
      [' ' :: (formatNumber p.longitude).toList] := by
    apply splitWhere_of_no_sep
    intro x hx
    rcases List.mem_cons.mp hx with rfl | hx
    · decide
    · exact (hlon x hx).2
  have hlongitude : trimLeft (' ' :: (formatNumber p.longitude).toList) =
      (formatNumber p.longitude).toList := by
    rw [trimLeft_cons_of_blank hblank, hd, trimLeft_cons_of_not_blank (hlon d (by simp [hd])).1]
  rw [point?, htrim, htext, splitWhere_append (fun x hx => (hlat x hx).2) (by rfl), hrest]
  dsimp only
  rw [hlongitude]
  cases coordinate? isLatitude (formatNumber p.latitude).toList with
  | none => rfl
  | some latitude =>
    cases coordinate? isLongitude (formatNumber p.longitude).toList with
    | none => rfl
    | some longitude => rfl

theorem onEarth_of_point? (h : point? s = some p) : OnEarth p := by
  unfold point? at h
  split at h
  · obtain ⟨latitude, hlat, h⟩ := Option.bind_eq_some_iff.mp h
    obtain ⟨longitude, hlon, h⟩ := Option.bind_eq_some_iff.mp h
    cases h
    exact ⟨isUpTo_of_coordinate? isDegrees_latitude hlat,
      isUpTo_of_coordinate? isDegrees_longitude hlon⟩
  · cases h

theorem onEarth_of_corner (h : corner params name = .ok c) : ∀ p ∈ c, OnEarth p := by
  unfold corner at h
  dsimp only at h
  split at h
  · cases h
    exact nofun
  · split at h
    · rename_i p hp
      cases h
      rintro _ ⟨⟩
      cases hv : params.get name with
      | text s =>
        rw [hv] at hp
        exact onEarth_of_point? hp
      | _ =>
        rw [hv] at hp
        cases hp
    · cases h

variable {southWest northEast : Option Point} {p q : Point} {mode : Mode}

theorem moved_onEarth (hs : ∀ c ∈ southWest, OnEarth c) (hn : ∀ c ∈ northEast, OnEarth c)
    (hp : OnEarth p) : OnEarth (moved southWest northEast p) :=
  ⟨Double.clamped_of_forall hp.latitude
      (Option.forall_mem_map.mpr fun c hc => (hs c hc).latitude)
      (Option.forall_mem_map.mpr fun c hc => (hn c hc).latitude),
    Double.clamped_of_forall hp.longitude
      (Option.forall_mem_map.mpr fun c hc => (hs c hc).longitude)
      (Option.forall_mem_map.mpr fun c hc => (hn c hc).longitude)⟩

/-- A point that is beyond neither corner of an area. -/
structure Inside (southWest northEast : Option Point) (p : Point) : Prop where
  above : ∀ c ∈ southWest, isBelow p c = false
  below : ∀ c ∈ northEast, isBelow c p = false

theorem raise_of_not_isBelow (h : isBelow p c = false) : raise p c = p := by
  rw [isBelow, Bool.or_eq_false_iff] at h
  rw [raise, Double.max, Double.max, h.1, h.2]
  rfl

theorem lower_of_not_isBelow (h : isBelow c p = false) : lower p c = p := by
  rw [isBelow, Bool.or_eq_false_iff] at h
  rw [lower, Double.min, Double.min, h.1, h.2]
  rfl

theorem accepted_eq (p : Point) : accepted p =
    .ok ⟨.text (text p), .tuple [.float p.latitude, .float p.longitude]⟩ := rfl

theorem upTo_eq_ok : upTo mode northEast p = .ok r ↔
    (mode.strict → ∀ c ∈ northEast, isBelow c p = false) ∧
      accepted (moved none northEast p) = .ok r := by
  cases northEast with
  | none => exact (and_iff_right fun _ => nofun).symm
  | some c =>
    rw [upTo]
    have hm : moved none (some c) p = lower p c := rfl
    cases h : isBelow c p with
    | false => simp [hm, lower_of_not_isBelow h, h]
    | true => cases hs : mode.strict <;> simp [hm, h, refuse]

/-- A point is moved to the area, unless the mode is strict: then it has to be inside. -/
theorem check_eq_ok (hs : corner params "min" = .ok southWest)
    (hn : corner params "max" = .ok northEast) (hp : point? s = some p) :
    check mode params (.text s) = .ok r ↔ (mode.strict → Inside southWest northEast p) ∧
      accepted (moved southWest northEast p) = .ok r := by
  have hdata : pointOf? (.text s) = some p := hp
  cases southWest with
  | none =>
    have hcheck : check mode params (.text s) = upTo mode northEast p := by
      rw [check, hs, hn, lift_ok, lift_ok]
      simp only [hdata, bind, Except.bind]
    rw [hcheck, upTo_eq_ok]
    refine and_congr_left fun _ => imp_congr_right fun _ => ?_
    exact ⟨fun h => ⟨by simp, h⟩, fun h => h.below⟩
  | some c =>
    have hcheck : check mode params (.text s) =
        if isBelow p c then
          if mode.strict then refuse "Data doesn't respect contract (geo coordinates too low)."
          else upTo mode northEast (raise p c)
        else upTo mode northEast p := by
      rw [check, hs, hn, lift_ok, lift_ok]
      simp only [hdata, bind, Except.bind]
    have hm : moved (some c) northEast p = moved none northEast (raise p c) := rfl
    rw [hcheck]
    cases h : isBelow p c with
    | false =>
      rw [if_neg Bool.false_ne_true, upTo_eq_ok, hm, raise_of_not_isBelow h]
      refine and_congr_left fun _ => imp_congr_right fun _ => ?_
      exact ⟨fun hb => ⟨by simpa using h, hb⟩, fun hi => hi.below⟩
    | true =>
      rw [if_pos rfl]
      cases hstrict : mode.strict with
      | false =>
        rw [if_neg Bool.false_ne_true, upTo_eq_ok, hm, hstrict]
        simp
      | true =>
        rw [if_pos rfl]
        refine iff_of_false (by simp [refuse]) fun hi => ?_
        rw [(hi.1 rfl).above c rfl] at h
        cases h

/-- A point with a coordinate that is not zero, and yet less than one ten-thousandth. -/
def IsTiny (p : Point) : Prop := p.latitude.IsTiny ∨ p.longitude.IsTiny

/-- A point is read back from its text, but for the signs of zeros, unless it is tiny. -/
theorem point?_text_cases (hp : OnEarth p) :
    (IsTiny p ∧ point? (text p) = none) ∨
      (¬IsTiny p ∧ ∃ q, point? (text p) = some q ∧ Same q p) := by
  rw [point?_text hp, IsTiny, not_or]
  rcases coordinate?_formatNumber isDegrees_latitude hp.latitude with
    ⟨ht, hlat⟩ | ⟨ht, latitude, hlat, hk⟩
  · rw [hlat]
    exact .inl ⟨.inl ht, rfl⟩
  · rcases coordinate?_formatNumber isDegrees_longitude hp.longitude with
      ⟨ht', hlon⟩ | ⟨ht', longitude, hlon, hk'⟩
    · rw [hlat, hlon]
      exact .inl ⟨.inr ht', rfl⟩
    · rw [hlat, hlon]
      exact .inr ⟨⟨ht, ht'⟩, _, rfl, hk, hk'⟩

theorem Same.text_eq (h : Same q p) (hp : OnEarth p) : text q = text p := by
  rw [text, text, formatNumber_congr hp.latitude.isFinite h.latitude,
    formatNumber_congr hp.longitude.isFinite h.longitude]

theorem Same.trans (h : Same o q) (h' : Same q p) : Same o p :=
  ⟨h.latitude.trans h'.latitude, h.longitude.trans h'.longitude⟩

theorem Same.inside (h : Same q p) (hi : Inside southWest northEast p) :
    Inside southWest northEast q := by
  constructor
  · intro c hc
    rw [isBelow, Double.lt_congr h.latitude rfl, Double.lt_congr h.longitude rfl]
    exact hi.above c hc
  · intro c hc
    rw [isBelow, Double.lt_congr rfl h.latitude, Double.lt_congr rfl h.longitude]
    exact hi.below c hc

theorem moved_of_inside (h : Inside southWest northEast p) : moved southWest northEast p = p := by
  have hraise : moved southWest northEast p = moved none northEast p := by
    cases southWest with
    | none => rfl
    | some c =>
      have hm : moved (some c) northEast p = moved none northEast (raise p c) := rfl
      rw [hm, raise_of_not_isBelow (h.above c rfl)]
  rw [hraise]
  cases northEast with
  | none => rfl
  | some c => exact lower_of_not_isBelow (h.below c rfl)

/-- A point that was moved is not moved any more. -/
theorem moved_again (hs : ∀ c ∈ southWest, OnEarth c) (hn : ∀ c ∈ northEast, OnEarth c)
    (hp : OnEarth p) (h : Same q (moved southWest northEast p)) :
    Same (moved southWest northEast q) q :=
  ⟨Double.clamped_key (Option.forall_mem_map.mpr fun c hc => (hs c hc).latitude.isFinite)
      (Option.forall_mem_map.mpr fun c hc => (hn c hc).latitude.isFinite)
      hp.latitude.isFinite h.latitude,
    Double.clamped_key (Option.forall_mem_map.mpr fun c hc => (hs c hc).longitude.isFinite)
      (Option.forall_mem_map.mpr fun c hc => (hn c hc).longitude.isFinite)
      hp.longitude.isFinite h.longitude⟩

theorem check_text_eq_ok (h : check mode params (.text s) = .ok r) :
    ∃ southWest northEast p, corner params "min" = .ok southWest ∧
      corner params "max" = .ok northEast ∧ point? s = some p ∧
      (mode.strict → Inside southWest northEast p) ∧
      accepted (moved southWest northEast p) = .ok r := by
  obtain ⟨southWest, hs, h'⟩ := bind_eq_ok.mp h
  obtain ⟨northEast, hn, h'⟩ := bind_eq_ok.mp h'
  cases hp : point? s with
  | none =>
    have hdata : pointOf? (.text s) = none := hp
    rw [hdata] at h'
    cases h'
  | some p =>
    exact ⟨southWest, northEast, p, lift_eq_ok.mp hs, lift_eq_ok.mp hn, rfl,
      (check_eq_ok (lift_eq_ok.mp hs) (lift_eq_ok.mp hn) hp).mp h⟩

/-- The text of a point that was accepted is accepted as it is, unless the point is tiny. -/
theorem check_again (h : check mode params (.text s) = .ok r) :
    ∃ p, r = ⟨.text (text p), .tuple [.float p.latitude, .float p.longitude]⟩ ∧ OnEarth p ∧
      ((IsTiny p ∧ point? (text p) = none ∧ check mode params (.text (text p)) =
          refuse "Data is not a valid geo coordinates string.") ∨
        ∃ q o, ¬IsTiny p ∧ point? (text p) = some q ∧ Same q p ∧ Same o p ∧
          check mode params (.text (text p)) =
            .ok ⟨.text (text p), .tuple [.float o.latitude, .float o.longitude]⟩) := by
  obtain ⟨southWest, northEast, p, hs, hn, hp, hi, ha⟩ := check_text_eq_ok h
  have hsouth := onEarth_of_corner hs
  have hnorth := onEarth_of_corner hn
  have hearth := onEarth_of_point? hp
  have hmoved := moved_onEarth hsouth hnorth hearth
  refine ⟨moved southWest northEast p, (Except.ok.inj ha).symm, hmoved, ?_⟩
  rcases point?_text_cases hmoved with ⟨ht, hread⟩ | ⟨ht, q, hread, hsame⟩
  · have hdata : pointOf? (.text (text (moved southWest northEast p))) = none := hread
    refine .inl ⟨ht, hread, ?_⟩
    rw [check, hs, hn, lift_ok, lift_ok]
    simp only [hdata, bind, Except.bind]
  · have hagain := moved_again hsouth hnorth hearth hsame
    refine .inr ⟨q, moved southWest northEast q, ht, hread, hsame, hagain.trans hsame, ?_⟩
    refine (check_eq_ok hs hn hread).mpr ⟨fun hstrict => ?_, ?_⟩
    · have hinside := hi hstrict
      rw [moved_of_inside hinside] at hsame
      exact hsame.inside hinside
    · rw [accepted_eq, (hagain.trans hsame).text_eq hmoved]

end Check.Geo

namespace Kind

open Check.Geo (IsTiny point?)

variable {params : Params} {mode : Mode} {inner : Check.Delegate}

/-- The text of an accepted point is the text of the same point, and is accepted as it is. If the
point has a coordinate that is not zero, and yet less than one ten-thousandth, then its text has an
exponent and is no point. -/
theorem validate_point (hd : params.get "default" = .null)
    (h : geo.validate inner mode params (.text s) = .ok r) :
    ∃ p t, r = ⟨.text t, .tuple [.float p.latitude, .float p.longitude]⟩ ∧
      (¬IsTiny p → (∃ q, point? t = some q ∧ q.latitude.eq p.latitude ∧
        q.longitude.eq p.longitude) ∧
        ∃ o : Check.Geo.Point, geo.validate inner mode params (.text t) =
          .ok ⟨.text t, .tuple [.float o.latitude, .float o.longitude]⟩ ∧
          o.latitude.eq p.latitude ∧ o.longitude.eq p.longitude) ∧
      (IsTiny p → point? t = none ∧ geo.validate inner mode params (.text t) =
        .error (.rejected "Data is not a valid geo coordinates string.")) := by
  rw [validate_without_default hd, Check.settle_eq_ok] at h
  obtain ⟨p, hr, hearth, hp⟩ := Check.Geo.check_again h
  refine ⟨p, Check.Geo.text p, hr, ?_⟩
  have heq {q} (hs : Check.Geo.Same q p) :
      q.latitude.eq p.latitude ∧ q.longitude.eq p.longitude :=
    ⟨Double.eq_of_key hearth.latitude.isFinite hs.latitude,
      Double.eq_of_key hearth.longitude.isFinite hs.longitude⟩
  rcases hp with ⟨ht, hread, hagain⟩ | ⟨q, o, ht, hread, hq, ho, hagain⟩
  · refine ⟨fun hn => absurd ht hn, fun _ => ⟨hread, ?_⟩⟩
    rw [validate_without_default hd]
    exact congrArg Check.settle hagain
  · exact ⟨fun _ => ⟨⟨q, hread, heq hq⟩, o, @validate_of_accepted geo _ _ _ _ _ hagain, heq ho⟩,
      fun hn => absurd hn ht⟩

/-- The points north of the 49th parallel. -/
def northern : Params := [("min", .text "49, 0")]

theorem validate_northern :
    ∃ r, geo.validate Check.noParts ⟨false, false⟩ northern (.text "48.8566,2.3522") = .ok r ∧
      r.value = .text "49, 2.3522" ∧
      ∃ r', geo.validate Check.noParts ⟨false, false⟩ northern (.text "49, 2.3522") = .ok r' ∧
        r'.value = .text "49, 2.3522" := by
  have hv : (geo.validate Check.noParts ⟨false, false⟩ northern (.text "48.8566,2.3522")).map
      (·.value) = .ok (.text "49, 2.3522") := by
    decide +kernel
  have hread : (point? "49, 2.3522").isSome := by decide +kernel
  cases h : geo.validate Check.noParts ⟨false, false⟩ northern (.text "48.8566,2.3522") with
  | error f =>
    rw [h] at hv
    cases hv
  | ok r =>
    rw [h] at hv
    obtain ⟨p, t, hr, hplain, htiny⟩ := validate_point rfl h
    obtain rfl : t = "49, 2.3522" := Value.text.inj (by simpa [hr] using Except.ok.inj hv)
    by_cases ht : IsTiny p
    · rw [(htiny ht).1] at hread
      cases hread
    · obtain ⟨_, o, ho, _⟩ := hplain ht
      exact ⟨r, rfl, by rw [hr], _, ho, rfl⟩

/-- A tiny coordinate is written with an exponent, which the next check refuses. -/
theorem validate_tiny :
    (Filter.initial.validate (.text "0.00001, 0") (.text "geo") (some false)).map (·.value) =
        .ok (.text "1e-05, 0") ∧
      point? "1e-05, 0" = none ∧
      Filter.initial.validate (.text "1e-05, 0") (.text "geo") (some false) =
        .error (.rejected "Data is not a valid geo coordinates string.") := by
  refine ⟨by decide +kernel, ?_, by decide +kernel⟩
  exact Option.isNone_iff_eq_none.mp (by decide +kernel)

end Kind
end Covenant
