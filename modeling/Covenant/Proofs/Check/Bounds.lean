import Covenant.Proofs.Check.Geo
import Covenant.Proofs.Check.Span
import Covenant.Proofs.Time.Offset
import Covenant.Proofs.Value.Equality

/-! Integers, points and moments between their bounds. -/

namespace Covenant

variable {mode : Mode} {params : Params} {data : Value} {inner : Check.Delegate}

namespace Check

section Int

variable {least most : Option Int}

/-- The integer that data is read as. -/
def intOf? (mode : Mode) (data : Value) : Except Failure (Option Int) :=
  if mode.strict then .ok (exactInt data) else Loose.readInt data

theorem int_of_read (hl : Bound.ofInt (params.get "min") "min" (mode.inline || !mode.strict) =
      .ok least)
    (hm : Bound.ofInt (params.get "max") "max" (mode.inline || !mode.strict) = .ok most)
    (hc : clamps params = .ok clamp) (hread : intOf? mode data = .ok (some i)) :
    int mode params data =
      if least.any (i < ·) || most.any (· < i) then
        if mode.strict || !clamp then refuse "Data doesn't respect contract (out of range integer)."
        else accept (.int (most.elim (least.elim i (max i)) (min (least.elim i (max i)))))
      else accept (.int i) := by
  rw [intOf?] at hread
  rw [int]
  simp only [hl, hm, hc, hread]
  rfl

theorem read_of_int (h : int mode params data = .ok r) :
    (∃ clamp, clamps params = .ok clamp) ∧ ∃ i, intOf? mode data = .ok (some i) := by
  obtain ⟨_, _, h⟩ := bind_eq_ok.mp h
  obtain ⟨_, _, h⟩ := bind_eq_ok.mp h
  obtain ⟨clamp, hc, h⟩ := bind_eq_ok.mp h
  obtain ⟨read, hread, h⟩ := bind_eq_ok.mp h
  cases read with
  | none => cases h
  | some i => exact ⟨⟨clamp, lift_eq_ok.mp hc⟩, i, lift_eq_ok.mp hread⟩

theorem held_of_not_beyond (h : ¬(least.any (i < ·) || most.any (· < i))) :
    Held (· ≤ ·) least most i i := by
  obtain ⟨hl, hm⟩ := not_beyond_iff.mp (Bool.eq_false_iff.mpr h)
  exact .self hl hm

end Int

namespace Temporal

theorem finish_ne_refuse (format : Value) (m : Moment) (message : String) :
    finish format m ≠ refuse message := by
  intro h
  cases hf : formatChars format with
  | ok cs =>
    rw [finish, hf] at h
    cases h
  | error f =>
    rw [finish, hf] at h
    cases h

theorem output_of_finish {format : Value} (h : finish format m = .ok r) :
    r.output = components m := by
  obtain ⟨cs, _, h⟩ := bind_eq_ok.mp h
  cases h
  rfl

/-- What is known about a moment between two bounds is known about no moment beyond them. -/
theorem Span.holds_of_components {span : Span} {m x : Moment} (h : span.Holds x)
    (he : components x = components m) : span.Holds m := by
  have heq := sinceEpoch_of_components he
  exact ⟨fun a ha => (h.least a ha).trans_eq heq, fun b hb => heq.symm.trans_le (h.most b hb)⟩

end Temporal

namespace Geo

variable {southWest northEast : Option Point} {p : Point}

/-- What becomes of both coordinates of a point between the corners of an area. -/
structure HeldPoint (southWest northEast : Option Point) (p q : Point) : Prop where
  latitude : Held (fun x y => x.le y = true) (southWest.map Point.latitude)
    (northEast.map Point.latitude) p.latitude q.latitude
  longitude : Held (fun x y => x.le y = true) (southWest.map Point.longitude)
    (northEast.map Point.longitude) p.longitude q.longitude

theorem heldPoint_moved (hs : ∀ c ∈ southWest, OnEarth c) (hn : ∀ c ∈ northEast, OnEarth c)
    (ho : ∀ a ∈ southWest, ∀ b ∈ northEast, a.latitude.le b.latitude ∧ a.longitude.le b.longitude)
    (hp : OnEarth p) : HeldPoint southWest northEast p (moved southWest northEast p) := by
  constructor
  · refine Double.compares.held_hold hp.latitude.isFinite ?_ ?_ ?_
    · exact Option.forall_mem_map.mpr fun c hc => (hs c hc).latitude.isFinite
    · exact Option.forall_mem_map.mpr fun c hc => (hn c hc).latitude.isFinite
    · exact Option.forall_mem_map.mpr fun a ha => Option.forall_mem_map.mpr fun b hb =>
        (ho a ha b hb).1
  · refine Double.compares.held_hold hp.longitude.isFinite ?_ ?_ ?_
    · exact Option.forall_mem_map.mpr fun c hc => (hs c hc).longitude.isFinite
    · exact Option.forall_mem_map.mpr fun c hc => (hn c hc).longitude.isFinite
    · exact Option.forall_mem_map.mpr fun a ha => Option.forall_mem_map.mpr fun b hb =>
        (ho a ha b hb).2

theorem pointOf?_of_check (h : check mode params data = .ok r) :
    ∃ s, data = .text s := by
  obtain ⟨_, _, h⟩ := bind_eq_ok.mp h
  obtain ⟨_, _, h⟩ := bind_eq_ok.mp h
  cases data with
  | text s => exact ⟨s, rfl⟩
  | _ => cases h

end Geo

end Check

namespace Kind

open Check.Geo (HeldPoint)
open Check.Temporal (Span)

variable {kind : Kind} {d : Value} {moves : Prop} {read : Value → Except Failure (Option α)}
  {held : α → α → Prop} {shown : α → Outcome}

/-- Data, or the default that stands in for it. -/
def StandsIn (kind : Kind) (mode : Mode) (params : Params) (data d : Value) : Prop :=
  d = data ∨ kind.nativeDefault mode (params.get "default") = .ok d

/-- How a kind holds the values it reads. What is let through was read from the data or its default,
and is shown as what the value becomes; strictly, it becomes no other. Loosely, if values are moved
at all, any value that is read of the data is shown as what it becomes. -/
structure KeepsBounds (kind : Kind) (inner : Check.Delegate) (mode : Mode) (params : Params)
    (moves : Prop) (read : Value → Except Failure (Option α)) (held : α → α → Prop)
    (shown : α → Outcome) : Prop where
  of_ok : ∀ data r, kind.validate inner mode params data = .ok r →
    ∃ d x y, kind.StandsIn mode params data d ∧ read d = .ok (some x) ∧ held x y ∧
      (mode.strict → y = x) ∧ shown y = .ok r
  moved : mode.strict = false → moves → ∀ data x, read data = .ok (some x) →
    ∃ y, held x y ∧ kind.validate inner mode params data = Check.settle (shown y)

/-- A default only stands in for data that is refused. -/
theorem validate_of_not_refused (h : ∀ m, kind.check inner mode params data ≠ refuse m) :
    kind.validate inner mode params data = Check.settle (kind.check inner mode params data) := by
  cases hc : kind.check inner mode params data with
  | ok r => exact validate_of_accepted hc
  | error stop =>
    cases stop with
    | refused m => exact absurd hc (h m)
    | failed f => exact validate_of_failed hc

/-- It is enough to know the check, defaults apart, if what is shown is not refused. -/
theorem KeepsBounds.of_check (hk : kind ≠ null) (hshown : ∀ y m, shown y ≠ refuse m)
    (hok : ∀ d r, kind.check inner mode params d = .ok r →
      ∃ x y, read d = .ok (some x) ∧ held x y ∧ (mode.strict → y = x) ∧ shown y = .ok r)
    (hmoved : mode.strict = false → moves → ∀ data x, read data = .ok (some x) →
      ∃ y, held x y ∧ kind.check inner mode params data = shown y) :
    kind.KeepsBounds inner mode params moves read held shown := by
  constructor
  · intro data r h
    obtain ⟨d, hd, hc⟩ : ∃ d, kind.StandsIn mode params data d ∧
        kind.check inner mode params d = .ok r := by
      rcases check_of_validate_eq_ok hk h with hc | ⟨_, d, hd, hc⟩
      · exact ⟨data, .inl rfl, hc⟩
      · exact ⟨d, .inr hd, hc⟩
    obtain ⟨x, y, hx, hy⟩ := hok d r hc
    exact ⟨d, x, y, hd, hx, hy⟩
  · intro hs hm data x hx
    obtain ⟨y, hy, hc⟩ := hmoved hs hm data x hx
    refine ⟨y, hy, ?_⟩
    rw [validate_of_not_refused (by rw [hc]; exact hshown y), hc]

/-- Integers keep to bounds that are integers in their order. -/
theorem keepsBounds_int {least most : Option Int} (hl : params.get "min" = least.elim .null .int)
    (hm : params.get "max" = most.elim .null .int) (ho : ∀ a ∈ least, ∀ b ∈ most, a ≤ b) :
    int.KeepsBounds inner mode params (Check.clamps params = .ok true) (Check.intOf? mode)
      (Held (· ≤ ·) least most) (fun i => accept (.int i)) := by
  have hleast (convert : Bool) : Bound.ofInt (params.get "min") "min" convert = .ok least :=
    hl ▸ Check.ofInt_native least "min" convert
  have hmost (convert : Bool) : Bound.ofInt (params.get "max") "max" convert = .ok most :=
    hm ▸ Check.ofInt_native most "max" convert
  refine .of_check (by decide) (fun _ _ => nofun) ?_ ?_
  · intro d r h
    obtain ⟨⟨clamp, hc⟩, i, hread⟩ := Check.read_of_int h
    change Check.int mode params d = .ok r at h
    rw [Check.int_of_read (hleast _) (hmost _) hc hread] at h
    split at h
    · obtain ⟨hs, h⟩ := Check.ite_refuse_eq_ok.mp h
      rw [Bool.or_eq_true, not_or] at hs
      exact ⟨i, _, hread, Check.held_clamped ho i, fun hstrict => absurd hstrict hs.1, h⟩
    · rename_i hin
      exact ⟨i, i, hread, Check.held_of_not_beyond hin, fun _ => rfl, h⟩
  · intro hs hc data i hread
    have hint := Check.int_of_read (hleast _) (hmost _) hc hread
    split at hint
    · rw [hs, if_neg (by decide)] at hint
      exact ⟨_, Check.held_clamped ho i, hint⟩
    · rename_i hin
      exact ⟨i, Check.held_of_not_beyond hin, hint⟩

/-- Points keep to areas whose corners are in their order. -/
theorem keepsBounds_geo {southWest northEast : Option Check.Geo.Point}
    (hs : Check.Geo.corner params "min" = .ok southWest)
    (hn : Check.Geo.corner params "max" = .ok northEast)
    (ho : ∀ a ∈ southWest, ∀ b ∈ northEast,
      a.latitude.le b.latitude ∧ a.longitude.le b.longitude) :
    geo.KeepsBounds inner mode params True (fun d => .ok (Check.Geo.pointOf? d))
      (HeldPoint southWest northEast) Check.Geo.accepted := by
  have hsouth := Check.Geo.onEarth_of_corner hs
  have hnorth := Check.Geo.onEarth_of_corner hn
  refine .of_check (by decide) (fun _ _ => nofun) ?_ ?_
  · intro d r h
    change Check.Geo.check mode params d = .ok r at h
    obtain ⟨s, rfl⟩ := Check.Geo.pointOf?_of_check h
    obtain ⟨sw, ne, p, hs', hn', hp, hi, ha⟩ := Check.Geo.check_text_eq_ok h
    obtain rfl := Except.ok.inj (hs.symm.trans hs')
    obtain rfl := Except.ok.inj (hn.symm.trans hn')
    exact ⟨p, _, congrArg Except.ok hp,
      Check.Geo.heldPoint_moved hsouth hnorth ho (Check.Geo.onEarth_of_point? hp),
      fun hstrict => Check.Geo.moved_of_inside (hi hstrict), ha⟩
  · intro hm _ data p hp
    cases data with
    | text s =>
      have hp := Except.ok.inj hp
      refine ⟨_, Check.Geo.heldPoint_moved hsouth hnorth ho (Check.Geo.onEarth_of_point? hp), ?_⟩
      exact (Check.Geo.check_eq_ok hs hn hp).mpr ⟨by rw [hm]; nofun, rfl⟩
    | _ => cases hp

/-- Dates and times keep to bounds that are in order in time. -/
theorem keepsBounds_temporal {kind : Kind} {t : Check.Temporal} {span : Span}
    (hk : kind.temporal? = some t) (h : t.Bounded params span) :
    kind.KeepsBounds inner mode params True
      (Check.Temporal.readData mode.strict (t.inputFormat params))
      (Held (fun m m' => m.sinceEpoch ≤ m'.sinceEpoch) span.least span.most)
      (Check.Temporal.finish (t.outputFormat params)) := by
  refine .of_check (by rintro rfl; cases hk) (Check.Temporal.finish_ne_refuse _) ?_ ?_
  · intro d r hc
    rw [check_temporal hk] at hc
    obtain ⟨m, hread⟩ := h.read_of_check hc
    rw [h.check_of_read hread] at hc
    refine ⟨m, span.clamp m, hread, span.held_clamp m, ?_⟩
    cases hs : mode.strict with
    | true =>
      obtain ⟨hm, hc⟩ := Check.Temporal.answerWithin_strict hs hc
      rw [Span.clamp_of_holds hm]
      exact ⟨fun _ => rfl, hc⟩
    | false =>
      rw [Check.Temporal.answerWithin_loose hs] at hc
      exact ⟨nofun, hc⟩
  · intro hs _ data m hread
    refine ⟨span.clamp m, span.held_clamp m, ?_⟩
    rw [check_temporal hk, h.check_of_read hread, Check.Temporal.answerWithin_loose hs]

/-- The moment that the output for a date or a time describes is between the bounds. -/
theorem output_between {kind : Kind} {t : Check.Temporal} {span : Span}
    (hk : kind.temporal? = some t) (h : t.Bounded params span)
    (hv : kind.validate inner mode params data = .ok r) :
    (∃ m, r.output = Check.Temporal.components m) ∧
      ∀ m, r.output = Check.Temporal.components m → span.Holds m := by
  obtain ⟨_, _, m, _, _, hheld, _, hshown⟩ := (keepsBounds_temporal hk h).of_ok _ _ hv
  have hout := Check.Temporal.output_of_finish hshown
  have hm : span.Holds m := ⟨hheld.above, hheld.below⟩
  exact ⟨⟨m, hout⟩, fun x hx => Span.holds_of_components hm (hout.symm.trans hx)⟩

/-- Integers, both coordinates of points, and moments keep to bounds that are in their order, each
bound being given or not. What is let through lies between the bounds; strictly it is what was read.
Loosely it is what was read, or the bound that this lies beyond, and nothing that is read is
refused, except for integers where the contract says so. -/
theorem validate_between (inner : Check.Delegate) (mode : Mode) (params : Params) :
    (∀ least most : Option Int, params.get "min" = least.elim .null .int →
      params.get "max" = most.elim .null .int → (∀ a ∈ least, ∀ b ∈ most, a ≤ b) →
        int.KeepsBounds inner mode params (Check.clamps params = .ok true) (Check.intOf? mode)
          (Held (· ≤ ·) least most) fun i => accept (.int i)) ∧
    (∀ southWest northEast, Check.Geo.corner params "min" = .ok southWest →
      Check.Geo.corner params "max" = .ok northEast →
      (∀ a ∈ southWest, ∀ b ∈ northEast,
        a.latitude.le b.latitude ∧ a.longitude.le b.longitude) →
        geo.KeepsBounds inner mode params True (fun d => .ok (Check.Geo.pointOf? d))
          (HeldPoint southWest northEast) Check.Geo.accepted) ∧
    ∀ kind t span, temporal? kind = some t → t.Bounded params span →
      kind.KeepsBounds inner mode params True
        (Check.Temporal.readData mode.strict (t.inputFormat params))
        (Held (fun m m' => m.sinceEpoch ≤ m'.sinceEpoch) span.least span.most)
        (Check.Temporal.finish (t.outputFormat params)) ∧
      ∀ data r, kind.validate inner mode params data = .ok r →
        (∃ m, r.output = Check.Temporal.components m) ∧
          ∀ m, r.output = Check.Temporal.components m → span.Holds m :=
  ⟨fun _ _ hl hm ho => keepsBounds_int hl hm ho, fun _ _ hs hn ho => keepsBounds_geo hs hn ho,
    fun _ _ _ hk h => ⟨keepsBounds_temporal hk h, fun _ _ hv => output_between hk h hv⟩⟩

def oneToTen : Params := [("min", .int 1), ("max", .int 10)]

/-- The point whose coordinates are the numbers of these ranks, not below zero. -/
def point (latitude longitude : Nat) : Check.Geo.Point :=
  ⟨.ofRank false latitude, .ofRank false longitude⟩

/-- From 49 to 50 degrees of latitude, and from 0 to 5 of longitude. -/
def area : Params := [("min", .text "49, 0"), ("max", .text "50, 5")]

def march : Span where
  least := some ⟨⟨2026, 3, 1⟩, 0, 0, 0, 0, none⟩
  most := some ⟨⟨2026, 3, 31⟩, 0, 0, 0, 0, none⟩
  ordered := by
    rintro _ ⟨⟩ _ ⟨⟩
    decide +kernel

def inMarch : Params := [("min", .text "2026-03-01"), ("max", .text "2026-03-31")]

theorem bounded_inMarch : Check.Temporal.date.Bounded inMarch march :=
  ⟨by decide +kernel, by decide +kernel⟩

deriving instance DecidableEq for Check.Geo.Point

theorem validate_beyond :
    int.validate Check.noParts ⟨false, false⟩ oneToTen (.int 42) = .ok ⟨.int 10, .int 10⟩ ∧
      (∃ r, geo.validate Check.noParts ⟨false, false⟩ area (.text "48, 7") = .ok r ∧
        r.value = .text "49, 5") ∧
      ∃ r, date.validate Check.noParts ⟨false, false⟩ inMarch (.text "2026-02-30") = .ok r ∧
        ∀ m, r.output = Check.Temporal.components m → march.Holds m := by
  refine ⟨?_, ?_, ?_⟩
  · have h := (validate_between Check.noParts ⟨false, false⟩ oneToTen).1 (some 1) (some 10) rfl rfl
      (by rintro _ ⟨⟩ _ ⟨⟩; decide)
    obtain ⟨i, hi, hv⟩ := h.moved rfl rfl (.int 42) 42 rfl
    rw [hv, hi.lowered 10 rfl (by decide)]
    rfl
  · have hs : Check.Geo.corner area "min" = .ok (some (point 0x4048800000000000 0)) := by
      decide +kernel
    have hn : Check.Geo.corner area "max" =
        .ok (some (point 0x4049000000000000 0x4014000000000000)) := by
      decide +kernel
    have hp : Check.Geo.pointOf? (.text "48, 7") =
        some (point 0x4048000000000000 0x401C000000000000) := by
      decide +kernel
    have h := (validate_between Check.noParts ⟨false, false⟩ area).2.1 _ _ hs hn
      (by rintro _ ⟨⟩ _ ⟨⟩; decide +kernel)
    obtain ⟨q, hq, hv⟩ := h.moved rfl trivial (.text "48, 7") _ (congrArg Except.ok hp)
    have hlat := hq.latitude.raised _ rfl (by decide +kernel)
    have hlon := hq.longitude.lowered _ rfl (by decide +kernel)
    refine ⟨_, hv, ?_⟩
    show Value.text (formatNumber q.latitude ++ ", " ++ formatNumber q.longitude) = _
    rw [hlat, hlon]
    decide +kernel
  · have h := ((validate_between Check.noParts ⟨false, false⟩ inMarch).2.2 date _ march rfl
      bounded_inMarch).2
    cases hv : date.validate Check.noParts ⟨false, false⟩ inMarch (.text "2026-02-30") with
    | error f =>
      have hok : (date.validate Check.noParts ⟨false, false⟩ inMarch
          (.text "2026-02-30")).isOk := by
        decide +kernel
      rw [hv] at hok
      cases hok
    | ok r => exact ⟨r, rfl, (h _ r hv).2⟩

end Kind
end Covenant
