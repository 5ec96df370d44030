import Covenant.Proofs.Check.Carry
import Covenant.Proofs.Check.Repeat
import Covenant.Proofs.Time.Valid

/-! Dates and times of day are held between two moments. -/

namespace Covenant.Check.Temporal

variable {kind : Kind} {t : Temporal} {m : Moment}

theorem ofSeconds?_isUtc (h : ofSeconds? x = some m) : m.IsUtc := by
  cases x with
  | nan => cases h
  | number negative rank =>
    rw [ofSeconds?, Option.ite_none_left_eq_some] at h
    obtain ⟨_, h⟩ := h
    rw [Option.ite_none_left_eq_some] at h
    exact Moment.ofMicros?_isUtc rfl h.2

theorem ofTimestamp?_isUtc (h : ofTimestamp? v = some m) : m.IsUtc := by
  cases v with
  | int i =>
    obtain ⟨x, _, h⟩ := Option.bind_eq_some_iff.mp h
    exact ofSeconds?_isUtc h
  | float x => exact ofSeconds?_isUtc h
  | text s =>
    obtain ⟨n, _, h⟩ := Option.bind_eq_some_iff.mp h
    exact ofSeconds?_isUtc h
  | _ => cases h

/-- No kind has an offset in its format. -/
theorem offset_not_mem (hk : kind.temporal? = some t) :
    ∀ parts, Time.parts? false t.format.toList = some parts → .offset ∉ Time.fieldsOf parts := by
  intro parts hp
  have hnone : (Time.parts? false t.format.toList).all fun parts =>
      .offset ∉ Time.fieldsOf parts := by
    rcases Kind.temporal?_cases hk with ⟨_, rfl⟩ | ⟨_, rfl⟩ | ⟨_, rfl⟩
    · decide
    · decide
    · decide
  rw [hp] at hnone
  exact of_decide_eq_true hnone

theorem read_isUtc (hk : kind.temporal? = some t)
    (h : Time.read t.format.toList text = .ok (some m)) : m.IsUtc :=
  Time.read_isUtc (offset_not_mem hk) h

theorem readText_isUtc (hk : kind.temporal? = some t)
    (h : readText strict (.text t.format) s = .ok (some m)) : m.IsUtc := by
  obtain ⟨read, hr, h⟩ := bind_eq_ok.mp (show Time.read t.format.toList s.toList >>= _ = _ from h)
  cases read with
  | some m' =>
    dsimp only at h
    split at h
    · cases h
    · cases h
      exact read_isUtc hk hr
  | none =>
    dsimp only at h
    split at h
    · cases h
    · exact Time.Overflow.read?_isUtc (Except.ok.inj h)

theorem readData_isUtc (hk : kind.temporal? = some t)
    (h : readData strict (.text t.format) data = .ok (some m)) : m.IsUtc := by
  cases data with
  | text s =>
    rw [readData] at h
    split at h
    · obtain ⟨read, hr, h⟩ := bind_eq_ok.mp h
      cases read with
      | some m' =>
        cases h
        exact readText_isUtc hk hr
      | none => exact ofTimestamp?_isUtc (Except.ok.inj h)
    · exact readText_isUtc hk h
  | _ => exact ofTimestamp?_isUtc (Except.ok.inj h)

theorem bound_isUtc {name : String} (hk : kind.temporal? = some t)
    (h : t.bound v (.text t.format) name = .ok (some m)) : m.IsUtc := by
  rw [bound] at h
  split at h
  · cases h
  · dsimp only at h
    split at h
    · obtain ⟨read, hr, h⟩ := bind_eq_ok.mp h
      cases read with
      | none => cases h
      | some m' =>
        cases h
        exact read_isUtc hk hr
    · obtain ⟨read, hr, h⟩ := bind_eq_ok.mp h
      cases read with
      | none => cases h
      | some m' =>
        cases h
        exact ofTimestamp?_isUtc (Except.ok.inj hr)

/-- An earliest and a latest moment, in their order where both are given. -/
structure Span where
  least : Option Moment
  most : Option Moment
  ordered : ∀ a ∈ least, ∀ b ∈ most, a.sinceEpoch ≤ b.sinceEpoch

namespace Span

variable {span : Span} {x : Moment}

/-- The moment is between the bounds. -/
structure Holds (span : Span) (m : Moment) : Prop where
  least : ∀ a ∈ span.least, a.sinceEpoch ≤ m.sinceEpoch
  most : ∀ b ∈ span.most, m.sinceEpoch ≤ b.sinceEpoch

/-- The moment, or the earliest one if that comes later. -/
def raise (span : Span) (m : Moment) : Moment :=
  span.least.elim m fun a => if isBefore m a then a else m

/-- The moment, or the bound that it lies beyond. -/
def clamp (span : Span) (m : Moment) : Moment :=
  span.most.elim (span.raise m) fun b => if isBefore b (span.raise m) then b else span.raise m

theorem compares : Compares (fun _ : Moment => True) Moment.sinceEpoch isBefore
    (fun m x => m.sinceEpoch ≤ x.sinceEpoch) :=
  ⟨fun _ _ _ _ => decide_eq_true_iff, fun _ _ _ _ => Iff.rfl⟩

theorem held_clamp (span : Span) (m : Moment) :
    Held (fun m x => m.sinceEpoch ≤ x.sinceEpoch) span.least span.most m (span.clamp m) :=
  compares.held_hold trivial (fun _ _ => trivial) (fun _ _ => trivial) span.ordered

theorem clamp_of_holds (h : span.Holds m) : span.clamp m = m :=
  (held_clamp span m).kept h.least h.most

theorem holds_clamp (span : Span) (m : Moment) : span.Holds (span.clamp m) :=
  ⟨(held_clamp span m).above, (held_clamp span m).below⟩

/-- What comes before a moment within the bounds is at most put off to that moment. -/
theorem clamp_between (hm : span.Holds m) (h : x.sinceEpoch ≤ m.sinceEpoch) :
    x.sinceEpoch ≤ (span.clamp x).sinceEpoch ∧ (span.clamp x).sinceEpoch ≤ m.sinceEpoch := by
  have hheld := held_clamp span x
  by_cases hl : ∀ a ∈ span.least, a.sinceEpoch ≤ x.sinceEpoch
  · have hx : span.Holds x := ⟨hl, fun b hb => h.trans (hm.most b hb)⟩
    rw [clamp_of_holds hx]
    exact ⟨Int.le_refl _, h⟩
  · obtain ⟨a, ha, hlt⟩ : ∃ a ∈ span.least, ¬a.sinceEpoch ≤ x.sinceEpoch := by
      simpa using hl
    rw [hheld.raised a ha hlt]
    exact ⟨(Int.not_le.mp hlt).le, hm.least a ha⟩

theorem clamp_isUtc (hl : ∀ a ∈ span.least, a.IsUtc) (hg : ∀ b ∈ span.most, b.IsUtc)
    (hx : x.IsUtc) : (span.clamp x).IsUtc :=
  hold_of_forall isBefore hx hl hg

end Span

variable {span : Span} {params : Params} {mode : Mode}

/-- What becomes of a moment that was read. -/
def answerWithin (t : Temporal) (mode : Mode) (span : Span) (format : Value) (m : Moment) :
    Outcome :=
  match span.least with
  | some earliest =>
    if isBefore m earliest then
      if mode.strict then refuse ("Data doesn't respect contract (" ++ t.label ++ " too early).")
      else t.upTo mode span.most format earliest
    else t.upTo mode span.most format m
  | none => t.upTo mode span.most format m

/-- Loosely, the moment is moved between the bounds. -/
theorem answerWithin_loose (hs : mode.strict = false) (span : Span) (format : Value) (m : Moment) :
    t.answerWithin mode span format m = finish format (span.clamp m) := by
  have hupTo : ∀ m, t.upTo mode span.most format m = finish format
      (span.most.elim m fun b => if isBefore b m then b else m) := by
    intro m
    cases span.most with
    | none => rfl
    | some b =>
      rw [upTo, hs]
      exact (apply_ite (finish format) _ _ _).symm
  rw [answerWithin, Span.clamp, Span.raise, hs, ← hupTo]
  cases span.least with
  | none => rfl
  | some a =>
    rw [Option.elim_some]
    dsimp only
    split
    · rfl
    · rfl

theorem le_of_not_isBefore {a b : Moment} (h : ¬isBefore a b) : b.sinceEpoch ≤ a.sinceEpoch :=
  Int.not_lt.mp fun hlt => h (decide_eq_true hlt)

/-- Strictly, a moment beyond the bounds is refused. -/
theorem answerWithin_strict {format : Value} (hs : mode.strict = true)
    (h : t.answerWithin mode span format m = .ok r) : span.Holds m ∧ finish format m = .ok r := by
  have hupTo (h : t.upTo mode span.most format m = .ok r) :
      (∀ b ∈ span.most, m.sinceEpoch ≤ b.sinceEpoch) ∧ finish format m = .ok r := by
    unfold upTo at h
    split at h
    · rename_i b hb
      rw [hs, if_pos rfl] at h
      obtain ⟨hlt, h⟩ := ite_refuse_eq_ok.mp h
      rw [hb]
      refine ⟨?_, h⟩
      rintro _ ⟨⟩
      exact le_of_not_isBefore hlt
    · rename_i hb
      rw [hb]
      exact ⟨nofun, h⟩
  unfold answerWithin at h
  split at h
  · rename_i a ha
    rw [hs, if_pos rfl] at h
    obtain ⟨hlt, h⟩ := ite_refuse_eq_ok.mp h
    obtain ⟨hmost, h⟩ := hupTo h
    refine ⟨⟨?_, hmost⟩, h⟩
    rw [ha]
    rintro _ ⟨⟩
    exact le_of_not_isBefore hlt
  · rename_i ha
    obtain ⟨hmost, h⟩ := hupTo h
    refine ⟨⟨?_, hmost⟩, h⟩
    rw [ha]
    exact nofun

/-- The format that data is read in, and the bounds with it. -/
def inputFormat (t : Temporal) (params : Params) : Value :=
  formatOr (params.get "inFormat") (formatOr (params.get "format") (.text t.format))

/-- The format that a moment is written in. -/
def outputFormat (t : Temporal) (params : Params) : Value :=
  formatOr (params.get "outFormat") (formatOr (params.get "format") (.text t.format))

/-- Parameters whose bounds are in order. -/
structure Bounded (t : Temporal) (params : Params) (span : Span) : Prop where
  least : t.bound (params.get "min") (t.inputFormat params) "Min" = .ok span.least
  most : t.bound (params.get "max") (t.inputFormat params) "Max" = .ok span.most

namespace Bounded

theorem check_of_read (h : t.Bounded params span)
    (hread : readData mode.strict (t.inputFormat params) data = .ok (some m)) :
    t.check mode params data = t.answerWithin mode span (t.outputFormat params) m := by
  obtain ⟨hl, hm⟩ := h
  rw [inputFormat] at hl hm hread
  simp only [check, hl, hm, lift_ok, bind, Except.bind, hread]
  cases data with
  | int => rfl
  | float => rfl
  | text => rfl
  | _ => cases hread

theorem read_of_check (h : t.Bounded params span) (hc : t.check mode params data = .ok r) :
    ∃ m, readData mode.strict (t.inputFormat params) data = .ok (some m) := by
  obtain ⟨hl, hm⟩ := h
  rw [inputFormat] at hl hm ⊢
  cases hread : readData mode.strict (formatOr (params.get "inFormat")
      (formatOr (params.get "format") (.text t.format))) data with
  | error f =>
    simp only [check, hl, hm, lift_ok, lift_error, bind, Except.bind, hread] at hc
    split at hc <;> cases hc
  | ok found =>
    cases found with
    | none =>
      simp only [check, hl, hm, lift_ok, bind, Except.bind, hread] at hc
      split at hc <;> cases hc
    | some m => exact ⟨m, rfl⟩

end Bounded

/-- Parameters without a format of their own, and with bounds that are in order. -/
structure Spans (t : Temporal) (params : Params) (span : Span) : Prop where
  format : (params.get "format").isTrue = false
  inFormat : (params.get "inFormat").isTrue = false
  outFormat : (params.get "outFormat").isTrue = false
  least : t.bound (params.get "min") (.text t.format) "Min" = .ok span.least
  most : t.bound (params.get "max") (.text t.format) "Max" = .ok span.most

namespace Spans

theorem clamp_isUtc (h : t.Spans params span) (hk : kind.temporal? = some t) (hm : m.IsUtc) :
    (span.clamp m).IsUtc := by
  refine Span.clamp_isUtc ?_ ?_ hm
  · intro a ha
    exact bound_isUtc hk (h.least.trans (congrArg Except.ok ha))
  · intro b hb
    exact bound_isUtc hk (h.most.trans (congrArg Except.ok hb))

theorem inputFormat_eq (h : t.Spans params span) : t.inputFormat params = .text t.format := by
  rw [inputFormat, formatOr_of_falsy h.inFormat, formatOr_of_falsy h.format]

theorem outputFormat_eq (h : t.Spans params span) : t.outputFormat params = .text t.format := by
  rw [outputFormat, formatOr_of_falsy h.outFormat, formatOr_of_falsy h.format]

theorem bounded (h : t.Spans params span) : t.Bounded params span :=
  ⟨by rw [h.inputFormat_eq, h.least], by rw [h.inputFormat_eq, h.most]⟩

/-- Data that is read as a moment comes to that moment, moved between the bounds. -/
theorem check_of_read (h : t.Spans params span) (hs : mode.strict = false)
    (hread : readData false (.text t.format) data = .ok (some m)) :
    settle (t.check mode params data) = t.answer (some (span.clamp m)) := by
  rw [← hs, ← h.inputFormat_eq] at hread
  rw [h.bounded.check_of_read hread, answerWithin_loose hs, h.outputFormat_eq]
  rfl

theorem check_text_of_unread (h : t.Spans params span) (hs : mode.strict = false)
    (hread : readData false (.text t.format) (.text s) = .ok none) :
    settle (t.check mode params (.text s)) = t.answer none := by
  rw [← hs] at hread
  simp only [check, formatOr_of_falsy, h.format, h.inFormat, h.least, h.most, lift_ok, bind,
    Except.bind, hread]
  rfl

theorem check_eq_ok (h : t.Spans params span) (hs : mode.strict = false)
    (hc : t.check mode params data = .ok r) :
    ∃ m, readData false (.text t.format) data = .ok (some m) ∧
      t.answer (some (span.clamp m)) = .ok r := by
  obtain ⟨m, hread⟩ := h.bounded.read_of_check hc
  rw [hs, h.inputFormat_eq] at hread
  refine ⟨m, hread, ?_⟩
  rw [← h.check_of_read hs hread, hc]
  rfl

end Spans
end Covenant.Check.Temporal
