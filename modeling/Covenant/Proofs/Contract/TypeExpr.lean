import Covenant.Proofs.Contract.Union
import Covenant.Proofs.Outcome

/-! A type expression by the text that it stands for, and what a mode marker in front of it
changes. -/

namespace Covenant.TypeExpr

/-- The members of a union as they are written, blanks apart. -/
def membersOf (source : String) : List String :=
  splitUnion (readNullable (readMode (trim source.toList)).2).2

/-- The type that a text stands for if no member of it is empty. -/
def ofSource (source : String) : TypeExpr :=
  let (mode, rest) := readMode (trim source.toList)
  let (marked, _) := readNullable rest
  let tokens := (membersOf source).map fun t => if isNull t then nullToken else t
  if tokens.contains nullToken then ⟨tokens, mode, true⟩
  else ⟨if marked then nullToken :: tokens else tokens, mode, marked⟩

variable {t : TypeExpr}

theorem read_eq_ok_iff :
    read spec = .ok t ↔
      ∃ source, sourceOf spec = .ok source ∧ "" ∉ membersOf source ∧ ofSource source = t := by
  rw [read, bind_eq_ok]
  refine exists_congr fun source => and_congr_right fun _ => ?_
  by_cases he : "" ∈ membersOf source
  · have hany : (membersOf source).any (· == "") := List.any_eq_true.mpr ⟨"", he, rfl⟩
    refine iff_of_false (fun h => ?_) fun h => h.1 he
    rw [membersOf] at hany
    dsimp only at h
    rw [if_pos hany] at h
    obtain ⟨_, _, h⟩ := bind_eq_ok.mp h
    cases h
  · have hany : ¬(membersOf source).any (· == "") := by
      rw [List.any_eq_true]
      rintro ⟨m, hm, hempty⟩
      exact he (beq_iff_eq.mp hempty ▸ hm)
    rw [and_iff_right he, ofSource]
    rw [membersOf] at hany ⊢
    dsimp only
    rw [if_neg hany]
    split <;> simp [pure, Except.pure]

theorem read_text_eq_ok_iff :
    read (.text source) = .ok t ↔ "" ∉ membersOf source ∧ ofSource source = t := by
  rw [read_eq_ok_iff]
  constructor
  · rintro ⟨_, h, ht⟩
    cases h
    exact ht
  · intro h
    exact ⟨source, rfl, h⟩

theorem mode_ofSource (source : String) :
    (ofSource source).mode = (readMode (trim source.toList)).1 := by
  rw [ofSource]
  dsimp only
  split <;> rfl

theorem trim_ne_nil (h : "" ∉ membersOf source) : trim source.toList ≠ [] := by
  intro hs
  rw [membersOf, hs] at h
  exact h List.mem_cons_self

/-- Blanks around a type do not matter. -/
theorem read_trim (h : read (.text source) = .ok t) :
    read (.text (onChars trim source)) = .ok t := by
  have ht : trim (onChars trim source).toList = trim source.toList := by
    rw [onChars, String.toList_ofList, trim_idem]
  rw [read_text_eq_ok_iff, membersOf, ofSource, membersOf] at h ⊢
  rwa [ht]

/-- A type without a mode starts with something other than a marker for it. -/
theorem trim_of_mode (h : "" ∉ membersOf source) (hm : (ofSource source).mode = none) :
    ∃ c rest, trim source.toList = c :: rest ∧ c ∉ ['=', '~'] := by
  rw [mode_ofSource] at hm
  cases hs : trim source.toList with
  | nil => exact absurd hs (trim_ne_nil h)
  | cons c rest =>
    refine ⟨c, rest, rfl, fun hc => ?_⟩
    rw [hs] at hm
    rcases List.mem_cons.mp hc with rfl | hc
    · cases hm
    · cases List.mem_singleton.mp hc
      cases hm

def mark (mode : Bool) (s : String) : String := (if mode then "=" else "~") ++ s

theorem toList_mark (mode : Bool) (s : String) :
    (mark mode s).toList = modeMarker (some mode) ++ s.toList := by
  rw [mark, String.toList_append]
  cases mode <;> rfl

/-- A marker in front of a type without a mode sets its mode, and nothing else. -/
theorem read_mark (h : "" ∉ membersOf source) (hm : (ofSource source).mode = none)
    (mode : Bool) : membersOf (mark mode source) = membersOf source ∧
      ofSource (mark mode source) = { ofSource source with mode := some mode } := by
  obtain ⟨c, rest, hs, hc⟩ := trim_of_mode h hm
  have hr := readMode_marker (some mode) hs hc
  have hr' := readMode_marker none hs hc
  rw [modeMarker, List.nil_append] at hr'
  rw [← toList_mark] at hr
  have hmembers : membersOf (mark mode source) = membersOf source := by
    rw [membersOf, membersOf, hr, hr']
  refine ⟨hmembers, ?_⟩
  rw [ofSource, ofSource, hmembers, hr, hr']
  dsimp only
  split <;> rfl

/-- A type expression behind the marker of a mode: in a sequence, the first type has the marker. -/
def marked (mode : Bool) : Value → Value
  | .text s => .text (mark mode s)
  | .list (.text s :: rest) => .list (.text (mark mode s) :: rest)
  | .tuple (.text s :: rest) => .tuple (.text (mark mode s) :: rest)
  | spec => spec

theorem sourceOf_sequence (h : spec = .list items ∨ spec = .tuple items) :
    sourceOf spec = .ok source ↔ ∃ ts, texts? items = some ts ∧ join "|" ts = source := by
  cases ht : texts? items with
  | none =>
    refine iff_of_false (fun he => ?_) (by simp)
    rcases h with rfl | rfl
    all_goals
      simp only [sourceOf, ht] at he
      obtain ⟨_, _, he⟩ := bind_eq_ok.mp he
      cases he
  | some ts => rcases h with rfl | rfl <;> simp [sourceOf, ht]

theorem sourceOf_marked (h : sourceOf spec = .ok source) (he : "" ∉ membersOf source)
    (mode : Bool) : sourceOf (marked mode spec) = .ok (mark mode source) := by
  have hsequence (items : List Value) (ts : List String) (ht : texts? items = some ts)
      (hj : join "|" ts = source) : ∃ s rest, items = .text s :: rest ∧
        ∃ ts', texts? (.text (mark mode s) :: rest) = some ts' ∧
          join "|" ts' = mark mode source := by
    cases items with
    | nil =>
      cases ht
      rw [← hj] at he
      exact absurd (by decide) he
    | cons item rest =>
      cases item with
      | text s =>
        obtain ⟨us, hu, rfl⟩ := Option.map_eq_some_iff.mp ht
        refine ⟨s, rest, rfl, mark mode s :: us, by rw [texts?, hu]; rfl, ?_⟩
        rw [← hj]
        cases us with
        | nil => rfl
        | cons u us => simp only [join_cons_cons, mark, String.append_assoc]
      | _ => cases ht
  cases spec with
  | text s =>
    cases h
    rfl
  | list items =>
    obtain ⟨ts, ht, hj⟩ := (sourceOf_sequence (.inl rfl)).mp h
    obtain ⟨s, rest, rfl, hmarked⟩ := hsequence items ts ht hj
    exact (sourceOf_sequence (.inl rfl)).mpr hmarked
  | tuple items =>
    obtain ⟨ts, ht, hj⟩ := (sourceOf_sequence (.inr rfl)).mp h
    obtain ⟨s, rest, rfl, hmarked⟩ := hsequence items ts ht hj
    exact (sourceOf_sequence (.inr rfl)).mpr hmarked
  | _ =>
    obtain ⟨_, _, h⟩ := bind_eq_ok.mp h
    cases h

/-- A marker in front of a type expression without a mode sets its mode, and nothing else. -/
theorem read_marked (h : read spec = .ok t) (hm : t.mode = none) (mode : Bool) :
    read (marked mode spec) = .ok { t with mode := some mode } := by
  obtain ⟨source, hs, he, rfl⟩ := read_eq_ok_iff.mp h
  obtain ⟨hmembers, hread⟩ := read_mark he hm mode
  exact read_eq_ok_iff.mpr ⟨_, sourceOf_marked hs he mode, by rwa [hmembers], hread⟩

theorem isAbsent_of_read (h : read spec = .ok t) : spec.isAbsent = false := by
  cases spec with
  | null => cases h
  | text s =>
    rw [Value.isAbsent, beq_eq_false_iff_ne]
    rintro rfl
    cases h
  | _ => rfl

end Covenant.TypeExpr
