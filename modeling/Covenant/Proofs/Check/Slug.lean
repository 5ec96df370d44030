import Covenant.Proofs.Check.Alphabet
import Covenant.Proofs.Check.Limits
import Covenant.Proofs.Slug
import Covenant.Proofs.Value.Equality

/-! Slugs that are their own slugs, and what is asked of slugs. -/

namespace Covenant

namespace Slug

/-- Small letters and digits, with single dashes between them. -/
structure Tidy (cs : List Char) : Prop where
  chars : ∀ c ∈ cs, isSlugChar c
  single : cs.IsChain fun c d => ¬(c = '-' ∧ d = '-')
  first : ∀ c ∈ cs.head?, c ≠ '-'
  last : ∀ c ∈ cs.getLast?, c ≠ '-'

/-- The slugs of texts. One dash stands for a text without a letter or a digit. -/
def IsCanonical (cs : List Char) : Prop := cs = ['-'] ∨ cs ≠ [] ∧ Tidy cs

theorem isNeat_false (c : Char) : isNeat false c = isSlugChar c := Bool.or_false _

theorem isEdge_of_isSlugChar (h : isSlugChar c) : isEdge c ↔ c = '-' := by
  simp only [isEdge, Bool.or_eq_true, beq_iff_eq]
  refine or_iff_left ?_
  rintro rfl
  exact absurd h (by decide)

theorem neat_false_iff : Neat false cs ↔ Tidy cs := by
  constructor
  · rintro ⟨hc, hs, hf, hl⟩
    have hc : ∀ c ∈ cs, isSlugChar c := fun c hm => isNeat_false c ▸ hc c hm
    exact ⟨hc, hs,
      fun c hm he => hf c hm ((isEdge_of_isSlugChar (hc c (List.mem_of_mem_head? hm))).mpr he),
      fun c hm he => hl c hm ((isEdge_of_isSlugChar (hc c (List.mem_of_mem_getLast? hm))).mpr he)⟩
  · rintro ⟨hc, hs, hf, hl⟩
    exact ⟨fun c hm => (isNeat_false c).symm ▸ hc c hm, hs,
      fun c hm he => hf c hm ((isEdge_of_isSlugChar (hc c (List.mem_of_mem_head? hm))).mp he),
      fun c hm he => hl c hm ((isEdge_of_isSlugChar (hc c (List.mem_of_mem_getLast? hm))).mp he)⟩

theorem isNormal_false_iff : IsNormal false cs ↔ IsCanonical cs :=
  or_congr Iff.rfl (and_congr Iff.rfl neat_false_iff)

end Slug

namespace Check

variable {mode : Mode} {params : Params} {data : Value} {limits : Limits}

/-- What a contract asks of the characters of a slug. -/
structure AllowsSlug (params : Params) (cs : List Char) : Prop where
  size : ∃ limits, Limits.ofParams params = .ok limits ∧ limits.Allows cs.length
  mask : params.maskAllows cs = .ok true

theorem AllowsSlug.allows (h : AllowsSlug params cs) (hl : Limits.ofParams params = .ok limits) :
    limits.Allows cs.length := by
  obtain ⟨_, hl', hs⟩ := h.size
  obtain rfl := Except.ok.inj (hl.symm.trans hl')
  exact hs

theorem AllowsSlug.cut_eq (h : AllowsSlug params cs) (hl : Limits.ofParams params = .ok limits) :
    limits.cut cs = cs := by
  refine Limits.cut_of_not_tooLong ?_
  rw [Limits.tooLong, Option.any_eq_false]
  intro b hb
  exact decide_eq_false (Nat.not_lt.mpr ((h.allows hl).most b hb))

theorem allowsSlug_cut (hl : Limits.ofParams params = .ok limits) (cs : List Char) :
    AllowsSlug params (limits.cut cs) ↔ limits.tooShort (limits.cut cs).length = false ∧
      params.maskAllows (limits.cut cs) = .ok true := by
  constructor
  · intro h
    refine ⟨?_, h.mask⟩
    rw [Limits.tooShort, Option.any_eq_false]
    intro a ha
    exact decide_eq_false (Nat.not_lt.mpr ((h.allows hl).least a ha))
  · rintro ⟨hs, hm⟩
    exact ⟨⟨limits, hl, Limits.allows_cut (Bool.eq_false_iff.mp hs)⟩, hm⟩

theorem ite_ok_eq_ok {c : Prop} [Decidable c] :
    (if c then .ok r' else refuse m : Outcome) = .ok r ↔ c ∧ r = r' := by
  split
  · rename_i hc
    rw [Except.ok.injEq, and_iff_right hc, eq_comm]
  · rename_i hc
    exact iff_of_false nofun fun h => hc h.1

/-- What a check returns for characters that are allowed: strictly these, loosely their slug. -/
def slugged (mode : Mode) (cs : List Char) : List Char :=
  if mode.strict then cs else (Slug.ofText (String.ofList cs) false).toList

theorem slug_text_eq_ok (hl : Limits.ofParams params = .ok limits) :
    slug mode params (.text s) = .ok r ↔
      (mode.strict → limits.tooLong s.length = false) ∧
        AllowsSlug params (limits.cut s.toList) ∧ isSlug (slugged mode (limits.cut s.toList)) ∧
        r = ⟨.text (String.ofList (slugged mode (limits.cut s.toList))),
          .text (Slug.ofText (String.ofList (limits.cut s.toList)) false)⟩ := by
  have hr (cs : List Char) : (if mode.strict then String.ofList cs
      else Slug.ofText (String.ofList cs) false) = String.ofList (slugged mode cs) := by
    rw [slugged]
    split
    · rfl
    · rw [String.ofList_toList]
  rw [slug, hl, lift_ok, allowsSlug_cut hl, and_assoc]
  simp only [pure, Except.pure, bind_eq_ok, lift_eq_ok, ite_refuse_eq_ok, ite_ok_eq_ok,
    Except.ok.injEq, exists_eq_left', Bool.and_eq_true, Bool.not_eq_true', Bool.not_eq_true,
    Bool.not_eq_false, not_and, hr, String.toList_ofList]
  refine and_congr_right fun _ => and_congr_right fun _ => ?_
  constructor
  · rintro ⟨_, hm, rfl, h⟩
    exact ⟨hm, h⟩
  · rintro ⟨hm, h⟩
    exact ⟨true, hm, rfl, h⟩

/-- Data that is checked stands for a text. -/
theorem slug_eq_ok_text (h : slug mode params data = .ok r) :
    ∃ s, data.toText = .ok s ∧ slug mode params (.text s) = .ok r := by
  obtain ⟨limits, hl, h⟩ := bind_eq_ok.mp h
  dsimp only at h
  split at h
  · rename_i s _
    refine ⟨s, rfl, ?_⟩
    rw [slug, lift_eq_ok.mp hl]
    exact h
  · split at h
    · cases h
    · obtain ⟨s, hs, h⟩ := bind_eq_ok.mp h
      refine ⟨s, lift_eq_ok.mp hs, ?_⟩
      rw [slug, lift_eq_ok.mp hl]
      exact h

theorem ne_nil_of_isSlug_slugged (h : isSlug (slugged mode cs)) : cs ≠ [] := by
  rintro rfl
  have hn : slugged mode [] = [] := ite_self _
  rw [hn] at h
  cases h

theorem isCanonical_slugged (hne : cs ≠ []) (hs : mode.strict = false) :
    Slug.IsCanonical (slugged mode cs) := by
  rw [slugged, hs, if_neg Bool.false_ne_true, Slug.ofText_eq hne]
  exact Slug.isNormal_false_iff.mp (Slug.isNormal_ofAscii _ _)

theorem slugged_eq_self (h : mode.strict ∨ Slug.IsCanonical cs) : slugged mode cs = cs := by
  rw [slugged]
  split
  · rfl
  · rename_i hs
    exact (Slug.isNormal_false_iff.mpr (h.resolve_left hs)).ofText

theorem length_slugged_le (hne : cs ≠ []) (h : ∀ c ∈ cs, (asciiPart c).length ≤ 1)
    (mode : Mode) : (slugged mode cs).length ≤ cs.length := by
  rw [slugged]
  split
  · exact Nat.le_refl _
  · rw [Slug.ofText_eq hne]
    exact Slug.length_ofAscii_le hne h false

theorem cut_of_slugged_cut (hown : mode.strict ∨ Slug.IsCanonical v)
    (h : slugged mode (limits.cut v) = v) : limits.cut v = v := by
  rcases hown with hs | hc
  · rwa [slugged, if_pos hs] at h
  · have hc := Slug.isNormal_false_iff.mpr hc
    refine (Limits.cut_sublist limits v).eq_of_length_le ?_
    have hne : limits.cut v ≠ [] := by
      intro he
      have hn : slugged mode [] = [] := ite_self _
      rw [he, hn] at h
      exact hc.ne_nil h.symm
    have hpart : ∀ c ∈ limits.cut v, (asciiPart c).length ≤ 1 := fun c hm =>
      (congrArg List.length (Slug.asciiPart_of_ascii (Slug.ascii_of_isNeat
        (hc.chars c (Limits.mem_of_mem_cut hm))))).le
    have hle := length_slugged_le hne hpart mode
    rwa [h] at hle

theorem isSlug_of_isCanonical (h : Slug.IsCanonical cs) : isSlug cs := by
  have h := Slug.isNormal_false_iff.mpr h
  have hc : ∀ c ∈ cs, isSlugChar c := fun c hm => Slug.isNeat_false c ▸ h.chars c hm
  have hf : cs.getLast? ≠ some '\n' := fun hl => absurd (hc _ (List.mem_of_getLast? hl)) (by decide)
  rw [isSlug, withoutLineFeed_of_ne hf, Bool.and_eq_true, List.all_eq_true]
  exact ⟨by simpa using h.ne_nil, hc⟩

/-- A slug of which nothing is asked is let through as it is. -/
theorem slug_of_isCanonical (hp : ∀ name ∈ ["minLen", "maxLen", "mask"], params.get name = .null)
    (h : Slug.IsCanonical s.toList) (mode : Mode) :
    slug mode params (.text s) = .ok ⟨.text s, .text s⟩ := by
  obtain ⟨hmin, hmax, hmask⟩ : params.get "minLen" = .null ∧ params.get "maxLen" = .null ∧
      params.get "mask" = .null := by
    simpa using hp
  have hl : Limits.ofParams params = .ok ⟨none, none⟩ :=
    Limits.ofParams_of_absent (by rw [hmin]; rfl) (by rw [hmax]; rfl)
  have hm : params.maskAllows s.toList = .ok true := by
    rw [Params.maskAllows, hmask]
    rfl
  have hsize : Limits.Allows ⟨none, none⟩ s.toList.length := ⟨by simp, by simp⟩
  have hs : slugged mode s.toList = s.toList := slugged_eq_self (.inr h)
  have ht : Slug.ofText s false = s :=
    String.toList_inj.mp (by simpa using (Slug.isNormal_false_iff.mpr h).ofText)
  refine (slug_text_eq_ok hl).mpr ⟨fun _ => rfl, ⟨⟨_, hl, hsize⟩, hm⟩, ?_, ?_⟩
  · show isSlug (slugged mode s.toList)
    rw [hs]
    exact isSlug_of_isCanonical h
  · show _ = Result.mk (.text (String.ofList (slugged mode s.toList)))
      (.text (Slug.ofText (String.ofList s.toList) false))
    rw [hs, String.ofList_toList, ht]

/-- A slug that is checked again stays as it is if and only if it is allowed itself. -/
theorem slug_again_iff (h : slug mode params data = .ok r)
    (hv : r.value = .text (String.ofList v)) :
    (∃ r', slug mode params r.value = .ok r' ∧ r'.value = r.value) ↔ AllowsSlug params v := by
  obtain ⟨limits, hl, _⟩ := bind_eq_ok.mp h
  obtain ⟨s, _, h⟩ := slug_eq_ok_text h
  have hl := lift_eq_ok.mp hl
  obtain ⟨hlong, hcs, hslug, rfl⟩ := (slug_text_eq_ok hl).mp h
  have hne := ne_nil_of_isSlug_slugged hslug
  have hv : slugged mode (limits.cut s.toList) = v := by
    simpa using congrArg String.toList (Value.text.inj hv)
  have hown : mode.strict ∨ Slug.IsCanonical v := by
    rcases Bool.eq_false_or_eq_true mode.strict with hs | hs
    · exact .inl hs
    · rw [← hv]
      exact .inr (isCanonical_slugged hne hs)
  rw [hv] at hslug ⊢
  constructor
  · rintro ⟨r', h', hr'⟩
    obtain ⟨hlong', hcs', hslug', rfl⟩ := (slug_text_eq_ok hl).mp h'
    rw [String.toList_ofList] at hcs' hr'
    have hr' : slugged mode (limits.cut v) = v := by
      simpa using congrArg String.toList (Value.text.inj hr')
    have hcut := cut_of_slugged_cut hown hr'
    rwa [hcut] at hcs'
  · intro ha
    have hcut := ha.cut_eq hl
    have hself := slugged_eq_self hown
    refine ⟨_, (slug_text_eq_ok hl).mpr ⟨fun _ => ?_, ?_, ?_, rfl⟩, ?_⟩
    · have hv := limits.tooLong_cut v
      rwa [hcut, ← String.length_ofList] at hv
    · rwa [String.toList_ofList, hcut]
    · rwa [String.toList_ofList, hcut, hself]
    · rw [String.toList_ofList, hcut, hself]

end Check

namespace Kind

open Check (AllowsSlug slugged)

variable {mode : Mode} {params : Params} {data : Value} {inner : Check.Delegate}

/-- Length and mask are asked of the characters a slug is made of. The slug has them too in strict
mode, and when it is made of a slug. It is not too long either when no character stands for several
others. A slug that does not have them is not the result of the next check. -/
theorem validate_slug (h : slug.validate inner mode params data = .ok r) :
    ∃ limits cs v, Limits.ofParams params = .ok limits ∧
      (∃ d ∈ [data, params.get "default"], ∃ s, d.toText = .ok s ∧ cs = limits.cut s.toList) ∧
      AllowsSlug params cs ∧ r.value = .text (String.ofList v) ∧ v = slugged mode cs ∧
      (mode.strict = false → Slug.IsCanonical v) ∧
      (mode.strict ∨ Slug.IsCanonical cs → AllowsSlug params v) ∧
      ((∀ c ∈ cs, (asciiPart c).length ≤ 1) → ∀ b ∈ limits.most, v.length ≤ b) ∧
      (AllowsSlug params v ↔
        ∃ r', slug.check inner mode params r.value = .ok r' ∧ r'.value = r.value) := by
  obtain ⟨d, hd, hc⟩ := check_data_or_default (by decide) h
  obtain ⟨limits, hl, _⟩ := bind_eq_ok.mp hc
  have hl := lift_eq_ok.mp hl
  obtain ⟨s, hs, ht⟩ := Check.slug_eq_ok_text hc
  obtain ⟨_, hcs, hslug, hr⟩ := (Check.slug_text_eq_ok hl).mp ht
  have hne := Check.ne_nil_of_isSlug_slugged hslug
  have hv := congrArg Result.value hr
  refine ⟨limits, limits.cut s.toList, _, hl, ⟨d, hd, s, hs, rfl⟩, hcs, hv, rfl,
    Check.isCanonical_slugged hne, ?_, ?_, (Check.slug_again_iff hc hv).symm⟩
  · intro ho
    rwa [Check.slugged_eq_self ho]
  · intro h1 b hb
    exact (Check.length_slugged_le hne h1 mode).trans ((hcs.allows hl).most b hb)

/-- Two to thirteen characters, the first one a capital letter. -/
def capitalized : Params :=
  [("type", .text "slug"), ("minLen", .int 2), ("maxLen", .int 13), ("mask", .text "^[A-Z]")]

theorem limits_capitalized : Limits.ofParams capitalized = .ok ⟨some 2, some 13⟩ :=
  Limits.ofParams_eq (Size.ofValue_natCast (by decide)) (Size.ofValue_natCast (by decide))

theorem validate_greeting :
    slug.validate Check.noParts ⟨false, false⟩ capitalized (.text "Hello, World!") =
        .ok ⟨.text "hello-world", .text "hello-world"⟩ ∧
      Slug.IsCanonical "hello-world".toList := by
  have h : slug.validate Check.noParts ⟨false, false⟩ capitalized (.text "Hello, World!") =
      .ok ⟨.text "hello-world", .text "hello-world"⟩ := by
    decide +kernel
  refine ⟨h, ?_⟩
  obtain ⟨limits, cs, v, _, _, _, hv, _, hcanonical, _⟩ := validate_slug h
  have hv : "hello-world" = String.ofList v := Value.text.inj hv
  rw [hv, String.toList_ofList]
  exact hcanonical rfl

/-- The slug may be shorter than the least length and may have lost what the mask is about. -/
theorem validate_slug_not_allowed :
    Filter.initial.validate (.text "A!!!") (.map capitalized.toEntries) (some false) =
        .ok ⟨.text "a", .text "a"⟩ ∧
      Filter.initial.validate (.text "Abc") (.map capitalized.toEntries) (some false) =
        .ok ⟨.text "abc", .text "abc"⟩ ∧
      Limits.ofParams capitalized = .ok ⟨some 2, some 13⟩ ∧
      ¬Limits.Allows ⟨some 2, some 13⟩ "a".length ∧
      capitalized.maskAllows "abc".toList = .ok false :=
  ⟨by decide +kernel, by decide +kernel, limits_capitalized,
    fun h => absurd (h.least 2 rfl) (by decide), by decide +kernel⟩

/-- The slug of a text is its own slug, in the form of slugs. Without underscores it is let through
as it is. -/
theorem validate_ofText (hp : ∀ name ∈ ["minLen", "maxLen", "mask"], params.get name = .null)
    (inner : Check.Delegate) (mode : Mode) (s : String) (underscores : Bool) :
    Slug.ofText (Slug.ofText s underscores) underscores = Slug.ofText s underscores ∧
      (s ≠ "" → Slug.IsNormal underscores (Slug.ofText s underscores).toList ∧
        (underscores = false →
          slug.validate inner mode params (.text (Slug.ofText s underscores)) =
            .ok ⟨.text (Slug.ofText s underscores), .text (Slug.ofText s underscores)⟩)) := by
  refine ⟨Slug.ofText_ofText s underscores, fun hs => ?_⟩
  have hn := Slug.isNormal_ofText hs underscores
  refine ⟨hn, ?_⟩
  rintro rfl
  exact validate_of_accepted (Check.slug_of_isCanonical hp (Slug.isNormal_false_iff.mp hn) mode)

theorem validate_dashes :
    Slug.IsNormal true "a_-_1".toList ∧
      slug.validate Check.noParts ⟨true, false⟩ [("type", .text "slug")] (.text "a-1") =
        .ok ⟨.text "a-1", .text "a-1"⟩ := by
  have hp : ∀ name ∈ ["minLen", "maxLen", "mask"],
      Params.get [("type", .text "slug")] name = .null := by
    decide
  have h (underscores : Bool) :=
    validate_ofText hp Check.noParts ⟨true, false⟩ "-A_ + _1!" underscores
  have hkept : Slug.ofText "-A_ + _1!" true = "a_-_1" := rfl
  have hdashed : Slug.ofText "-A_ + _1!" false = "a-1" := rfl
  exact ⟨hkept ▸ ((h true).2 (by decide)).1, hdashed ▸ ((h false).2 (by decide)).2 rfl⟩

end Kind
end Covenant
