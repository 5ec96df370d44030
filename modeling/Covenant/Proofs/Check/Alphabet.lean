import Covenant.Proofs.Check.Default
import Covenant.Proofs.Check.Limits
import Covenant.Proofs.Check.Repeat
import Covenant.Proofs.Decimal.Script
import Covenant.Proofs.Filter.Step

/-! Codes are written in an alphabet of their own, one line feed at their end apart. -/

namespace Covenant

/-- A hexadecimal digit that is no capital letter. -/
def isLowerHex (c : Char) : Bool := isAsciiDigit c || (97 ≤ c.toNat && c.toNat ≤ 102)

def isSlugChar (c : Char) : Bool := isAsciiLower c || isAsciiDigit c || c == '-'

theorem isLowerHex_iff :
    isLowerHex c ↔ (48 ≤ c.toNat ∧ c.toNat ≤ 57) ∨ (97 ≤ c.toNat ∧ c.toNat ≤ 102) := by
  simp [isLowerHex, isAsciiDigit]

theorem isHexDigit_of_isLowerHex (h : isLowerHex c) : isHexDigit c := by
  rw [isLowerHex_iff] at h
  rw [isHexDigit_iff]
  omega

theorem isLowerHex_lowerAscii (h : isHexDigit c) : isLowerHex (lowerAscii c) := by
  rw [isLowerHex_iff, toNat_lowerAscii]
  rw [isHexDigit_iff] at h
  simp only [isAsciiUpper, Bool.and_eq_true, decide_eq_true_eq]
  split <;> omega

theorem isLowerHex_hexOf : ∀ d < 16, isLowerHex (hexOf d) := by decide

theorem isHexDigit_of_lowerAscii (h : isLowerHex (lowerAscii c)) : isHexDigit c := by
  rw [isLowerHex_iff, toNat_lowerAscii] at h
  rw [isHexDigit_iff]
  simp only [isAsciiUpper, Bool.and_eq_true, decide_eq_true_eq] at h
  split at h <;> omega

theorem lowerAscii_of_isLowerHex (h : isLowerHex c) : lowerAscii c = c := by
  rw [isLowerHex_iff] at h
  rw [lowerAscii, if_neg]
  simp only [isAsciiUpper, Bool.and_eq_true, decide_eq_true_eq]
  omega

theorem not_isBlank_of_isSlugChar (h : isSlugChar c) : ¬isBlank c := by
  simp only [isSlugChar, isAsciiLower, isAsciiDigit, Bool.or_eq_true, Bool.and_eq_true,
    decide_eq_true_eq, beq_iff_eq] at h
  simp only [isBlank, Bool.or_eq_true, Bool.and_eq_true, decide_eq_true_eq, beq_iff_eq]
  rcases h with h | rfl
  · omega
  · decide

/-- The notations of hardware addresses: a separator, the number of groups and their size. -/
def macNotations : List (Char × Nat × Nat) := [(':', 6, 2), ('-', 6, 2), ('.', 3, 4)]

theorem not_isBlank_of_macNotations : ∀ n ∈ macNotations, ¬isBlank n.1 := by decide

/-- The codes of a kind, as they are written. -/
inductive Kind.Written : Kind → List Char → Prop where
  | color {ds} (hl : ds.length = 6) (hd : ∀ c ∈ ds, isLowerHex c) : Written color ('#' :: ds)
  | mac {sep count size groups} (hs : (sep, count, size) ∈ macNotations)
      (hn : groups.length = count) (hg : ∀ g ∈ groups, g.length = size ∧ ∀ c ∈ g, isHexDigit c) :
      Written mac (List.intercalate [sep] groups)
  | slug {cs} (hn : cs ≠ []) (hc : ∀ c ∈ cs, isSlugChar c) : Written slug cs
  | phone {ds} (hn : ds ≠ []) (hd : ∀ c ∈ ds, isDecimal c) : Written phone ds
  | abroad {ds} (hn : ds ≠ []) (hd : ∀ c ∈ ds, isDecimal c) : Written phone ('+' :: ds)

theorem Kind.Written.not_isBlank (h : Written kind cs) : ∀ c ∈ cs, ¬isBlank c := by
  intro c hc
  cases h with
  | color hl hd =>
    rcases List.mem_cons.mp hc with rfl | hc
    · decide
    · exact not_isBlank_of_isHexDigit (isHexDigit_of_isLowerHex (hd c hc))
  | mac hs hn hg =>
    rcases mem_intercalate hc with rfl | ⟨g, hm, hc⟩
    · exact not_isBlank_of_macNotations (_, _, _) hs
    · exact not_isBlank_of_isHexDigit ((hg g hm).2 c hc)
  | slug hn hcs => exact not_isBlank_of_isSlugChar (hcs c hc)
  | phone hn hd => exact not_isBlank_of_isDecimal (hd c hc)
  | abroad hn hd =>
    rcases List.mem_cons.mp hc with rfl | hc
    · decide
    · exact not_isBlank_of_isDecimal (hd c hc)

namespace Check

theorem withoutLineFeed_of_ne (h : cs.getLast? ≠ some '\n') : withoutLineFeed cs = cs := if_neg h

theorem colorDigits_subset (cs : List Char) : colorDigits cs ⊆ cs := by
  rw [colorDigits]
  split
  · exact List.drop_subset 1 cs
  · exact List.Subset.refl cs

/-- Three digits are doubled, six are taken as they are. -/
theorem written_color {ds : List Char} (hl : ds.length = 3 ∨ ds.length = 6)
    (hd : ∀ c ∈ ds, isHexDigit c) :
    Kind.Written .color ('#' :: if (ds.map lowerAscii).length = 3 then
      (ds.map lowerAscii).flatMap fun c => [c, c] else ds.map lowerAscii) := by
  have hlower : ∀ c ∈ ds.map lowerAscii, isLowerHex c := by
    intro c hc
    obtain ⟨d, hm, rfl⟩ := List.mem_map.mp hc
    exact isLowerHex_lowerAscii (hd d hm)
  rw [List.length_map]
  split
  · rename_i h3
    apply Kind.Written.color
    · have h2 : ∀ c ∈ ds.map lowerAscii, [c, c].length = 2 := fun _ _ => rfl
      rw [length_flatMap_of_forall h2, List.length_map, h3]
    · intro c hc
      obtain ⟨d, hm, hc⟩ := List.mem_flatMap.mp hc
      obtain rfl : c = d := by simpa using hc
      exact hlower c hm
  · rename_i h3
    apply Kind.Written.color
    · rw [List.length_map]
      exact hl.resolve_left h3
    · exact hlower

theorem color_eq_ok (h : color mode params (.text s) = .ok r) : ∃ cs,
    r = ⟨.text (String.ofList cs), .text (String.ofList cs)⟩ ∧
      (cs.getLast? = some '\n' ∧ '\n' ∈ s.toList ∨ Kind.Written .color cs) := by
  rw [color] at h
  obtain ⟨hc, rfl⟩ := ite_accept_eq_ok.mp h
  refine ⟨_, rfl, ?_⟩
  rw [isColor, Bool.and_eq_true, Bool.or_eq_true, beq_iff_eq, beq_iff_eq, List.all_eq_true] at hc
  obtain ⟨hl, hd⟩ := hc
  by_cases hf : (colorDigits s.toList).getLast? = some '\n'
  · have hn : ((colorDigits s.toList).map lowerAscii).length ≠ 3 := by
      rw [withoutLineFeed, if_pos hf, List.length_dropLast] at hl
      rw [List.length_map]
      omega
    refine .inl ⟨?_, colorDigits_subset _ (List.mem_of_getLast? hf)⟩
    rw [if_neg hn, List.getLast?_cons, List.getLast?_map, hf]
    rfl
  · rw [withoutLineFeed_of_ne hf] at hl hd
    exact .inr (written_color hl hd)

theorem color_again (h : Kind.Written .color cs) (mode : Mode) (params : Params) :
    color mode params (.text (String.ofList cs)) = accept (.text (String.ofList cs)) := by
  obtain @⟨ds, hl, hd⟩ := h
  have hlast : ds.getLast? ≠ some '\n' := by
    intro hf
    have hn := hd _ (List.mem_of_getLast? hf)
    exact absurd hn (by decide)
  have hmap : ds.map lowerAscii = ds :=
    (List.map_congr_left fun c hc => lowerAscii_of_isLowerHex (hd c hc)).trans (List.map_id ds)
  have hdigits : colorDigits ('#' :: ds) = ds := if_pos rfl
  have hc : isColor ('#' :: ds) := by
    rw [isColor, hdigits, withoutLineFeed_of_ne hlast, hl]
    exact List.all_eq_true.mpr fun c hc => isHexDigit_of_isLowerHex (hd c hc)
  rw [color, String.toList_ofList]
  dsimp only
  rw [if_pos hc, hdigits, hmap, hl]
  rfl

theorem exists_groups (hl : (splitWhere (· == sep) cs).length = count)
    (hg : ∀ g ∈ splitWhere (· == sep) cs, g.length = size ∧ ∀ c ∈ g, isHexDigit c)
    (hs : (sep, count, size) ∈ macNotations) : Kind.Written .mac cs := by
  have h : List.intercalate [sep] (splitWhere (· == sep) cs) = cs := by
    rw [splitWhere_eq_splitOnP]
    exact List.intercalate_splitOn sep
  rw [← h]
  exact .mac hs hl hg

theorem written_mac (h : Net.isMac cs) : Kind.Written .mac cs := by
  simp only [Net.isMac, Bool.or_eq_true, Bool.and_eq_true, beq_iff_eq, List.all_eq_true] at h
  rcases h with (⟨hl, hg⟩ | ⟨hl, hg⟩) | ⟨hl, hg⟩
  · exact exists_groups hl hg (by decide)
  · exact exists_groups hl hg (by decide)
  · exact exists_groups hl hg (by decide)

theorem mac_eq_ok (h : mac mode params (.text s) = .ok r) :
    r = ⟨.text s, .text s⟩ ∧ (s.toList.getLast? = some '\n' ∨ Kind.Written .mac s.toList) := by
  rw [mac] at h
  obtain ⟨hc, hr⟩ := ite_accept_eq_ok.mp h
  refine ⟨hr, ?_⟩
  by_cases hf : s.toList.getLast? = some '\n'
  · exact .inl hf
  · rw [withoutLineFeed_of_ne hf] at hc
    exact .inr (written_mac hc)

theorem not_isSeparator_of_isDecimal (h : isDecimal c) : ¬Phone.isSeparator c := by
  intro hs
  have hd : " -.()".toList.all (!isDecimal ·) := by decide
  have hn := List.all_eq_true.mp hd c (List.contains_iff_mem.mp hs)
  rw [h] at hn
  cases hn

theorem written_phone (h : Phone.isNumber cs) (hf : cs.getLast? ≠ some '\n') :
    Kind.Written .phone cs := by
  have hshort {ds : List Char} (h : Phone.isShort ds) : ds ≠ [] ∧ ∀ c ∈ ds, isDecimal c := by
    rw [Phone.isShort, Bool.and_eq_true, Bool.and_eq_true, decide_eq_true_eq,
      decide_eq_true_eq, List.all_eq_true] at h
    exact ⟨List.ne_nil_of_length_pos h.1.1, h.2⟩
  rw [Phone.isNumber, withoutLineFeed_of_ne hf] at h
  split at h
  · obtain ⟨hn, hd⟩ := hshort h
    exact .abroad hn hd
  · rcases Bool.or_eq_true_iff.mp h with h | h
    · obtain ⟨_, hd⟩ := hshort h
      apply Kind.Written.phone (List.cons_ne_nil _ _)
      intro c hc
      rcases List.mem_cons.mp hc with rfl | hc
      · decide
      · rcases List.mem_cons.mp hc with rfl | hc
        · decide
        · exact hd c hc
    · obtain ⟨hn, hd⟩ := hshort h
      exact .phone hn hd
  · obtain ⟨hn, hd⟩ := hshort h
    exact .phone hn hd

theorem phone_eq_ok (h : phone mode params (.text s) = .ok r) : ∃ cs,
    r.output = .text (String.ofList cs) ∧ (mode.strict → r.value = r.output) ∧
      Phone.isNumber cs ∧
      (cs.getLast? = some '\n' ∧ '\n' ∈ s.toList ∨ Kind.Written .phone cs) := by
  change (if Phone.isNumber ((trim s.toList).filter (!Phone.isSeparator ·)) then _ else _) = _ at h
  split at h
  · rename_i hc
    cases h
    refine ⟨_, rfl, fun hs => ?_, hc, ?_⟩
    · rw [if_pos hs]
    · by_cases hf : ((trim s.toList).filter (!Phone.isSeparator ·)).getLast? = some '\n'
      · exact .inl ⟨hf, mem_of_mem_trim ((List.mem_filter.mp (List.mem_of_getLast? hf)).1)⟩
      · exact .inr (written_phone hc hf)
  · cases h

theorem phone_again (hc : Phone.isNumber cs) (h : Kind.Written .phone cs) (mode : Mode)
    (params : Params) :
    phone mode params (.text (String.ofList cs)) = accept (.text (String.ofList cs)) := by
  have hs : ∀ c ∈ cs, ¬Phone.isSeparator c := by
    intro c hm
    cases h with
    | phone hn hd => exact not_isSeparator_of_isDecimal (hd c hm)
    | abroad hn hd =>
      rcases List.mem_cons.mp hm with rfl | hm
      · decide
      · exact not_isSeparator_of_isDecimal (hd c hm)
  have hfilter : cs.filter (!Phone.isSeparator ·) = cs := by
    rw [List.filter_eq_self]
    intro c hm
    rw [Bool.not_eq_true', Bool.eq_false_iff]
    exact hs c hm
  have htrim : (trim (String.ofList cs).toList) = cs := by
    rw [String.toList_ofList, trim_of_no_blank h.not_isBlank]
  change (if Phone.isNumber ((trim (String.ofList cs).toList).filter (!Phone.isSeparator ·))
    then _ else _) = _
  rw [htrim, hfilter, if_pos hc, ite_self]
  rfl

theorem slug_eq_ok (hs : mode.strict) (h : slug mode params (.text s) = .ok r) : ∃ cs,
    r.value = .text (String.ofList cs) ∧
      (cs.getLast? = some '\n' ∧ '\n' ∈ s.toList ∨ Kind.Written .slug cs) := by
  obtain ⟨limits, _, h⟩ := bind_eq_ok.mp h
  dsimp only at h
  rw [pure_bind, ite_refuse_eq_ok, ite_refuse_eq_ok] at h
  obtain ⟨_, _, h⟩ := h
  obtain ⟨allowed, _, h⟩ := bind_eq_ok.mp h
  rw [ite_refuse_eq_ok, if_pos hs, String.toList_ofList] at h
  obtain ⟨_, h⟩ := h
  split at h
  · rename_i hc
    cases h
    refine ⟨_, rfl, ?_⟩
    by_cases hf : (limits.cut s.toList).getLast? = some '\n'
    · exact .inl ⟨hf, Limits.mem_of_mem_cut (List.mem_of_getLast? hf)⟩
    · rw [isSlug, withoutLineFeed_of_ne hf, Bool.and_eq_true, List.all_eq_true] at hc
      refine .inr (.slug ?_ hc.2)
      rintro he
      rw [he] at hc
      cases hc.1
  · cases h

end Check

namespace Kind

variable {kind : Kind} {params : Params} {inner : Check.Delegate}

/-- The code that is found in data: a phone number is cleaned in the output only, unless the mode
is strict. -/
def code (kind : Kind) (r : Result) : Value := if kind = phone then r.output else r.value

theorem check_written (hk : kind ∈ [color, mac, slug, phone]) (hs : kind = slug → mode.strict)
    (h : kind.check inner mode params (.text s) = .ok r) :
    ∃ cs, kind.code r = .text (String.ofList cs) ∧ (mode.strict → r.value = kind.code r) ∧
      (cs.getLast? = some '\n' ∧ '\n' ∈ s.toList ∨
        Written kind cs ∧ (kind = color ∨ kind = phone → ∀ mode : Mode,
          kind.check inner mode params (.text (String.ofList cs)) =
            .ok ⟨.text (String.ofList cs), .text (String.ofList cs)⟩)) := by
  simp only [List.mem_cons, List.not_mem_nil, or_false] at hk
  rcases hk with rfl | rfl | rfl | rfl
  · obtain ⟨cs, rfl, hf | hw⟩ := @Check.color_eq_ok mode params s r h
    · exact ⟨cs, rfl, fun _ => rfl, .inl hf⟩
    · exact ⟨cs, rfl, fun _ => rfl, .inr ⟨hw, fun _ mode => Check.color_again hw mode params⟩⟩
  · obtain ⟨rfl, hf⟩ := @Check.mac_eq_ok mode params s r h
    refine ⟨s.toList, ?_, fun _ => rfl, ?_⟩
    · rw [String.ofList_toList]
      rfl
    · rcases hf with hf | hw
      · exact .inl ⟨hf, List.mem_of_getLast? hf⟩
      · refine .inr ⟨hw, ?_⟩
        rintro (hk | hk)
        · cases hk
        · cases hk
  · obtain ⟨cs, hv, hf | hw⟩ := @Check.slug_eq_ok mode params s r (hs rfl) h
    · exact ⟨cs, hv, fun _ => rfl, .inl hf⟩
    · refine ⟨cs, hv, fun _ => rfl, .inr ⟨hw, ?_⟩⟩
      rintro (hk | hk)
      · cases hk
      · cases hk
  · obtain ⟨cs, ho, hv, hn, hf | hw⟩ := @Check.phone_eq_ok mode params s r h
    · exact ⟨cs, ho, hv, .inl hf⟩
    · exact ⟨cs, ho, hv, .inr ⟨hw, fun _ mode => Check.phone_again hn hw mode params⟩⟩

/-- The code found in a text is written in its alphabet, without any blank, unless it ends in a
line feed of the text. A color and a phone number are then found again as they are. -/
theorem validate_written (hk : kind ∈ [color, mac, slug, phone]) (hs : kind = slug → mode.strict)
    (hd : params.get "default" = .null)
    (h : kind.validate inner mode params (.text s) = .ok r) :
    ∃ cs, kind.code r = .text (String.ofList cs) ∧ (mode.strict → r.value = kind.code r) ∧
      (cs.getLast? = some '\n' → '\n' ∈ s.toList) ∧
      (cs.getLast? ≠ some '\n' → Written kind cs ∧ (∀ c ∈ cs, ¬isBlank c) ∧
        (kind = color ∨ kind = phone → ∀ mode : Mode,
          kind.validate inner mode params (.text (String.ofList cs)) =
            .ok ⟨.text (String.ofList cs), .text (String.ofList cs)⟩)) := by
  rw [validate_without_default hd, Check.settle_eq_ok] at h
  obtain ⟨cs, hc, hv, hf | ⟨hw, hagain⟩⟩ := check_written hk hs h
  · exact ⟨cs, hc, hv, fun _ => hf.2, fun hne => absurd hf.1 hne⟩
  · refine ⟨cs, hc, hv, ?_, ?_⟩
    · intro hf
      exact absurd (by decide) (hw.not_isBlank _ (List.mem_of_getLast? hf))
    · intro _
      exact ⟨hw, hw.not_isBlank, fun hk mode => validate_of_accepted (hagain hk mode)⟩

theorem validate_short_color :
    color.validate Check.noParts ⟨false, false⟩ [] (.text "#FA0") =
        .ok ⟨.text "#ffaa00", .text "#ffaa00"⟩ ∧
      Written color "#ffaa00".toList := by
  have h : color.validate Check.noParts ⟨false, false⟩ [] (.text "#FA0") =
      .ok ⟨.text "#ffaa00", .text "#ffaa00"⟩ := rfl
  refine ⟨h, ?_⟩
  obtain ⟨cs, hc, _, _, hw⟩ := validate_written (by simp) (by simp) rfl h
  have hcs : "#ffaa00" = String.ofList cs := Value.text.inj hc
  rw [hcs, String.toList_ofList]
  refine (hw ?_).1
  rw [← String.toList_ofList (l := cs), ← hcs]
  decide

/-- A line feed at the end is kept: in a color, which is not doubled then, in a hardware address, in
a slug and in a phone number. -/
theorem validate_line :
    Filter.initial.validate (.text "#abc\n") (.text "color") (some true) =
        .ok ⟨.text "#abc\n", .text "#abc\n"⟩ ∧
      Filter.initial.validate (.text "0123.4567.89ab\n") (.text "mac") (some true) =
        .ok ⟨.text "0123.4567.89ab\n", .text "0123.4567.89ab\n"⟩ ∧
      (Filter.initial.validate (.text "abc\n") (.text "slug") (some true)).map (·.value) =
        .ok (.text "abc\n") ∧
      Filter.initial.validate (.text "(123\n)") (.text "phone") (some true) =
        .ok ⟨.text "123\n", .text "123\n"⟩ ∧
      ¬Written color "#abc\n".toList := by
  refine ⟨by rfl, by rfl, by rfl, by rfl, ?_⟩
  intro h
  exact h.not_isBlank '\n' (by decide) (by decide)

end Kind
end Covenant
