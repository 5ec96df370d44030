import Covenant.Net.Host
import Covenant.Proofs.Charset.Length
import Covenant.Proofs.Text

/-! Domains in ASCII: which characters they are written with, and which of them stay as they are. -/

namespace Covenant

namespace Net.Punycode

theorem threshold_pos (k bias : Nat) : 1 ≤ threshold k bias := by
  unfold threshold
  split_ifs <;> omega

theorem threshold_le (k bias : Nat) : threshold k bias ≤ 26 := by
  unfold threshold
  split_ifs <;> omega

/-- A small letter or a digit. -/
def isDigitChar (c : Char) : Bool := isAsciiLower c || isAsciiDigit c

theorem isDigitChar_digitChar : ∀ d < 36, isDigitChar (digitChar d) := by decide

theorem isDigitChar_of_mem_encodeNumber (h : c ∈ encodeNumber bias fuel q k) : isDigitChar c := by
  induction fuel generalizing q k with
  | zero => cases h
  | succ fuel ih =>
    have hpos := threshold_pos k bias
    have hle := threshold_le k bias
    rw [encodeNumber] at h
    split at h
    · rw [List.mem_singleton.mp h]
      exact isDigitChar_digitChar q (by omega)
    · rcases List.mem_cons.mp h with rfl | h
      · have := Nat.mod_lt (q - threshold k bias) (y := base - threshold k bias)
          (by rw [base]; omega)
        exact isDigitChar_digitChar _ (by rw [base] at this ⊢; omega)
      · exact ih h

variable {cs : List Char} {p : Progress}

/-- The encoder puts out small letters and digits only, one code point after another. -/
theorem output_encodePoint (h : ∀ c ∈ p.output, c ∈ cs ∨ isDigitChar c) (point n : Nat) :
    ∀ c ∈ (encodePoint point p n).output, c ∈ cs ∨ isDigitChar c := by
  unfold encodePoint
  split_ifs
  · exact h
  · intro c hc
    rcases List.mem_append.mp hc with hc | hc
    · exact h c hc
    · exact .inr (isDigitChar_of_mem_encodeNumber hc)
  · exact h

theorem output_foldl (h : ∀ c ∈ p.output, c ∈ cs ∨ isDigitChar c) (point : Nat) (ns : List Nat) :
    ∀ c ∈ (ns.foldl (encodePoint point) p).output, c ∈ cs ∨ isDigitChar c := by
  induction ns generalizing p with
  | nil => exact h
  | cons n ns ih => exact ih (output_encodePoint h point n)

theorem output_encodePoints (h : ∀ c ∈ p.output, c ∈ cs ∨ isDigitChar c) (ns points : List Nat)
    (next : Nat) : ∀ c ∈ (encodePoints ns points next p).output, c ∈ cs ∨ isDigitChar c := by
  induction points generalizing p next with
  | nil => exact h
  | cons point rest ih =>
    rw [encodePoints]
    refine ih ?_ _
    exact output_foldl (by exact h) point ns

theorem mem_encode (h : c ∈ encode cs) : c ∈ '-' :: cs ∨ isDigitChar c := by
  refine output_encodePoints (fun d hd => .inl ?_) _ _ _ c h
  dsimp only at hd
  split at hd
  · cases hd
  · rcases List.mem_append.mp hd with hd | hd
    · exact List.mem_cons_of_mem _ (List.mem_filter.mp hd).1
    · rw [List.mem_singleton.mp hd]
      exact List.mem_cons_self

end Net.Punycode

namespace Net

/-- In ASCII, capital letters become small ones, and the rest of a host name stays as it is. -/
theorem mapHost?_of_ascii (h : ∀ c ∈ cs, c.toNat < 128) :
    mapHost? cs = some (cs.map lowerAscii) := by
  have hmap : cs.mapM mapHostChar? = some (cs.map fun c => [lowerAscii c]) := by
    induction cs with
    | nil => rfl
    | cons c cs ih =>
      obtain ⟨hc, h⟩ := List.forall_mem_cons.mp h
      rw [List.mapM_cons, mapHostChar?, if_pos hc, ih h]
      rfl
  have hflat : (cs.map fun c => [lowerAscii c]).flatten = cs.map lowerAscii :=
    List.flatMap_def.symm.trans List.map_eq_flatMap.symm
  have hnfc : Normalize.nfc (cs.map lowerAscii) = cs.map lowerAscii := by
    refine if_pos (List.all_eq_true.mpr fun d hd => ?_)
    obtain ⟨c, hc, rfl⟩ := List.mem_map.mp hd
    rw [decide_eq_true_eq, toNat_lowerAscii]
    have := h c hc
    split <;> omega
  rw [mapHost?, hmap, Option.map_some, hflat, hnfc]

namespace Host

/-- A domain with each label in ASCII. -/
def toAscii (domain : List Char) : List Char :=
  if isAscii domain then domain
  else joinLabels ((labelsOf domain).map fun label =>
    if isAscii label then label else acePrefix ++ Punycode.encode label)

theorem toAscii_map_lowerAscii {cs : List Char} (h : ∀ c ∈ cs, c.toNat < 128) :
    toAscii (cs.map lowerAscii) = cs.map lowerAscii := by
  refine if_pos (List.all_eq_true.mpr fun d hd => ?_)
  obtain ⟨c, hc, rfl⟩ := List.mem_map.mp hd
  have := h c hc
  rw [decide_eq_true_eq, toNat_lowerAscii]
  split
  · rename_i hu
    rw [isAsciiUpper, Bool.and_eq_true, decide_eq_true_eq, decide_eq_true_eq] at hu
    omega
  · exact this

theorem percentDecode_of_ascii (h : ∀ c ∈ cs, c.toNat < 128) (hp : '%' ∉ cs) :
    percentDecode cs = cs.map fun c => byte c.toNat := by
  fun_induction percentDecode cs with
  | case1 => simp at hp
  | case2 => simp at hp
  | case3 c cs _ ih =>
    obtain ⟨hc, h⟩ := List.forall_mem_cons.mp h
    rw [ih h fun hm => hp (List.mem_cons_of_mem c hm), Utf8.encodeChar, if_pos hc]
    rfl
  | case4 => rfl

theorem decode_percentDecode_of_ascii (h : ∀ c ∈ cs, c.toNat < 128) (hp : '%' ∉ cs) :
    Utf8.decode? (percentDecode cs) = some cs := by
  have hbyte : ∀ c ∈ cs, (byte c.toNat).toNat = c.toNat := fun c hc => by
    have := h c hc
    rw [byte, UInt8.toNat_ofNat']
    omega
  have hbytes : ∀ b ∈ cs.map fun c => byte c.toNat, b.toNat < 128 := fun b hb => by
    obtain ⟨c, hc, rfl⟩ := List.mem_map.mp hb
    rw [hbyte c hc]
    exact h c hc
  rw [percentDecode_of_ascii h hp, Utf8.decode?_of_ascii hbytes, Utf8.asciiChars, List.map_map,
    Option.some.injEq]
  refine (List.map_congr_left fun c hc => ?_).trans (List.map_id cs)
  rw [Function.comp_apply, hbyte c hc, Char.ofNat_toNat, id]

theorem domain?_eq_some (h : domain? cs = some domain) :
    (∃ decoded, Utf8.decode? (percentDecode cs) = some decoded ∧ mapHost? decoded = some domain) ∧
      ∀ c ∈ domain, ¬isDenied c := by
  obtain ⟨decoded, hdecoded, h⟩ := Option.bind_eq_some_iff.mp h
  obtain ⟨mapped, hmapped, h⟩ := Option.bind_eq_some_iff.mp h
  obtain ⟨labels, _, h⟩ := Option.bind_eq_some_iff.mp h
  split at h
  · rename_i hfits
    cases h
    rw [Bool.and_eq_true, Bool.not_eq_true', List.any_eq_false] at hfits
    exact ⟨⟨decoded, hdecoded, hmapped⟩, hfits.1⟩
  · cases h

/-- A domain of plain ASCII is itself in small letters. -/
theorem domain?_of_ascii (h : ∀ c ∈ cs, c.toNat < 128) (hp : '%' ∉ cs)
    (hd : domain? cs = some domain) : domain = cs.map lowerAscii := by
  obtain ⟨⟨decoded, hdecoded, hmapped⟩, _⟩ := domain?_eq_some hd
  rw [decode_percentDecode_of_ascii h hp] at hdecoded
  cases hdecoded
  rw [mapHost?_of_ascii h] at hmapped
  exact (Option.some.inj hmapped).symm

theorem not_isDenied_of_isDigitChar (h : Punycode.isDigitChar c) : ¬isDenied c := by
  intro hd
  simp only [isDenied, Bool.or_eq_true, decide_eq_true_eq, beq_iff_eq, List.contains_iff_mem] at hd
  rcases hd with hn | hm
  · simp only [Punycode.isDigitChar, isAsciiLower, isAsciiDigit, Bool.or_eq_true,
      Bool.and_eq_true, decide_eq_true_eq] at h
    omega
  · have hall : "%#/:<>?@[\\]^|".toList.all (!Punycode.isDigitChar ·) := by decide
    have hnot := List.all_eq_true.mp hall c hm
    rw [h] at hnot
    cases hnot

/-- No character is denied in the ASCII form either: it comes of the domain or of the encoder. -/
theorem not_isDenied_of_mem_toAscii (hd : ∀ c ∈ domain, ¬isDenied c) (h : c ∈ toAscii domain) :
    ¬isDenied c := by
  unfold toAscii at h
  split at h
  · exact hd c h
  · rcases mem_join h with h | ⟨t, ht, h⟩
    · rw [List.mem_singleton.mp h]
      decide
    · rw [List.map_map] at ht
      obtain ⟨label, hl, rfl⟩ := List.mem_map.mp ht
      have hlabel : ∀ d ∈ label, ¬isDenied d := fun d hm => hd d (mem_of_mem_splitWhere hl hm)
      rw [Function.comp_apply, String.toList_ofList] at h
      split at h
      · exact hlabel c h
      · rcases List.mem_append.mp h with h | h
        · have hall : acePrefix.all (!isDenied ·) := by decide
          simpa using List.all_eq_true.mp hall c h
        · rcases Punycode.mem_encode h with h | h
          · rcases List.mem_cons.mp h with rfl | h
            · decide
            · exact hlabel c h
          · exact not_isDenied_of_isDigitChar h

end Host
end Net
end Covenant
