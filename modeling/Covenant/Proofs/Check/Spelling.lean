import Covenant.Proofs.Check.Alphabet
import Covenant.Proofs.Check.Uuid
import Mathlib.Data.Nat.Digits.Lemmas

/-! However a UUID is spelled, it is read as one number, which is written in one form. -/

namespace Covenant

namespace Check.Uuid

/-- The number that the hexadecimal digits among some characters make up. -/
def value (cs : List Char) : Nat := Nat.ofDigits 16 (cs.filterMap digit?).reverse

/-- The number that a text stands for, its prefixes apart. -/
def denoted (cs : List Char) : Nat := value (removeUuid (removeUrn (trim cs)))

/-- Groups of 8, 4, 4, 4 and 12 small hexadecimal digits, a hyphen between each two. -/
def IsForm (cs : List Char) : Prop := ∃ groups, cs = List.intercalate ['-'] groups ∧
  groups.map List.length = [8, 4, 4, 4, 12] ∧ ∀ g ∈ groups, ∀ c ∈ g, isLowerHex c

/-- The spellings of a number: its digits in either case, with hyphens or without, in braces, behind
a prefix. -/
inductive Spelling (n : Nat) : List Char → Prop where
  | digits {cs} (h : (cs.filter (· != '-')).map lowerAscii = (write n).filter (· != '-')) :
      Spelling n cs
  | braces {cs} (h : Spelling n cs) : Spelling n ('\x7b' :: (cs ++ ['\x7d']))
  | urn {cs} (h : Spelling n cs) : Spelling n ("urn:uuid:".toList ++ cs)

section Value

variable {c : Char} {cs ds : List Char} {a d n : Nat}

theorem value_congr (h : cs.filterMap digit? = ds.filterMap digit?) : value cs = value ds := by
  rw [value, h, ← value]

theorem value_cons_of_none (h : digit? c = none) (cs : List Char) : value (c :: cs) = value cs :=
  value_congr (List.filterMap_cons_none h)

/-- A digit has its place from how many digits are behind it. -/
theorem value_cons (h : digit? c = some d) (a : Nat) (cs : List Char) :
    a * 16 ^ ((c :: cs).filterMap digit?).length + value (c :: cs) =
      (16 * a + d) * 16 ^ (cs.filterMap digit?).length + value cs := by
  rw [value, List.filterMap_cons_some h, List.reverse_cons, Nat.ofDigits_append,
    Nat.ofDigits_singleton, List.length_reverse, List.length_cons, ← value]
  ring

theorem eq_of_digits? (h : digits? a cs = some n) :
    n = a * 16 ^ (cs.filterMap digit?).length + value cs := by
  fun_induction digits? a cs with
  | case1 a =>
    cases h
    simp [value]
  | case2 a c cs ih =>
    obtain ⟨d, hd, h⟩ := Option.bind_eq_some_iff.mp h
    have hu : digit? '_' = none := by decide
    rw [List.filterMap_cons_none hu, value_cons_of_none hu, value_cons hd]
    exact ih d h
  | case3 a c cs hne ih =>
    obtain ⟨d, hd, h⟩ := Option.bind_eq_some_iff.mp h
    rw [value_cons hd]
    exact ih d h

theorem eq_value_of_digits? (h : digits? 0 cs = some n) : n = value cs := by
  have he := eq_of_digits? h
  rwa [Nat.zero_mul, Nat.zero_add] at he

theorem digit?_of_isBlank (h : isBlank c) : digit? c = none := by
  cases hd : decimalDigit? c with
  | some d => exact absurd h (not_isBlank_of_isDecimal (by rw [isDecimal, hd]; rfl))
  | none =>
    rw [digit?, hd]
    cases hx : hexDigit? c with
    | some d => exact absurd h (not_isBlank_of_isHexDigit (by rw [isHexDigit, hx]; rfl))
    | none => rfl

theorem digit?_of_isBrace (h : isBrace c) : digit? c = none := by
  rw [isBrace, Bool.or_eq_true, beq_iff_eq, beq_iff_eq] at h
  rcases h with rfl | rfl
  · decide
  · decide

theorem value_stripMargins (cs : List Char) : value (stripMargins cs) = value cs :=
  value_congr (filterMap_rdropWhile_dropWhile
    (fun _ h => digit?_of_isBlank (isBlank_of_isMargin h)) cs)

theorem value_stripBraces (cs : List Char) : value (stripBraces cs) = value cs :=
  value_congr (filterMap_rdropWhile_dropWhile (fun _ => digit?_of_isBrace) cs)

theorem value_filter (cs : List Char) : value (cs.filter (· != '-')) = value cs := by
  apply value_congr
  rw [List.filterMap_filter]
  refine List.filterMap_congr fun c _ => ?_
  by_cases hc : c = '-'
  · rw [hc]
    decide
  · rw [if_pos (bne_iff_ne.mpr hc)]

/-- A mark in front that is no digit may be left out. -/
theorem value_drop (h : digit? c = none) (cs : List Char) :
    value (if cs.head? = some c then cs.drop 1 else cs) = value cs := by
  split
  · rename_i hc
    obtain ⟨rest, rfl⟩ := List.head?_eq_some_iff.mp hc
    exact (value_cons_of_none h rest).symm
  · rfl

/-- The sign, the prefix and what parts the digits do not count for a number. -/
theorem eq_value_of_number? (h : number? cs = some n) : n = value cs := by
  rw [← value_stripMargins cs, ← value_drop (by decide : digit? '+' = none)]
  unfold number? at h
  dsimp only at h
  generalize (if (stripMargins cs).head? = some '+' then (stripMargins cs).drop 1
    else stripMargins cs) = ds at h ⊢
  split at h
  · rename_i z x rest
    split at h
    · rename_i hz
      have hz0 : digit? z = some 0 := by
        rw [digit?, beq_iff_eq.mp hz.1]
      have hx : digit? x = none := by
        rcases hz.2 with rfl | rfl
        · decide
        · decide
      rw [Option.ite_none_left_eq_some] at h
      have hrest := eq_value_of_digits? h.2
      rw [value_drop (by decide : digit? '_' = none)] at hrest
      have hv := value_cons hz0 0 (x :: rest)
      rw [Nat.zero_mul, Nat.mul_zero, Nat.zero_add, Nat.zero_add, Nat.zero_mul, Nat.zero_add,
        value_cons_of_none hx] at hv
      rw [hv, hrest]
    · rw [Option.ite_none_left_eq_some] at h
      exact eq_value_of_digits? h.2
  · rename_i c
    simp [value, h]
  · cases h

theorem eq_denoted_of_read? (h : read? cs = some n) : n = denoted cs := by
  unfold read? at h
  dsimp only at h
  split at h
  · rw [eq_value_of_number? h, value_filter, value_stripBraces]
    rfl
  · cases h

theorem value_write (h : n < 16 ^ 32) : value (write n) = n := by
  have hd := digits?_hexDigits 0 32 n
  rw [Nat.mod_eq_of_lt h, Nat.zero_mul, Nat.zero_add] at hd
  rw [← value_filter, filter_write]
  exact (eq_value_of_digits? hd).symm

end Value

theorem isForm_write (n : Nat) : IsForm (write n) := by
  obtain ⟨a, b, c, d, e, hl, hw, hx⟩ := write_eq n
  refine ⟨[a, b, c, d, e], by rw [hw]; simp [List.intercalate], hl, fun g hg ch hc => ?_⟩
  have hm : ch ∈ hexDigits 32 n := by
    rw [hx]
    simp only [List.mem_cons, List.not_mem_nil, or_false] at hg
    rcases hg with rfl | rfl | rfl | rfl | rfl <;> simp [hc]
  obtain ⟨x, hx, rfl⟩ := eq_hexOf_of_mem hm
  exact isLowerHex_hexOf x hx

section Spelled

variable {c d : Char} {cs : List Char} {n : Nat}

/-- What a hexadecimal digit in either case is not taken for. -/
theorem plain_of_isHexDigit (h : isHexDigit c) :
    ¬isBlank c ∧ ¬isBrace c ∧ c ∉ ['-', '_', '+', 'u', 'x', 'X'] := by
  refine ⟨not_isBlank_of_isHexDigit h, fun hb => ?_, fun hm => ?_⟩
  · rw [isBrace, Bool.or_eq_true, beq_iff_eq, beq_iff_eq] at hb
    rcases hb with rfl | rfl <;> exact absurd h (by decide)
  · have hn : ['-', '_', '+', 'u', 'x', 'X'].all (!isHexDigit ·) := by decide
    have hc := List.all_eq_true.mp hn c hm
    rw [h] at hc
    cases hc

theorem digit?_lowerAscii (h : isHexDigit c) : digit? (lowerAscii c) = digit? c := by
  have hall : ∀ n < 128, isHexDigit (Char.ofNat n) →
      digit? (lowerAscii (Char.ofNat n)) = digit? (Char.ofNat n) := by
    decide
  have hn : c.toNat < 128 := by
    rw [isHexDigit_iff] at h
    omega
  have hc := hall c.toNat hn
  rw [Char.ofNat_toNat] at hc
  exact hc h

theorem digits?_map_lowerAscii (h : ∀ c ∈ cs, isHexDigit c) (a : Nat) :
    digits? a (cs.map lowerAscii) = digits? a cs := by
  have hne {c : Char} (hc : isHexDigit c) : c ≠ '_' := by
    rintro rfl
    exact absurd hc (by decide)
  induction cs generalizing a with
  | nil => rfl
  | cons c cs ih =>
    obtain ⟨hc, h⟩ := List.forall_mem_cons.mp h
    rw [List.map_cons,
      digits?_cons (hne (isHexDigit_of_isLowerHex (isLowerHex_lowerAscii hc))),
      digits?_cons (hne hc), digit?_lowerAscii hc]
    congr 1
    funext d
    exact ih h (16 * a + d)

/-- A number is read of its digits in either case. -/
theorem number?_of_lower (hn : n < 16 ^ 32) (h : cs.map lowerAscii = hexDigits 32 n) :
    number? cs = some n := by
  have hhex : ∀ c ∈ cs, isHexDigit c := by
    intro c hc
    obtain ⟨d, hd, he⟩ := eq_hexOf_of_mem (h ▸ List.mem_map_of_mem hc)
    exact isHexDigit_of_lowerAscii (he ▸ isLowerHex_hexOf d hd)
  have hl : cs.length = 32 := by
    rw [← List.length_map lowerAscii, h, length_hexDigits]
  rw [number?_eq_digits? (fun c hc => ?_) (by omega), ← digits?_map_lowerAscii hhex, h,
    digits?_hexDigits, Nat.mod_eq_of_lt hn, Nat.zero_mul, Nat.zero_add]
  obtain ⟨hb, _, hm⟩ := plain_of_isHexDigit (hhex c hc)
  refine ⟨hb, fun hs => hm ?_⟩
  simp only [List.mem_cons, List.not_mem_nil, or_false] at hs ⊢
  tauto

theorem exists_cons_of_concat {as bs : List Char} (h : cs ++ [d] = as ++ ':' :: bs)
    (hd : d ≠ ':') : ∃ bs', cs = as ++ ':' :: bs' := by
  rcases List.eq_nil_or_concat bs with rfl | ⟨bs', e, rfl⟩
  · exact absurd (List.append_inj' h rfl).2 (by simpa using hd)
  · have hassoc : as ++ ':' :: bs'.concat e = (as ++ ':' :: bs') ++ [e] := by simp
    exact ⟨bs', (List.append_inj' (h.trans hassoc) rfl).1⟩

/-- No prefix ends at a character that is no colon. -/
theorem removeUrn_concat (h : d ≠ ':') (cs : List Char) :
    removeUrn (cs ++ [d]) = removeUrn cs ++ [d] := by
  fun_induction removeUrn cs with
  | case1 cs ih => exact ih
  | case2 c cs hne ih =>
    rw [List.cons_append, removeUrn, ih, List.cons_append]
    intro rest hc he
    obtain ⟨rest', hr⟩ := @exists_cons_of_concat d cs ['r', 'n'] rest he h
    exact hne rest' hc hr
  | case3 =>
    rw [List.nil_append, removeUrn]
    · rfl
    · exact fun _ _ he => nomatch he

theorem removeUuid_concat (h : d ≠ ':') (cs : List Char) :
    removeUuid (cs ++ [d]) = removeUuid cs ++ [d] := by
  fun_induction removeUuid cs with
  | case1 cs ih => exact ih
  | case2 c cs hne ih =>
    rw [List.cons_append, removeUuid, ih, List.cons_append]
    intro rest hc he
    obtain ⟨rest', hr⟩ := @exists_cons_of_concat d cs ['u', 'i', 'd'] rest he h
    exact hne rest' hc hr
  | case3 =>
    rw [List.nil_append, removeUuid]
    · rfl
    · exact fun _ _ he => nomatch he

theorem stripBraces_braces (cs : List Char) :
    stripBraces ('\x7b' :: (cs ++ ['\x7d'])) = stripBraces cs := by
  show (('\x7b' :: (cs ++ ['\x7d'])).dropWhile isBrace).rdropWhile isBrace =
    (cs.dropWhile isBrace).rdropWhile isBrace
  rw [List.dropWhile_cons_of_pos rfl, List.dropWhile_append]
  split
  · rename_i he
    rw [List.isEmpty_iff.mp he]
    rfl
  · exact List.rdropWhile_concat_pos _ _ _ rfl

/-- What a spelling is read of. -/
def core (cs : List Char) : List Char :=
  (stripBraces (removeUuid (removeUrn cs))).filter (· != '-')

theorem isHexDigit_of_lower
    (h : (cs.filter (· != '-')).map lowerAscii = (write n).filter (· != '-')) :
    ∀ c ∈ cs, c = '-' ∨ isHexDigit c := by
  intro c hc
  refine or_iff_not_imp_left.mpr fun hh => ?_
  rw [filter_write] at h
  have hm : lowerAscii c ∈ hexDigits 32 n :=
    h ▸ List.mem_map_of_mem (List.mem_filter.mpr ⟨hc, bne_iff_ne.mpr hh⟩)
  obtain ⟨d, hd, he⟩ := eq_hexOf_of_mem hm
  exact isHexDigit_of_lowerAscii (he ▸ isLowerHex_hexOf d hd)

theorem Spelling.not_isBlank (h : Spelling n cs) : ∀ c ∈ cs, ¬isBlank c := by
  induction h with
  | @digits cs h =>
    intro c hc
    rcases isHexDigit_of_lower h c hc with rfl | hx
    · decide
    · exact (plain_of_isHexDigit hx).1
  | braces h ih =>
    rw [List.forall_mem_cons, List.forall_mem_append]
    exact ⟨by decide, ih, List.forall_mem_singleton.mpr (by decide)⟩
  | urn h ih =>
    have hp : "urn:uuid:".toList.all (!isBlank ·) := by decide
    rw [List.forall_mem_append]
    exact ⟨fun c hc => by simpa using List.all_eq_true.mp hp c hc, ih⟩

theorem lower_core (h : Spelling n cs) : (core cs).map lowerAscii = hexDigits 32 n := by
  induction h with
  | @digits cs h =>
    have hplain : ∀ c ∈ cs, c ≠ 'u' ∧ ¬isBrace c := by
      intro c hc
      rcases isHexDigit_of_lower h c hc with rfl | hx
      · decide
      · obtain ⟨_, hb, hu⟩ := plain_of_isHexDigit hx
        exact ⟨fun hc => hu (by simp [hc]), hb⟩
    have hu : 'u' ∉ cs := fun hm => (hplain 'u' hm).1 rfl
    rw [core, removeUrn_of_notMem hu, removeUuid_of_notMem hu,
      stripBraces_of_no_brace fun c hc => (hplain c hc).2, h, filter_write]
  | @braces cs h ih =>
    have hurn : removeUrn ('\x7b' :: (cs ++ ['\x7d'])) = '\x7b' :: (removeUrn cs ++ ['\x7d']) := by
      rw [← removeUrn_concat (by decide)]
      rfl
    have huuid : removeUuid ('\x7b' :: (removeUrn cs ++ ['\x7d'])) =
        '\x7b' :: (removeUuid (removeUrn cs) ++ ['\x7d']) := by
      rw [← removeUuid_concat (by decide)]
      rfl
    rw [core, hurn, huuid, stripBraces_braces]
    exact ih
  | urn h ih => exact ih

theorem read?_of_spelling {before after : List Char} (hn : n < 16 ^ 32) (h : Spelling n cs)
    (hb : ∀ c ∈ before, isBlank c) (ha : ∀ c ∈ after, isBlank c) :
    read? (before ++ cs ++ after) = some n := by
  have ht : trim (before ++ cs ++ after) = cs := by
    rw [trim_between hb ha, trim_of_no_blank h.not_isBlank]
  have hcore := lower_core h
  have hl : (core cs).length = 32 := by
    rw [← List.length_map lowerAscii, hcore, length_hexDigits]
  rw [read?, ht]
  exact (if_pos hl).trans (number?_of_lower hn hcore)

theorem spelling_write (n : Nat) : Spelling n (write n) := by
  have hlow : ∀ c ∈ hexDigits 32 n, lowerAscii c = id c := by
    intro c hc
    obtain ⟨d, hd, rfl⟩ := eq_hexOf_of_mem hc
    exact lowerAscii_of_isLowerHex (isLowerHex_hexOf d hd)
  refine .digits ?_
  rw [filter_write, List.map_congr_left hlow, List.map_id]

theorem read?_write (h : n < 16 ^ 32) : read? (write n) = some n := by
  have hr := read?_of_spelling h (spelling_write n) (List.forall_mem_nil _) (List.forall_mem_nil _)
  rwa [List.nil_append, List.append_nil] at hr

end Spelled

end Check.Uuid

theorem Check.uuid_text_eq_ok (h : uuid mode params (.text s) = .ok r) :
    ∃ n, Uuid.read? s.toList = some n ∧
      r = ⟨.text (String.ofList (Uuid.write n)), Uuid.version n⟩ := by
  rw [uuid] at h
  split at h
  · cases h
  · split at h
    · rename_i n hn
      cases h
      exact ⟨n, hn, rfl⟩
    · cases h

/-- A UUID that was read is written in the one way that is read again, strictly or not. -/
theorem Check.uuid_repeat (h : uuid mode params data = .ok r) :
    ∃ s, r.value = .text s ∧ uuid mode' params (.text s) = .ok r := by
  cases data with
  | text s =>
    obtain ⟨n, hn, rfl⟩ := uuid_text_eq_ok h
    refine ⟨_, rfl, ?_⟩
    rw [uuid]
    simp [Uuid.isCanonical_write, Uuid.read?_write (Uuid.read?_lt hn)]
  | _ => cases h

namespace Kind

open Check.Uuid

/-- A text that is let through, strictly or not, is written as the number it stands for. Every
number below `2 ^ 128` is written so, and read of each of its spellings between blanks. -/
theorem validate_uuid (inner : Check.Delegate) (params : Params) :
    (∀ mode s r, uuid.check inner mode params (.text s) = .ok r →
      uuid.validate inner mode params (.text s) = .ok r ∧
        ∃ cs, r.value = .text (String.ofList cs) ∧ IsForm cs ∧ value cs < 2 ^ 128 ∧
          value cs = denoted s.toList ∧
          ∀ mode', uuid.validate inner mode' params r.value = .ok r) ∧
    ∀ n < 2 ^ 128, IsForm (write n) ∧ value (write n) = n ∧
      ∀ mode before cs after, mode.strict = false → Spelling n cs →
        (∀ c ∈ before, isBlank c) → (∀ c ∈ after, isBlank c) →
        uuid.validate inner mode params (.text (String.ofList (before ++ cs ++ after))) =
          .ok ⟨.text (String.ofList (write n)), version n⟩ := by
  have hpow : 2 ^ 128 = 16 ^ 32 := by norm_num
  rw [hpow]
  constructor
  · intro mode s r h
    have hc : Check.uuid mode params (.text s) = .ok r := h
    obtain ⟨n, hn, rfl⟩ := Check.uuid_text_eq_ok hc
    have hlt := read?_lt hn
    refine ⟨validate_of_accepted h, write n, rfl, isForm_write n, ?_, ?_, fun mode' => ?_⟩
    · rwa [value_write hlt]
    · rw [value_write hlt, eq_denoted_of_read? hn]
    · obtain ⟨_, hv, hs⟩ := @Check.uuid_repeat mode params (.text s) _ mode' hc
      rw [hv]
      exact validate_of_accepted hs
  · intro n hn
    refine ⟨isForm_write n, value_write hn, fun mode before cs after hm h hb ha => ?_⟩
    apply validate_of_accepted
    show Check.uuid mode params (.text (String.ofList (before ++ cs ++ after))) = _
    rw [Check.uuid, hm, Bool.false_and, if_neg Bool.false_ne_true, String.toList_ofList]
    simp only [read?_of_spelling hn h hb ha]

theorem validate_urn :
    uuid.validate Check.noParts ⟨false, false⟩ []
          (.text " urn:uuid:\x7bF47AC10B58CC4372a5670e02b2c3d479\x7d\n") =
        .ok ⟨.text "f47ac10b-58cc-4372-a567-0e02b2c3d479", .int 4⟩ ∧
      denoted " urn:uuid:\x7bF47AC10B58CC4372a5670e02b2c3d479\x7d\n".toList =
        value "f47ac10b-58cc-4372-a567-0e02b2c3d479".toList := by
  have hw : write 0xf47ac10b58cc4372a5670e02b2c3d479 =
      "f47ac10b-58cc-4372-a567-0e02b2c3d479".toList := by
    decide +kernel
  have hdigits : Spelling 0xf47ac10b58cc4372a5670e02b2c3d479
      "F47AC10B58CC4372a5670e02b2c3d479".toList :=
    .digits (by decide +kernel)
  obtain ⟨hread, hwritten⟩ := validate_uuid Check.noParts []
  have h := (hwritten 0xf47ac10b58cc4372a5670e02b2c3d479 (by decide)).2.2 ⟨false, false⟩
    [' '] _ ['\n'] rfl (.urn (.braces hdigits)) (List.forall_mem_singleton.mpr (by decide))
    (List.forall_mem_singleton.mpr (by decide))
  rw [hw] at h
  have hc := Check.settle_eq_ok.mp ((validate_without_default rfl).symm.trans h)
  obtain ⟨_, cs, hcs, _, _, hv, _⟩ := hread _ _ _ hc
  have hcs : "f47ac10b-58cc-4372-a567-0e02b2c3d479".toList = cs :=
    String.ofList_inj.mp (Value.text.inj hcs)
  refine ⟨h, ?_⟩
  rw [hcs]
  exact hv.symm

end Kind
end Covenant
