import Covenant.Check.Codes
import Covenant.Proofs.Text
import Mathlib.Tactic.Ring
import Mathlib.Tactic.Tauto

/-! The digits of a UUID, as they are read and as they are written. -/

namespace Covenant

namespace Check.Uuid

/-- What a digit that was written is read as, and what it is not taken for. -/
theorem hexOf_plain : ∀ d < 16, digit? (hexOf d) = some d ∧ isHexDigit (hexOf d) ∧
    hexOf d ∉ ['-', '_', '\n'] := by
  decide

theorem digits?_cons (h : c ≠ '_') :
    digits? n (c :: cs) = (digit? c).bind fun d => digits? (16 * n + d) cs := by
  rw [digits?]
  intro d ds he
  exact absurd he h

theorem digits?_hexDigits (a width n : Nat) :
    digits? a (hexDigits width n) = some (a * 16 ^ width + n % 16 ^ width) := by
  induction width generalizing a with
  | zero => simp [hexDigits, digits?, Nat.mod_one]
  | succ width ih =>
    obtain ⟨hd, _, hm⟩ := hexOf_plain (n / 16 ^ width % 16) (Nat.mod_lt _ (by decide))
    rw [hexDigits_succ, digits?_cons (fun he => hm (by simp [he])), hd, Option.bind_some, ih,
      Nat.pow_succ, Nat.mod_mul]
    congr 1
    ring

theorem decimalDigit?_lt (h : decimalDigit? c = some d) : d < 10 := by
  unfold decimalDigit? at h
  dsimp only at h
  split at h
  · split at h
    · cases h
      omega
    · cases h
  · split at h
    · split at h
      · cases h
        exact Nat.mod_lt _ (by decide)
      · cases h
    · cases h

theorem digit?_lt (h : digit? c = some d) : d < 16 := by
  unfold digit? at h
  split at h
  · rename_i d' hd
    cases h
    exact Nat.lt_trans (decimalDigit?_lt hd) (by decide)
  · unfold hexDigit? at h
    dsimp only at h
    split at h
    · cases h
      omega
    · split at h
      · cases h
        omega
      · split at h
        · cases h
          omega
        · cases h

/-- A number has no more digits than its text has characters. -/
theorem digits?_lt (h : digits? a cs = some n) : n < (a + 1) * 16 ^ cs.length := by
  have hstep {a d m k : Nat} (hd : d < 16) (hn : n < (16 * a + d + 1) * 16 ^ m) (hk : m + 1 ≤ k) :
      n < (a + 1) * 16 ^ k := by
    calc n < (16 * a + d + 1) * 16 ^ m := hn
      _ ≤ (16 * (a + 1)) * 16 ^ m := Nat.mul_le_mul_right _ (by omega)
      _ = (a + 1) * 16 ^ (m + 1) := by ring
      _ ≤ (a + 1) * 16 ^ k := Nat.mul_le_mul_left _ (Nat.pow_le_pow_right (by decide) hk)
  fun_induction digits? a cs with
  | case1 a =>
    cases h
    simp
  | case2 a c cs ih =>
    rw [Option.bind_eq_some_iff] at h
    obtain ⟨d, hd, h⟩ := h
    exact hstep (digit?_lt hd) (ih d h) (by simp)
  | case3 a c cs hne ih =>
    rw [Option.bind_eq_some_iff] at h
    obtain ⟨d, hd, h⟩ := h
    exact hstep (digit?_lt hd) (ih d h) (by simp)

theorem isBlank_of_isMargin (h : isMargin c) : isBlank c := (Bool.and_eq_true_iff.mp h).1

theorem stripMargins_of_no_blank (h : ∀ c ∈ cs, ¬isBlank c) : stripMargins cs = cs :=
  rdropWhile_dropWhile_of_none fun c hc hm => h c hc (isBlank_of_isMargin hm)

theorem number?_lt (h : number? cs = some n) : n < 16 ^ cs.length := by
  have hdigits {ds : List Char} (hd : digits? 0 ds = some n) (hl : ds.length ≤ cs.length) :
      n < 16 ^ cs.length :=
    (by simpa using digits?_lt hd : n < 16 ^ ds.length).trans_le
      (Nat.pow_le_pow_right (by decide) hl)
  have hlen : (if (stripMargins cs).head? = some '+' then (stripMargins cs).drop 1
      else stripMargins cs).length ≤ cs.length := by
    refine le_trans ?_ (length_rdropWhile_dropWhile_le isMargin cs)
    split
    · exact (List.drop_sublist 1 (stripMargins cs)).length_le
    · exact le_rfl
  unfold number? at h
  dsimp only at h
  generalize (if (stripMargins cs).head? = some '+' then (stripMargins cs).drop 1
    else stripMargins cs) = ds at h hlen
  split at h
  · rename_i z x rest
    rw [List.length_cons, List.length_cons] at hlen
    split at h
    · rw [Option.ite_none_left_eq_some] at h
      apply hdigits h.2
      split
      · rw [List.length_drop]
        omega
      · omega
    · rw [Option.ite_none_left_eq_some] at h
      exact hdigits h.2 (by rw [List.length_cons, List.length_cons]; omega)
  · rename_i c
    rw [List.length_singleton] at hlen
    exact (by simpa using digit?_lt h : n < 16 ^ 1).trans_le
      (Nat.pow_le_pow_right (by decide) hlen)
  · cases h

theorem read?_lt (h : read? cs = some n) : n < 16 ^ 32 := by
  unfold read? at h
  dsimp only at h
  split at h
  · rename_i hl
    exact hl ▸ number?_lt h
  · cases h

/-- Without a sign, a prefix and what may part digits, a number is its digits. -/
theorem number?_eq_digits? (h : ∀ c ∈ cs, ¬isBlank c ∧ c ∉ ['_', '+', 'x', 'X'])
    (hl : 1 < cs.length) : number? cs = digits? 0 cs := by
  obtain ⟨z, x, rest, rfl⟩ : ∃ z x rest, cs = z :: x :: rest := by
    match cs, hl with
    | z :: x :: rest, _ => exact ⟨z, x, rest, rfl⟩
  have hz := (h z (by simp)).2
  have hx := (h x (by simp)).2
  have hhead : (z :: x :: rest).head? ≠ some '+' := by
    rw [List.head?_cons]
    intro hc
    exact hz (by simp [Option.some.inj hc])
  simp only [number?, stripMargins_of_no_blank fun c hc => (h c hc).1, if_neg hhead]
  rw [if_neg, if_neg]
  · rintro rfl
    exact hz (by simp)
  · rintro ⟨_, rfl | rfl⟩
    · exact hx (by simp)
    · exact hx (by simp)

/-- A UUID is written in groups of digits, a hyphen between each two. -/
theorem write_eq (n : Nat) : ∃ a b c d e, [a, b, c, d, e].map List.length = [8, 4, 4, 4, 12] ∧
    write n = a ++ '-' :: (b ++ '-' :: (c ++ '-' :: (d ++ '-' :: e))) ∧
    hexDigits 32 n = a ++ (b ++ (c ++ (d ++ e))) := by
  have hl := length_hexDigits 32 n
  have hcut (cs : List Char) (i j : Nat) :
      (cs.drop i).take j ++ cs.drop (i + j) = cs.drop i := by
    rw [← List.drop_drop, List.take_append_drop]
  have hlast : ((hexDigits 32 n).drop 20).take 12 = (hexDigits 32 n).drop 20 :=
    List.take_of_length_le (by rw [List.length_drop, hl])
  refine ⟨(hexDigits 32 n).take 8, ((hexDigits 32 n).drop 8).take 4,
    ((hexDigits 32 n).drop 12).take 4, ((hexDigits 32 n).drop 16).take 4,
    ((hexDigits 32 n).drop 20).take 12, ?_, ?_, ?_⟩
  · simp [hl]
  · simp [write]
  · rw [hlast, hcut _ 16 4, hcut _ 12 4, hcut _ 8 4, List.take_append_drop]

theorem mem_write (h : c ∈ write n) : c ∈ hexDigits 32 n ∨ c = '-' := by
  obtain ⟨_, _, _, _, _, _, hw, hx⟩ := write_eq n
  rw [hw] at h
  rw [hx]
  simp only [List.mem_append, List.mem_cons] at h ⊢
  tauto

theorem ne_lineFeed_of_mem_write (h : c ∈ write n) : c ≠ '\n' := by
  rcases mem_write h with h | rfl
  · obtain ⟨d, hd, rfl⟩ := eq_hexOf_of_mem h
    exact fun he => (hexOf_plain d hd).2.2 (by simp [he])
  · decide

theorem removeUrn_of_notMem (h : 'u' ∉ cs) : removeUrn cs = cs := by
  fun_induction removeUrn cs with
  | case1 cs ih => simp at h
  | case2 c cs hne ih => rw [ih fun hm => h (by simp [hm])]
  | case3 => rfl

theorem removeUuid_of_notMem (h : 'u' ∉ cs) : removeUuid cs = cs := by
  fun_induction removeUuid cs with
  | case1 cs ih => simp at h
  | case2 c cs hne ih => rw [ih fun hm => h (by simp [hm])]
  | case3 => rfl

theorem stripBraces_of_no_brace (h : ∀ c ∈ cs, ¬isBrace c) : stripBraces cs = cs :=
  rdropWhile_dropWhile_of_none h

theorem ne_hyphen_of_mem (h : c ∈ hexDigits width n) : (c == '-') = false := by
  obtain ⟨d, hd, rfl⟩ := eq_hexOf_of_mem h
  obtain ⟨_, _, hm⟩ := hexOf_plain d hd
  rw [beq_eq_false_iff_ne]
  exact fun he => hm (by simp [he])

theorem filter_write (n : Nat) : (write n).filter (· != '-') = hexDigits 32 n := by
  obtain ⟨a, b, c, d, e, _, hw, hx⟩ := write_eq n
  have hf : (hexDigits 32 n).filter (· != '-') = hexDigits 32 n := by
    rw [List.filter_eq_self]
    intro c hc
    rw [bne, ne_hyphen_of_mem hc, Bool.not_false]
  rw [hx] at hf ⊢
  rw [hw]
  have hh : ('-' != '-') = false := by decide
  simpa only [List.filter_append, List.filter_cons, hh, Bool.false_eq_true, if_false] using hf

theorem isCanonical_write (n : Nat) : isCanonical (write n) := by
  obtain ⟨a, b, c, d, e, hl, hw, hx⟩ := write_eq n
  have hm (x : Char) (h : x ∈ a ++ (b ++ (c ++ (d ++ e)))) : x ∈ hexDigits 32 n := hx ▸ h
  have hp (x : Char) (h : x ∈ a ++ (b ++ (c ++ (d ++ e)))) : ¬(x == '-') = true := by
    rw [ne_hyphen_of_mem (hm x h)]
    decide
  have hn : withoutLineFeed (write n) = write n := by
    rw [withoutLineFeed, if_neg]
    intro h
    exact ne_lineFeed_of_mem_write (List.mem_of_getLast? h) rfl
  have hs : splitWhere (· == '-') (write n) = [a, b, c, d, e] := by
    rw [hw, splitWhere_append (fun x h => hp x (by simp [h])) (by decide),
      splitWhere_append (fun x h => hp x (by simp [h])) (by decide),
      splitWhere_append (fun x h => hp x (by simp [h])) (by decide),
      splitWhere_append (fun x h => hp x (by simp [h])) (by decide),
      splitWhere_of_no_sep fun x h => hp x (by simp [h])]
  have hhex : [a, b, c, d, e].all (·.all isHexDigit) := by
    simp only [List.all_eq_true]
    intro part hpart x h
    obtain ⟨y, hy, rfl⟩ := eq_hexOf_of_mem (hm x (by
      simp only [List.mem_cons, List.not_mem_nil, or_false] at hpart
      rcases hpart with rfl | rfl | rfl | rfl | rfl <;> simp [h]))
    exact (hexOf_plain y hy).2.1
  simp only [isCanonical, hn, hs, hl, hhex, beq_self_eq_true, Bool.and_self]

end Check.Uuid
end Covenant
