import Covenant.Check.Binary

/-! Bytes are read back from their text in base64, and from the looser forms of that text. -/

namespace Covenant

namespace Base64

theorem digit?_digitChar (h : n < 64) : digit? (digitChar n) = some n := by
  have hall : ∀ k < 64, digit? (digitChar k) = some k := by decide
  exact hall n h

theorem digitChar_ne_pad (h : n < 64) : digitChar n ≠ '=' := by
  intro he
  have hd := digit?_digitChar h
  rw [he] at hd
  cases hd

theorem byteAt_eq {b : UInt8} (h : (n >>> shift) % 256 = b.toNat) : byteAt n shift = b := by
  rw [byteAt, ← UInt8.toNat_inj, UInt8.toNat_ofNat']
  exact h

/-- A whole group is three bytes, behind which only equals signs may end the text. -/
theorem decodeGroups?_cons (ha : digit? a = some w) (hb : digit? b = some x)
    (hc : digit? c = some y) (hd : digit? d = some z) (rest : List Char) :
    decodeGroups? (a :: b :: c :: d :: rest) =
      (if rest.all (· == '=') then some [] else decodeGroups? rest).map fun more =>
        byteAt (((w * 64 + x) * 64 + y) * 64 + z) 16 ::
          byteAt (((w * 64 + x) * 64 + y) * 64 + z) 8 ::
            byteAt (((w * 64 + x) * 64 + y) * 64 + z) 0 :: more := by
  have hpad : d ≠ '=' := by
    rintro rfl
    cases hd
  rw [decodeGroups?.eq_def]
  split
  · rename_i he
    simp only [List.cons.injEq] at he
    exact absurd he.2.2.2.1 hpad
  · rename_i he
    simp only [List.cons.injEq] at he
    exact absurd he.2.2.2.1 hpad
  · rename_i he
    simp only [List.cons.injEq] at he
    obtain ⟨rfl, rfl, rfl, rfl, rfl⟩ := he
    simp only [ha, hb, hc, hd, bind, Option.bind]
    split
    · rfl
    · cases decodeGroups? rest <;> rfl
  · rename_i hne
    exact absurd rfl (hne _ _ _ _ _)

theorem encode_eq_cons (h : bs ≠ []) : ∃ n < 64, ∃ rest, encode bs = digitChar n :: rest := by
  fun_cases encode bs with
  | case1 a b c rest n =>
    refine ⟨n / 262144, ?_, _, rfl⟩
    have := a.toNat_lt
    have := b.toNat_lt
    have := c.toNat_lt
    omega
  | case2 a b n =>
    refine ⟨n / 1024, ?_, _, rfl⟩
    have := a.toNat_lt
    have := b.toNat_lt
    omega
  | case3 a =>
    refine ⟨a.toNat / 4, ?_, _, rfl⟩
    have := a.toNat_lt
    omega
  | case4 => exact absurd rfl h

theorem decodeGroups?_encode (h : bs ≠ []) : decodeGroups? (encode bs) = some bs := by
  fun_induction encode bs with
  | case1 a b c rest n ih =>
    have := a.toNat_lt
    have := b.toNat_lt
    have := c.toNat_lt
    have hmore : (if (encode rest).all (· == '=') then some [] else decodeGroups? (encode rest)) =
        some rest := by
      by_cases hr : rest = []
      · rw [hr]
        rfl
      · obtain ⟨k, hk, more, he⟩ := encode_eq_cons hr
        rw [if_neg, ih hr]
        rw [he, List.all_cons, Bool.and_eq_true, beq_iff_eq]
        exact fun hall => digitChar_ne_pad hk hall.1
    have hn : ((n / 262144 * 64 + n / 4096 % 64) * 64 + n / 64 % 64) * 64 + n % 64 = n := by omega
    rw [decodeGroups?_cons (digit?_digitChar (by omega)) (digit?_digitChar (by omega))
      (digit?_digitChar (by omega)) (digit?_digitChar (by omega)), hmore, hn, Option.map_some,
      byteAt_eq (b := a) (by omega), byteAt_eq (b := b) (by omega), byteAt_eq (b := c) (by omega)]
  | case2 a b n =>
    have := a.toNat_lt
    have := b.toNat_lt
    rw [decodeGroups?, digit?_digitChar (by omega), digit?_digitChar (by omega),
      digit?_digitChar (by omega)]
    have ha : byteAt ((n / 1024 * 64 + n / 16 % 64) * 64 + n % 16 * 4) 10 = a :=
      byteAt_eq (by omega)
    have hb : byteAt ((n / 1024 * 64 + n / 16 % 64) * 64 + n % 16 * 4) 2 = b :=
      byteAt_eq (by omega)
    · show some [byteAt _ 10, byteAt _ 2] = _
      rw [ha, hb]
    · exact digitChar_ne_pad (by omega)
  | case3 a =>
    have := a.toNat_lt
    rw [decodeGroups?, digit?_digitChar (by omega), digit?_digitChar (by omega)]
    have ha : byteAt (a.toNat / 4 * 64 + a.toNat % 4 * 16) 4 = a := byteAt_eq (by omega)
    exact congrArg (fun b => some [b]) ha
  | case4 => exact absurd rfl h

/-- What is written is read back. -/
theorem decode?_encode (bs : List UInt8) : decode? (encode bs) = some bs := by
  by_cases h : bs = []
  · rw [h]
    rfl
  · obtain ⟨n, _, rest, he⟩ := encode_eq_cons h
    rw [decode?, if_neg (by rw [he]; exact Bool.false_ne_true), decodeGroups?_encode h]

/-- A text has whole groups of four characters: digits, and at most two equals signs behind them. -/
theorem exists_digits (bs : List UInt8) : ∃ (ns : List Nat) (k : Nat),
    encode bs = ns.map digitChar ++ List.replicate k '=' ∧ (∀ n ∈ ns, n < 64) ∧
      (ns.length + k) % 4 = 0 ∧ k ≤ 2 := by
  fun_induction encode bs with
  | case1 a b c rest n ih =>
    obtain ⟨ns, k, he, hns, hlen, hk⟩ := ih
    have := a.toNat_lt
    have := b.toNat_lt
    have := c.toNat_lt
    refine ⟨n / 262144 :: n / 4096 % 64 :: n / 64 % 64 :: n % 64 :: ns, k, ?_, ?_, ?_, hk⟩
    · rw [he]
      rfl
    · simp only [List.forall_mem_cons]
      exact ⟨by omega, by omega, by omega, by omega, hns⟩
    · simp only [List.length_cons]
      omega
  | case2 a b n =>
    have := a.toNat_lt
    have := b.toNat_lt
    refine ⟨[n / 1024, n / 16 % 64, n % 16 * 4], 1, rfl, ?_, Nat.mod_self 4, by decide⟩
    simp only [List.forall_mem_cons]
    exact ⟨by omega, by omega, by omega, by simp⟩
  | case3 a =>
    have := a.toNat_lt
    refine ⟨[a.toNat / 4, a.toNat % 4 * 16], 2, rfl, ?_, Nat.mod_self 4, Nat.le_refl 2⟩
    simp only [List.forall_mem_cons]
    exact ⟨by omega, by omega, by simp⟩
  | case4 => exact ⟨[], 0, rfl, by simp, rfl, by decide⟩

end Base64
end Covenant
