import Covenant.Charset.Codec
import Covenant.Proofs.Text
import Covenant.Sniff
import Mathlib.Tactic.SplitIfs

/-! How many characters a buffer holds, and how many bytes are written for them. -/

namespace Covenant

namespace Utf8

theorem length_encodeChar_le (c : Char) : (encodeChar c).length ≤ 4 := by
  unfold encodeChar
  dsimp only
  split_ifs <;> simp

theorem length_encode_le (cs : List Char) : (encode cs).length ≤ 4 * cs.length :=
  length_flatMap_le fun c _ => length_encodeChar_le c

/-- The last step of reading a character: the rest of the buffer is read behind it. -/
theorem eq_cons_of_charFrom?
    (h : (do return (← charFrom? least n) :: (← decode? rest)) = some cs) :
    ∃ c tail, cs = c :: tail ∧ decode? rest = some tail := by
  obtain ⟨c, _, h⟩ := Option.bind_eq_some_iff.mp h
  obtain ⟨tail, ht, h⟩ := Option.bind_eq_some_iff.mp h
  exact ⟨c, tail, (Option.some.inj h).symm, ht⟩

/-- A buffer has at least one byte for each character. -/
theorem length_decode?_le (h : decode? bs = some cs) : cs.length ≤ bs.length := by
  fun_induction decode? bs generalizing cs with
  | case1 =>
    cases h
    exact Nat.le_refl 0
  | case2 a rest _ ih =>
    obtain ⟨tail, ht, h⟩ := Option.bind_eq_some_iff.mp h
    cases h
    exact Nat.succ_le_succ (ih ht)
  | case4 a _ _ _ b rest ih =>
    obtain ⟨_, _, h⟩ := Option.bind_eq_some_iff.mp h
    obtain ⟨c, tail, rfl, ht⟩ := eq_cons_of_charFrom? h
    have := ih ht
    simp only [List.length_cons]
    omega
  | case6 a _ _ _ _ b c rest ih =>
    obtain ⟨_, _, h⟩ := Option.bind_eq_some_iff.mp h
    obtain ⟨_, _, h⟩ := Option.bind_eq_some_iff.mp h
    obtain ⟨c, tail, rfl, ht⟩ := eq_cons_of_charFrom? h
    have := ih ht
    simp only [List.length_cons]
    omega
  | case8 a _ _ _ _ _ b c d rest ih =>
    obtain ⟨_, _, h⟩ := Option.bind_eq_some_iff.mp h
    obtain ⟨_, _, h⟩ := Option.bind_eq_some_iff.mp h
    obtain ⟨_, _, h⟩ := Option.bind_eq_some_iff.mp h
    obtain ⟨c, tail, rfl, ht⟩ := eq_cons_of_charFrom? h
    have := ih ht
    simp only [List.length_cons]
    omega
  | _ => cases h

/-- The characters of ASCII bytes. -/
def asciiChars (bs : List UInt8) : List Char := bs.map fun b => Char.ofNat b.toNat

theorem decode?_of_ascii (h : ∀ b ∈ bs, b.toNat < 128) : decode? bs = some (asciiChars bs) := by
  induction bs with
  | nil => rfl
  | cons b bs ih =>
    obtain ⟨hb, h⟩ := List.forall_mem_cons.mp h
    rw [decode?.eq_def]
    dsimp only
    rw [if_pos hb, ih h]
    rfl

theorem encode_asciiChars (h : ∀ b ∈ bs, b.toNat < 128) : encode (asciiChars bs) = bs := by
  induction bs with
  | nil => rfl
  | cons b bs ih =>
    obtain ⟨hb, h⟩ := List.forall_mem_cons.mp h
    have hv : b.toNat.isValidChar := .inl (by omega)
    have hn : (Char.ofNat b.toNat).toNat = b.toNat := by
      rw [Char.ofNat, dif_pos hv]
      rfl
    have hchar : encodeChar (Char.ofNat b.toNat) = [b] := by
      rw [encodeChar]
      simp [hn, hb, byte]
    rw [asciiChars, List.map_cons, encode, List.flatMap_cons, hchar]
    exact congrArg (b :: ·) (ih h)

end Utf8

namespace Utf16

theorem length_units? (h : units? order bs = some us) : bs.length = 2 * us.length := by
  fun_induction units? order bs generalizing us with
  | case1 =>
    cases h
    rfl
  | case2 a b rest ih =>
    obtain ⟨vs, hv, rfl⟩ := Option.map_eq_some_iff.mp h
    simp only [List.length_cons, ih hv]
    omega
  | case3 => cases h

theorem length_join?_le (h : join? us = some cs) : cs.length ≤ us.length := by
  fun_induction join? us generalizing cs with
  | case1 =>
    cases h
    exact Nat.le_refl 0
  | case2 n =>
    obtain ⟨c, _, rfl⟩ := Option.map_eq_some_iff.mp h
    exact Nat.le_refl 1
  | case3 n m rest _ _ ih =>
    obtain ⟨tail, ht, rfl⟩ := Option.map_eq_some_iff.mp h
    have := ih ht
    simp only [List.length_cons]
    omega
  | case4 => cases h
  | case5 n m rest _ ih =>
    obtain ⟨c, _, h⟩ := Option.bind_eq_some_iff.mp h
    obtain ⟨tail, ht, h⟩ := Option.bind_eq_some_iff.mp h
    cases h
    exact Nat.succ_le_succ (ih ht)

theorem length_decodeMarked?_le (h : decodeMarked? bs = some cs) : cs.length ≤ bs.length := by
  have hread {rest : List UInt8} {order : ByteOrder}
      (h : (units? order rest).bind join? = some cs) : cs.length ≤ rest.length := by
    obtain ⟨us, hu, hj⟩ := Option.bind_eq_some_iff.mp h
    have := length_units? hu
    have := length_join?_le hj
    omega
  unfold decodeMarked? at h
  split at h
  · exact (hread h).trans (Nat.le_add_right _ 2)
  · exact (hread h).trans (Nat.le_add_right _ 2)
  · cases h

theorem length_encodeChar_le (order : ByteOrder) (c : Char) :
    (encodeChar order c).length ≤ 4 := by
  unfold encodeChar
  dsimp only
  split
  · cases order <;> simp [ByteOrder.write2]
  · cases order <;> simp [ByteOrder.write2]

end Utf16

namespace Utf32

theorem length_decode?_le (h : decode? order bs = some cs) : cs.length ≤ bs.length := by
  fun_induction decode? order bs generalizing cs with
  | case1 =>
    cases h
    exact Nat.le_refl 0
  | case2 a b c d rest code =>
    rename_i ih
    obtain ⟨_, _, h⟩ := Option.bind_eq_some_iff.mp h
    obtain ⟨tail, ht, h⟩ := Option.bind_eq_some_iff.mp h
    cases h
    have := ih ht
    simp only [List.length_cons]
    omega
  | case3 => cases h

theorem length_decodeMarked?_le (h : decodeMarked? bs = some cs) : cs.length ≤ bs.length := by
  unfold decodeMarked? at h
  split at h
  · exact (length_decode?_le h).trans (Nat.le_add_right _ 4)
  · exact (length_decode?_le h).trans (Nat.le_add_right _ 4)
  · cases h

end Utf32

namespace Sniff

theorem length_getD_le {cs? : Option (List Char)} (h : ∀ cs, cs? = some cs → cs.length ≤ n) :
    (cs?.getD []).length ≤ n := by
  cases cs? with
  | none => exact Nat.zero_le n
  | some cs => exact h cs rfl

/-- A buffer has at least one byte for each character that is read from it. -/
theorem length_text_le (charset : String) (data : List UInt8) :
    (text charset data).length ≤ data.length := by
  unfold text
  split
  · exact length_getD_le fun _ => Utf32.length_decodeMarked?_le
  · exact length_getD_le fun _ => Utf16.length_decodeMarked?_le
  · exact length_getD_le fun _ => Utf8.length_decode?_le

theorem text_of_ascii (h : ∀ b ∈ data, b.toNat < 128) :
    text "ascii" data = Utf8.asciiChars data := by
  have ht : text "ascii" data = (Utf8.decode? data).getD [] := rfl
  rw [ht, Utf8.decode?_of_ascii h, Option.getD_some]

end Sniff

namespace Multibyte

/-- A character has one to four bytes. -/
theorem length_bytes?_le {set : Multibyte} (h : set.bytes? c = some bs) : bs.length ≤ 4 := by
  have hmap {i? : Option Nat} {f : Nat → List UInt8} (hf : ∀ i, (f i).length ≤ 4)
      (h : i?.map f = some bs) : bs.length ≤ 4 := by
    obtain ⟨i, _, rfl⟩ := Option.map_eq_some_iff.mp h
    exact hf i
  cases set with
  | shiftJis =>
    rw [bytes?] at h
    split at h
    · cases h
      simp
    · split at h
      · cases h
        simp
      · exact hmap (fun i => by simp [shiftedBytes]) h
  | eucJp =>
    rw [bytes?] at h
    split at h
    · cases h
      simp
    · split at h
      · cases h
        simp
      · split at h
        · cases h
          simp [rowBytes]
        · exact hmap (fun i => by simp [rowBytes]) h
  | big5 =>
    rw [bytes?] at h
    split at h
    · cases h
      simp
    · exact hmap (fun i => by simp [big5Bytes]) h
  | gb18030 =>
    rw [bytes?] at h
    split at h
    · cases h
      simp
    · split at h
      · cases h
        simp
      · cases h
        simp [fourBytes]

end Multibyte

namespace Codec

/-- A charset with a table writes no more bytes than there are characters. -/
theorem length_encode_table_le (h : (Codec.table codes).encode cs = .ok bs) :
    bs.length ≤ cs.length := by
  cases h
  exact (List.length_filterMap_le _ _).trans_eq (List.length_map _)

/-- No charset writes more than four bytes for a character, and four for a mark. -/
theorem length_encode_le {codec : Codec} (h : codec.encode cs = .ok bs) :
    bs.length ≤ 4 * cs.length + 4 := by
  cases codec with
  | utf8 marked =>
    cases h
    have := Utf8.length_encode_le cs
    have hmark : (if marked then Utf8.encode ['\uFEFF'] else []).length ≤ 4 := by
      cases marked <;> decide
    rw [List.length_append]
    omega
  | utf16 marked order =>
    cases h
    have : (Utf16.encode order cs).length ≤ 4 * cs.length :=
      length_flatMap_le fun c _ => Utf16.length_encodeChar_le order c
    have hmark : (if marked then order.write2 markCode else []).length ≤ 4 := by
      cases marked <;> cases order <;> decide
    rw [List.length_append]
    omega
  | utf32 marked order =>
    cases h
    have : (Utf32.encode order cs).length ≤ 4 * cs.length :=
      length_flatMap_le fun c _ => by cases order <;> exact Nat.le_refl 4
    have hmark : (if marked then order.write4 markCode else []).length ≤ 4 := by
      cases marked <;> cases order <;> decide
    rw [List.length_append]
    omega
  | table codes =>
    have := length_encode_table_le h
    omega
  | multibyte set =>
    cases h
    have : (cs.flatMap fun c => (set.bytes? c).getD [byte '?'.toNat]).length ≤ 4 * cs.length :=
      length_flatMap_le fun c _ => by
        cases hb : set.bytes? c with
        | none => exact Nat.le_of_ble_eq_true rfl
        | some bs => exact Multibyte.length_bytes?_le hb
    omega
  | notText => cases h

end Codec
end Covenant
