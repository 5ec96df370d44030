import Covenant.Digest.Algorithm
import Covenant.Proofs.Check.Alphabet
import Covenant.Proofs.Text

/-! A digest has as many bytes as its algorithm says, whatever the data, and one that is let through
belongs to the algorithm it is said to be of. -/

namespace Covenant.Digest

theorem length_littleBytes (count n : Nat) : (littleBytes count n).length = count := by
  rw [littleBytes, List.length_map, List.length_range]

theorem length_bigBytes (count n : Nat) : (bigBytes count n).length = count := by
  rw [bigBytes, List.length_reverse, length_littleBytes]

/-- What a fold starts from and every step preserves. -/
theorem foldl_preserves {f : β → α → β} {P : β → Prop} (hf : ∀ b a, P b → P (f b a)) (hb : P b)
    (as : List α) : P (as.foldl f b) :=
  List.foldlRecOn as f hb fun b hb a _ => hf b a hb

namespace Sha2

variable {family : Family w}

theorem sixteen_le_length_primes : 16 ≤ primes.length := by
  have hs : ((List.range 60).filter isPrime).Sublist primes :=
    (List.range_sublist.mpr (by decide)).filter isPrime
  exact Nat.le_trans (by decide) hs.length_le

theorem length_rootState (h : first ≤ 8) (w : Nat) : (rootState w first).length = 8 := by
  have hp := sixteen_le_length_primes
  rw [rootState, List.length_map, List.length_take, List.length_drop]
  omega

theorem length_compress (h : xs.length = 8) (block : List UInt8) :
    (compress family xs block).length = 8 := by
  rw [compress, List.length_map, List.length_zip, h]
  rfl

theorem length_digest (hi : initial.length = 8) (hs : size ≤ w / 8 * 8) (data : List UInt8) :
    (digest family initial size data).length = size := by
  have hstate := foldl_preserves (f := compress family) (P := fun xs => xs.length = 8)
    (fun xs block h => length_compress h block) hi
  rw [digest, List.length_take, length_flatMap_of_forall fun word _ => length_bigBytes _ _, hstate,
    Nat.min_eq_left hs]

end Sha2

namespace Sha3

theorem size_build (f : Nat → Nat → BitVec 64) : (build f).size = 25 := by
  rw [build, List.size_toArray, List.length_map, List.length_range]

theorem size_permute (h : s.size = 25) : (permute s).size = 25 := by
  apply foldl_preserves (P := fun s : State => s.size = 25) ?_ h
  intro s i _
  rw [round, Array.size_setIfInBounds, chi, size_build]

theorem length_digest (h : size ≤ 200) (data : List UInt8) :
    (digest size data).length = size := by
  have hstate := foldl_preserves (f := absorb) (P := fun s : State => s.size = 25)
    (fun _ _ _ => size_permute (size_build _)) (Array.size_replicate (n := 25) (v := 0))
  rw [digest, List.length_take, length_flatMap_of_forall fun word _ => length_littleBytes _ _,
    Array.length_toList, hstate, Nat.min_eq_left h]

end Sha3

namespace Blake2

variable {family : Family w}

theorem length_compress (chain : List (BitVec w)) (block : List UInt8) (count : Nat)
    (final : Bool) : (compress family chain block count final).length = chain.length := by
  rw [compress, List.length_map, List.length_zipIdx]

theorem length_compressAll (parts : List (List UInt8)) (count : Nat) (chain : List (BitVec w)) :
    (compressAll family parts count chain).length = chain.length := by
  fun_induction compressAll family parts count chain with
  | case1 => rfl
  | case2 => exact length_compress _ _ _ true
  | case3 _ _ _ _ _ _ ih => rw [ih, length_compress]

theorem length_digest (data : List UInt8) :
    (digest family data).length = w / 8 * 8 := by
  rw [digest, length_flatMap_of_forall fun word _ => length_littleBytes _ _, length_compressAll]
  have h := Sha2.length_rootState (Nat.zero_le 8) w
  cases hr : Sha2.rootState w 0 with
  | nil =>
    rw [hr] at h
    cases h
  | cons x xs =>
    rw [hr] at h
    exact congrArg (w / 8 * ·) h

end Blake2

theorem Md5.length_digest (data : List UInt8) : (digest data).length = 16 :=
  length_flatMap_of_forall fun _ _ => length_littleBytes 4 _

theorem Sha1.length_digest (data : List UInt8) : (digest data).length = 20 :=
  length_flatMap_of_forall fun _ _ => length_bigBytes 4 _

namespace Algorithm

theorem length_digest (a : Algorithm) (data : List UInt8) : (a.digest data).length = a.size := by
  have h224 : ((Sha2.rootState 64 8).map fun x => x.truncate 32).length = 8 := by
    rw [List.length_map]
    exact Sha2.length_rootState (by decide) 64
  cases a with
  | md5 => exact Md5.length_digest data
  | sha1 => exact Sha1.length_digest data
  | sha224 => exact Sha2.length_digest h224 (by decide) data
  | sha256 => exact Sha2.length_digest (Sha2.length_rootState (by decide) 32) (by decide) data
  | sha384 => exact Sha2.length_digest (Sha2.length_rootState (by decide) 64) (by decide) data
  | sha512 => exact Sha2.length_digest (Sha2.length_rootState (by decide) 64) (by decide) data
  | sha3_224 => exact Sha3.length_digest (by decide) data
  | sha3_256 => exact Sha3.length_digest (by decide) data
  | sha3_384 => exact Sha3.length_digest (by decide) data
  | sha3_512 => exact Sha3.length_digest (by decide) data
  | blake2b => exact Blake2.length_digest data
  | blake2s => exact Blake2.length_digest data
  | crc32 => exact length_bigBytes 4 _

theorem length_hexDigest (a : Algorithm) (data : List UInt8) :
    (a.hexDigest data).length = 2 * a.size := by
  rw [hexDigest, length_flatMap_of_forall fun b _ => length_hexDigits 2 _, length_digest]

end Algorithm
end Covenant.Digest

namespace Covenant

open Digest (Algorithm)

theorem Digest.Algorithm.isLowerHex_of_mem_hexDigest {a : Algorithm} (h : c ∈ a.hexDigest data) :
    isLowerHex c := by
  obtain ⟨b, _, hc⟩ := List.mem_flatMap.mp h
  obtain ⟨d, hd, rfl⟩ := eq_hexOf_of_mem hc
  exact isLowerHex_hexOf d hd

namespace Check

namespace Hash

/-- A text is a digest by an algorithm that was chosen. A source that is not false has to have it;
else the algorithm is the first with digests as long. -/
structure IsDigest (choices : List Choice) (source : Value) (cs : List Char) (choice : Choice) :
    Prop where
  hex : source.isTrue ∨ cs.getLast? ≠ some '\n' → ∀ c ∈ cs, isHexDigit c
  length : ∀ data, cs.length = (choice.algorithm.hexDigest data).length
  first : ∃ before after, choices = before ++ choice :: after ∧ (source.isTrue = false →
    ∀ other ∈ before, other.algorithm.size ≠ choice.algorithm.size)
  ofSource : source.isTrue → ∃ text, source.toText = .ok text ∧
    cs.map lowerAscii = choice.algorithm.hexDigest (Utf8.encode text.toList)

theorem choose_name (h : choose s = .ok choice) : choice.name = s := by
  rw [choose] at h
  split at h
  · cases h
    rfl
  · split at h
    · cases h
    · cases h

theorem chooseAll_eq_ok (h : chooseAll names = .ok choices) :
    names = choices.map (fun choice => .text choice.name) ∧
      ∀ choice ∈ choices, choose choice.name = .ok choice := by
  induction names generalizing choices with
  | nil =>
    cases h
    exact ⟨rfl, by simp⟩
  | cons name names ih =>
    cases name with
    | text s =>
      obtain ⟨choice, hc, h⟩ := bind_eq_ok.mp h
      obtain ⟨rest, hr, h⟩ := bind_eq_ok.mp h
      cases h
      obtain ⟨rfl, hrest⟩ := ih hr
      obtain rfl := choose_name hc
      refine ⟨rfl, ?_⟩
      intro other hm
      rcases List.mem_cons.mp hm with rfl | hm
      · exact hc
      · exact hrest other hm
    | _ => cases h

theorem all_hex_of_isHex (h : isHex cs) (hf : cs.getLast? ≠ some '\n') :
    ∀ c ∈ cs, isHexDigit c := by
  rw [isHex, withoutLineFeed_of_ne hf, Bool.and_eq_true, List.all_eq_true] at h
  exact h.2

theorem isDigest_of_find? (hx : isHex cs) (hs : sourceBytes source = .ok bytes)
    (h : find? choices bytes cs = some choice) : IsDigest choices source cs choice := by
  rw [find?, List.find?_eq_some_iff_append, Bool.and_eq_true, beq_iff_eq] at h
  obtain ⟨⟨hl, hb⟩, before, after, hsplit, hbefore⟩ := h
  have hsource : source.isTrue → ∃ text, source.toText = .ok text ∧
      cs.map lowerAscii = choice.algorithm.hexDigest (Utf8.encode text.toList) := by
    intro ht
    rw [sourceBytes, if_pos ht] at hs
    obtain ⟨text, htext, hs⟩ := bind_eq_ok.mp hs
    cases hs
    exact ⟨text, htext, (beq_iff_eq.mp hb).symm⟩
  refine ⟨?_, ?_, ⟨before, after, hsplit, ?_⟩, hsource⟩
  · rintro (ht | hf)
    · obtain ⟨text, _, hmap⟩ := hsource ht
      intro c hc
      apply isHexDigit_of_lowerAscii
      have hm : lowerAscii c ∈ cs.map lowerAscii := List.mem_map_of_mem hc
      rw [hmap] at hm
      exact Algorithm.isLowerHex_of_mem_hexDigest hm
    · exact all_hex_of_isHex hx hf
  · intro data
    rw [hl, Algorithm.length_hexDigest]
  · intro ht other hm he
    rw [sourceBytes, if_neg (by rw [ht]; decide)] at hs
    cases hs
    have hno := hbefore other hm
    rw [Option.all_none, Bool.and_true, he, hl, beq_self_eq_true] at hno
    cases hno

end Hash

theorem hash_eq_ok (h : hash mode params data = .ok r) : ∃ choices s choice,
    params.list "algo" = .ok (some (choices.map fun choice => .text choice.name)) ∧
      (∀ choice ∈ choices, Hash.choose choice.name = .ok choice) ∧ data = .text s ∧
      r = ⟨.text s, .text choice.name⟩ ∧
      Hash.IsDigest choices (params.get "source") s.toList choice := by
  rw [hash] at h
  obtain ⟨names?, hn, h⟩ := bind_eq_ok.mp h
  obtain ⟨_, hreq, h⟩ := bind_eq_ok.mp h
  obtain ⟨choices, hc, hdata⟩ := bind_eq_ok.mp h
  have hn := lift_eq_ok.mp hn
  obtain ⟨hnames, hchoose⟩ := Hash.chooseAll_eq_ok (lift_eq_ok.mp hc)
  cases names? with
  | none => cases hreq
  | some names =>
    have hnames : names = choices.map fun choice => .text choice.name := hnames
    rw [hnames] at hn
    cases data with
    | text s =>
      dsimp only at hdata
      rw [ite_refuse_eq_ok] at hdata
      obtain ⟨hx, hdata⟩ := hdata
      rw [Bool.not_eq_true', Bool.not_eq_false] at hx
      split at hdata
      · obtain ⟨bytes, hs, hdata⟩ := bind_eq_ok.mp hdata
        split at hdata
        · rename_i choice hf
          cases hdata
          exact ⟨choices, s, choice, hn, hchoose, rfl, rfl,
            Hash.isDigest_of_find? hx (lift_eq_ok.mp hs) hf⟩
        · cases hdata
      · cases hdata
    | _ => cases hdata

end Check

namespace Kind

variable {inner : Check.Delegate} {params : Params} {data : Value}

/-- Data that is let through for a digest is a text of hexadecimal digits, as many as the digests of
the algorithm have that it is said to be by. Only when there is no source, one line feed at its end
may stand for a digit. -/
theorem validate_digest (hd : params.get "default" = .null)
    (h : hash.validate inner mode params data = .ok r) : ∃ choices s choice,
    params.list "algo" = .ok (some (choices.map fun choice => .text choice.name)) ∧
      (∀ choice ∈ choices, Check.Hash.choose choice.name = .ok choice) ∧ data = .text s ∧
      r = ⟨.text s, .text choice.name⟩ ∧
      Check.Hash.IsDigest choices (params.get "source") s.toList choice := by
  rw [validate_without_default hd, Check.settle_eq_ok] at h
  exact @Check.hash_eq_ok mode params data r h

def checksum : Params := [("algo", .text "crc32"), ("source", .text "hello")]

set_option maxRecDepth 10000 in
theorem validate_checksum :
    hash.validate Check.noParts ⟨false, false⟩ checksum (.text "3610A686") =
        .ok ⟨.text "3610A686", .text "crc32"⟩ ∧
      "3610A686".toList.map lowerAscii =
        Algorithm.crc32.hexDigest (Utf8.encode "hello".toList) := by
  have h : hash.validate Check.noParts ⟨false, false⟩ checksum (.text "3610A686") =
      .ok ⟨.text "3610A686", .text "crc32"⟩ := by
    rfl
  obtain ⟨choices, s, choice, _, hchoose, hs, hr, hdigest⟩ := validate_digest rfl h
  obtain ⟨before, after, rfl, _⟩ := hdigest.first
  have hc := hchoose choice (by simp)
  obtain rfl : "3610A686" = s := Value.text.inj hs
  have hname : "crc32" = choice.name := Value.text.inj (congrArg Result.output hr)
  rw [← hname] at hc
  obtain rfl : ⟨"crc32", .crc32⟩ = choice := Except.ok.inj hc
  obtain ⟨text, ht, hmap⟩ := hdigest.ofSource rfl
  obtain rfl : "hello" = text := Except.ok.inj ht
  exact ⟨h, hmap⟩

/-- Seven digits and a line feed pass for the eight digits of a checksum. -/
theorem validate_checksum_line :
    Filter.initial.validate (.text "1234567\n")
        (.map [(.text "type", .text "hash"), (.text "algo", .text "crc32")]) none =
      .ok ⟨.text "1234567\n", .text "crc32"⟩ ∧ isHexDigit '\n' = false := by
  exact ⟨by rfl, by rfl⟩

end Kind
end Covenant
