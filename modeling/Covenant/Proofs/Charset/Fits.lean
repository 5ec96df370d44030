import Covenant.Proofs.Charset.Length
import Covenant.Proofs.Decimal.Script

/-! A text is in a charset once what the charset lacks is replaced in it. -/

namespace Covenant

/-- The table that the characters of a text make. -/
def CodeMap.ofChars (cs : List Char) : CodeMap :=
  ⟨(((splitWhere (fun c => c == ' ' || c == '\n') cs).filter (!·.isEmpty)).map
    CodeMap.readRange).toArray⟩

/-- Whether a table has the character that replaces all others. -/
def CodeMap.HasMark (codes : CodeMap) : Prop := (codes.get? '?'.toNat).isSome

namespace Charset

theorem hasMark_read {s : String} {cs : List Char} (hs : s = String.ofList cs)
    (h : ((CodeMap.ofChars cs).get? '?'.toNat).isSome) : (CodeMap.read s).HasMark := by
  rw [hs, CodeMap.read_ofList]
  exact h

-- The tables are read from lists of characters, which the unification with each text gives: to take
-- the text itself apart, the kernel would have to decode it.
set_option maxRecDepth 10000 in
theorem hasMark_singleByteTexts : ∀ e ∈ singleByteTexts, (CodeMap.read e.2).HasMark := by
  simp only [singleByteTexts, List.forall_mem_cons]
  repeat' apply And.intro
  all_goals first
    | exact hasMark_read rfl (by decide +kernel)
    | exact nofun

theorem hasMark_of_singleByte? (h : singleByte? name = some codes) : codes.HasMark := by
  obtain ⟨e, he, rfl⟩ := Option.map_eq_some_iff.mp h
  exact hasMark_singleByteTexts e (List.mem_of_find?_eq_some he)

end Charset

namespace Multibyte

variable (set : Multibyte)

theorem isSome_bytes?_of_ascii (h : c.toNat < 0x80) : (set.bytes? c).isSome := by
  have hj : japaneseByte? c = some (byte c.toNat) := if_pos h
  cases set with
  | shiftJis =>
    rw [bytes?, hj]
    rfl
  | eucJp =>
    rw [bytes?, hj]
    rfl
  | big5 =>
    rw [bytes?, if_pos h]
    rfl
  | gb18030 =>
    rw [bytes?, if_pos h]
    rfl

/-- A character is read back as itself or as one of ASCII. -/
theorem reread_eq (c : Char) : set.reread c = c ∨ (set.reread c).toNat < 0x80 := by
  have ha : (aliased? c).getD c = c ∨ ((aliased? c).getD c).toNat < 0x80 := by
    rw [aliased?]
    split_ifs
    · exact .inr (by decide : '\\'.toNat < 0x80)
    · exact .inr (by decide : '~'.toNat < 0x80)
    · exact .inl rfl
  cases set with
  | shiftJis => exact ha
  | eucJp => exact ha
  | big5 => exact .inl rfl
  | gb18030 => exact .inl rfl

theorem isSome_bytes?_reread (h : (set.bytes? c).isSome) : (set.bytes? (set.reread c)).isSome := by
  rcases set.reread_eq c with he | hlt
  · rwa [he]
  · exact set.isSome_bytes?_of_ascii hlt

end Multibyte

namespace Codec

theorem hasMark_of_named (h : named name = .table codes) : codes.HasMark := by
  unfold named at h
  split at h
  case h_13 =>
    cases hs : Charset.singleByte? name with
    | none =>
      rw [hs] at h
      cases h
    | some codes' =>
      rw [hs] at h
      cases h
      exact Charset.hasMark_of_singleByte? hs
  all_goals cases h

theorem length_replaceMissing (codec : Codec) (cs : List Char) :
    (codec.replaceMissing cs).length = cs.length := by
  cases codec with
  | table codes => exact List.length_map _
  | multibyte set => exact List.length_map _
  | _ => rfl

/-- A charset has what it lacks replaced by. -/
theorem fits_replaceMissing (h : (named name).fits cs = .ok fit) :
    (named name).fits ((named name).replaceMissing cs) = .ok true := by
  cases hn : named name with
  | table codes =>
    have hmark : codes.HasMark := hasMark_of_named hn
    rw [replaceMissing, fits, List.all_map, Except.ok.injEq, List.all_eq_true]
    intro c _
    dsimp only [Function.comp]
    split
    · assumption
    · exact hmark
  | multibyte set =>
    rw [replaceMissing, fits, List.all_map, Except.ok.injEq, List.all_eq_true]
    intro c _
    dsimp only [Function.comp]
    split
    · rename_i hc
      exact set.isSome_bytes?_reread hc
    · exact set.isSome_bytes?_of_ascii (by decide)
  | notText =>
    rw [hn] at h
    cases h
  | _ => rfl

end Codec
end Covenant
