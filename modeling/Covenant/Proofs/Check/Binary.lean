import Covenant.Proofs.Charset.Length
import Covenant.Proofs.Check.Count

/-! The length of a buffer before and after it is written in another charset, and the charsets that
a buffer in UTF-8 is taken for. -/

namespace Covenant

namespace Sniff

theorem guess_of_shows {data : List UInt8} (h : magics.find? (·.shows data) = none) :
    guess data =
      match charset? data with
      | some charset => ⟨"text/plain", charset⟩
      | none => ⟨"application/octet-stream", binary⟩ := by
  cases hc : charset? data with
  | some charset => rw [guess, h, hc]
  | none => rw [guess, h, hc]

theorem charset?_of_ascii {data : List UInt8} (h : ∀ b ∈ data, b.toNat < 128) :
    charset? data = some "ascii" :=
  if_pos (List.all_eq_true.mpr fun b hb => decide_eq_true (h b hb))

/-- ASCII is tried before UTF-8. -/
theorem charset?_of_utf8 {data : List UInt8} (h : (Utf8.decode? data).isSome) :
    charset? data = some (if ∃ b ∈ data, 128 ≤ b.toNat then "utf-8" else "ascii") := by
  split
  · rename_i hb
    obtain ⟨b, hb, hn⟩ := hb
    have hall : ¬data.all (·.toNat < 128) = true := fun hall =>
      absurd (of_decide_eq_true (List.all_eq_true.mp hall b hb)) (Nat.not_lt.mpr hn)
    rw [charset?, if_neg hall, if_pos h]
  · rename_i hb
    exact charset?_of_ascii fun b h => Nat.lt_of_not_le fun hn => hb ⟨b, h, hn⟩

theorem guess_of_utf8 {data : List UInt8} (hm : magics.find? (·.shows data) = none)
    (h : (Utf8.decode? data).isSome) :
    guess data = ⟨"text/plain", if ∃ b ∈ data, 128 ≤ b.toNat then "utf-8" else "ascii"⟩ := by
  rw [guess_of_shows hm, charset?_of_utf8 h]

/-- A buffer of ASCII is ASCII, or binary if it begins like a known format. -/
theorem charset_guess_of_ascii {data : List UInt8} (h : ∀ b ∈ data, b.toNat < 128) :
    (guess data).charset = binary ∨ (guess data).charset = "ascii" := by
  cases hm : magics.find? (·.shows data) with
  | some magic =>
    rw [guess, hm]
    exact .inl rfl
  | none =>
    rw [guess_of_shows hm, charset?_of_ascii h]
    exact .inr rfl

end Sniff

namespace Charset

theorem canonicalName_examples : canonicalName "utf8" = .ok "utf-8" ∧
    canonicalName "utf-16le" = .ok "utf-16-le" ∧ canonicalName "latin1" = .ok "iso8859-1" :=
  ⟨by decide +kernel, by decide +kernel, by decide +kernel⟩

end Charset

namespace Check

/-- How a buffer is let through, and in which charset: as it is, or, loosely, written anew in the
first of the charsets that are asked for. -/
inductive InCharset (mode : Mode) (names : List String) (kept : List UInt8) :
    List UInt8 → String → Prop
  | same (h : names = [] ∨ (Sniff.guess kept).charset = Sniff.binary ∨
        (Sniff.guess kept).charset ∈ names) :
      InCharset mode names kept kept (Sniff.guess kept).charset
  | anew (hm : mode.strict = false) (hn : names.head? = some name)
      (hb : (Sniff.guess kept).charset ≠ Sniff.binary) (hc : (Sniff.guess kept).charset ∉ names)
      (he : (Codec.named name).encode (Sniff.text (Sniff.guess kept).charset kept) = .ok out) :
      InCharset mode names kept out name

variable {mode : Mode} {params : Params} {data : Value} {names : List String}
  {kept out : List UInt8} {charset : String}

/-- What is said of text that is in none of the charsets of a list. -/
def mismatch (list charset : String) : String :=
  "Data doesn't respect contract (charset mismatch: expected one of [" ++ list ++ "], got '" ++
    charset ++ "')."

theorem inCharset_of_mem (mode : Mode) (charsets : List Value)
    (h : (Sniff.guess kept).charset ∈ names) :
    inCharset mode charsets names (Sniff.guess kept) kept =
      .ok (kept, (Sniff.guess kept).charset) := by
  cases names with
  | nil => rfl
  | cons name names =>
    have hc : ((Sniff.guess kept).charset == Sniff.binary ||
        (name :: names).contains (Sniff.guess kept).charset) = true := by
      rw [Bool.or_eq_true, List.contains_iff_mem]
      exact .inr h
    rw [inCharset, if_pos hc]
    rfl

theorem inCharset_of_notMem (charsets : List Value) (hn : names ≠ [])
    (hb : (Sniff.guess kept).charset ≠ Sniff.binary) (hc : (Sniff.guess kept).charset ∉ names)
    (inline : Bool) :
    inCharset ⟨true, inline⟩ charsets names (Sniff.guess kept) kept =
      liftM (charsetList charsets) >>= fun list =>
        refuse (mismatch list (Sniff.guess kept).charset) := by
  obtain ⟨name, names, rfl⟩ := List.exists_cons_of_ne_nil hn
  have hc : ((Sniff.guess kept).charset == Sniff.binary ||
      (name :: names).contains (Sniff.guess kept).charset) ≠ true := by
    rw [ne_eq, Bool.or_eq_true, beq_iff_eq, List.contains_iff_mem]
    exact not_or.mpr ⟨hb, hc⟩
  rw [inCharset, if_neg hc]
  rfl

theorem inCharset_eq_ok
    (h : inCharset mode charsets names (Sniff.guess kept) kept = .ok (out, charset)) :
    InCharset mode names kept out charset := by
  cases names with
  | nil =>
    cases h
    exact .same (.inl rfl)
  | cons name names =>
    rw [inCharset] at h
    split at h
    · rename_i hc
      cases h
      rw [Bool.or_eq_true, beq_iff_eq, List.contains_iff_mem] at hc
      exact .same (.inr hc)
    · rename_i hc
      rw [Bool.or_eq_true, beq_iff_eq, List.contains_iff_mem, not_or] at hc
      split at h
      · obtain ⟨_, _, h⟩ := bind_eq_ok.mp h
        cases h
      · rename_i hm
        obtain ⟨bs, he, h⟩ := bind_eq_ok.mp h
        cases h
        exact .anew (Bool.eq_false_iff.mpr hm) rfl hc.1 hc.2 (lift_eq_ok.mp he)

namespace InCharset

theorem eq_of_strict (h : InCharset mode names kept out charset) (hm : mode.strict = true) :
    out = kept := by
  cases h with
  | same => rfl
  | anew ho => rw [hm] at ho; cases ho

theorem length_le (h : InCharset mode names kept out charset) :
    out.length ≤ 4 * kept.length + 4 := by
  cases h with
  | same => omega
  | anew _ _ _ _ he =>
    have := Codec.length_encode_le he
    have := Sniff.length_text_le (Sniff.guess kept).charset kept
    omega

/-- A charset of single bytes does not make a buffer longer. -/
theorem length_table_le (h : InCharset mode names kept out charset)
    (ht : Codec.named charset = .table codes) : out.length ≤ kept.length := by
  cases h with
  | same => exact Nat.le_refl _
  | anew _ _ _ _ he =>
    rw [ht] at he
    exact (Codec.length_encode_table_le he).trans (Sniff.length_text_le _ kept)

/-- ASCII is the same in UTF-8. -/
theorem eq_of_ascii (h : InCharset mode names kept out "utf-8") (ha : ∀ b ∈ kept, b.toNat < 128) :
    out = kept := by
  generalize hu : "utf-8" = charset at h
  cases h with
  | same => rfl
  | anew _ _ hb _ he =>
    rw [← hu, (Sniff.charset_guess_of_ascii ha).resolve_left hb, Sniff.text_of_ascii ha] at he
    cases he
    exact Utf8.encode_asciiChars ha

end InCharset

/-- The output for a buffer. -/
def describe (out : List UInt8) (mime charset : String) : Value :=
  .map [(.text "binary", .bytes out), (.text "mime", .text mime), (.text "charset", .text charset)]

theorem charsetNames_singleton (hne : (name == "") = false)
    (h : Charset.canonicalName name = .ok charset) : charsetNames [.text name] = .ok [charset] := by
  rw [charsetNames, hne, h]
  rfl

/-- The charsets a contract asks for, by their canonical names. -/
def Targets (params : Params) (names : List String) : Prop :=
  ∃ charsets, params.list "charset" = .ok charsets ∧ charsetNames (charsets.getD []) = .ok names

/-- The length is asked of what is kept of the data, before it is written in another charset. -/
theorem binary_eq_ok (h : binary mode params data = .ok r) :
    ∃ limits names bytes out charset, Limits.ofParams params = .ok limits ∧ Targets params names ∧
      bytesOf? data = some bytes ∧ bytes ≠ [] ∧ limits.Allows (limits.cut bytes).length ∧
      (mode.strict → limits.cut bytes = bytes) ∧
      InCharset mode names (limits.cut bytes) out charset ∧
      r = ⟨.bytes out, describe out (Sniff.guess (limits.cut bytes)).mime charset⟩ := by
  obtain ⟨limits, hl, h⟩ := bind_eq_ok.mp h
  obtain ⟨mimes, _, h⟩ := bind_eq_ok.mp h
  obtain ⟨charsets, hc, h⟩ := bind_eq_ok.mp h
  obtain ⟨names, hn, h⟩ := bind_eq_ok.mp h
  have hl := lift_eq_ok.mp hl
  have ht : Targets params names := ⟨charsets, lift_eq_ok.mp hc, lift_eq_ok.mp hn⟩
  split at h
  · cases h
  · cases h
  · rename_i bytes hne hd
    obtain ⟨hlong, h⟩ := ite_refuse_eq_ok.mp h
    obtain ⟨hshort, h⟩ := ite_refuse_eq_ok.mp h
    have hbytes : bytes ≠ [] := fun he => hne he
    have hkept : mode.strict → limits.cut bytes = bytes := fun hs => by
      rw [hs, Bool.true_and, Bool.not_eq_true] at hlong
      exact Limits.cut_of_not_tooLong hlong
    dsimp only at h
    split at h
    all_goals
      obtain ⟨allowed, _, h⟩ := bind_eq_ok.mp h
      obtain ⟨_, h⟩ := ite_refuse_eq_ok.mp h
      obtain ⟨⟨out, charset⟩, hin, h⟩ := bind_eq_ok.mp h
      cases h
      exact ⟨limits, names, bytes, out, charset, hl, ht, hd, hbytes,
        Limits.allows_cut hshort, hkept, inCharset_eq_ok hin, rfl⟩

/-- What a contract without media types makes of a buffer. -/
theorem binary_eq (hl : Limits.ofParams params = .ok limits) (hm : params.get "mime" = .null)
    (hc : params.list "charset" = .ok charsets)
    (hn : charsetNames (charsets.getD []) = .ok names) (hd : bytesOf? data = some bytes)
    (hne : bytes ≠ []) :
    binary mode params data =
      if mode.strict && limits.tooLong bytes.length then
        refuse "Data size doesn't respect the contract."
      else if limits.tooShort (limits.cut bytes).length then
        refuse "Data size doesn't respect the contract."
      else
        let content := Sniff.guess (limits.cut bytes)
        inCharset mode (charsets.getD []) names content (limits.cut bytes) >>= fun found =>
          .ok ⟨.bytes found.1, describe found.1 content.mime found.2⟩ := by
  have hmimes : params.list "mime" = .ok none := by
    rw [Params.list, hm]
    rfl
  obtain ⟨b, bs, rfl⟩ := List.exists_cons_of_ne_nil hne
  rw [binary, hl, hmimes, hc]
  simp only [lift_ok, Except.bind, bind, hn, hd]
  rfl

/-- A contract of bounds only lets the buffers between the bounds through, in strict mode. -/
theorem binary_bounds (hm : params.get "mime" = .null) (hc : params.get "charset" = .null)
    (hl : Limits.ofParams params = .ok limits) (inline : Bool) :
    (∃ r, binary ⟨true, inline⟩ params (.bytes out) = .ok r) ↔
      out ≠ [] ∧ limits.Allows out.length := by
  constructor
  · rintro ⟨r, h⟩
    obtain ⟨limits', _, bytes, _, _, hl', _, hb, hne, ha, hs, _⟩ := binary_eq_ok h
    rw [hl, Except.ok.injEq] at hl'
    rw [hs rfl, ← hl'] at ha
    cases hb
    exact ⟨hne, ha⟩
  · rintro ⟨hne, ha⟩
    obtain ⟨hshort, hlong⟩ := Limits.allows_iff.mp ha
    have hcut := Limits.cut_of_not_tooLong (Bool.eq_false_iff.mpr hlong)
    have hcharsets : params.list "charset" = .ok none := by
      rw [Params.list, hc]
      rfl
    rw [binary_eq hl hm hcharsets rfl rfl hne, Bool.true_and, if_neg hlong, hcut, if_neg hshort]
    exact ⟨_, rfl⟩

end Check

namespace Kind

open Check (InCharset Targets describe)

variable {mode : Mode} {params : Params} {data : Value} {inner : Check.Delegate}

theorem validate_binary (hd : params.get "default" = .null) :
    binary.validate inner mode params data = Check.settle (Check.binary mode params data) :=
  validate_without_default hd

/-- A bound on the length, and a charset. -/
def bounded (name : String) (n : Nat) (charset : String) : Params :=
  [("type", .text "binary"), (name, .int n), ("charset", .text charset)]

theorem list_bounded (hn : name ≠ "charset") (n : Nat) (charset : String) :
    (bounded name n charset).list "charset" = .ok (some (ListParam.splitCommas charset)) := by
  rw [bounded, Params.list, Params.get_cons_ne (by decide), Params.get_cons_ne hn]
  rfl

theorem limits_atMost (h : n < 2 ^ 53) (charset : String) :
    Limits.ofParams (bounded "maxLen" n charset) = .ok ⟨none, some n⟩ :=
  Limits.ofParams_eq (Size.ofValue_of_isAbsent rfl) (Size.ofValue_natCast h)

theorem limits_atLeast (h : n < 2 ^ 53) (charset : String) :
    Limits.ofParams (bounded "minLen" n charset) = .ok ⟨some n, none⟩ :=
  Limits.ofParams_eq (Size.ofValue_natCast h) (Size.ofValue_of_isAbsent rfl)

/-- Text in UTF-8. -/
def inUtf8 : Params := [("type", .text "binary"), ("charset", .list [.text "utf8"])]

theorem charsetNames_inUtf8 : Check.charsetNames [.text "utf8"] = .ok ["utf-8"] :=
  Check.charsetNames_singleton (by decide) Charset.canonicalName_examples.1

end Kind
end Covenant
