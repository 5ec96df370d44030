import Covenant.Proofs.Base64
import Covenant.Proofs.Check.Binary
import Covenant.Proofs.Filter.Step

/-! Strictly, text in base64 is what its bytes are written as. Loosely, it may be written in the
alphabet for URLs, have blanks anywhere and lack padding. -/

namespace Covenant

namespace Check.Base64

open Covenant.Base64 (digitChar encode)

/-- A text and a looser form of it. -/
inductive Loosened : List Char → List Char → Prop
  | nil : Loosened [] []
  | same (c : Char) (h : Loosened cs ds) : Loosened (c :: cs) (c :: ds)
  | minus (h : Loosened cs ds) : Loosened ('+' :: cs) ('-' :: ds)
  | underscore (h : Loosened cs ds) : Loosened ('/' :: cs) ('_' :: ds)
  | unpadded (h : Loosened cs ds) : Loosened ('=' :: cs) ds
  | blank (hc : isBlank c) (h : Loosened cs ds) : Loosened cs (c :: ds)

/-- A character of the standard alphabet, for one. -/
def IsPlain (c : Char) : Prop := isBlank c = false ∧ c ≠ '-' ∧ c ≠ '_'

instance : DecidablePred IsPlain := fun _ => inferInstanceAs (Decidable (_ ∧ _))

/-- A character of the standard alphabet for one of that for URLs. -/
def standard (c : Char) : Char := if c = '-' then '+' else if c = '_' then '/' else c

/-- The characters of a text that are not blank, in the standard alphabet. -/
def compact (cs : List Char) : List Char := (cs.filter (!isBlank ·)).map standard

theorem loosen_eq (cs : List Char) : loosen cs =
    compact cs ++ List.replicate ((4 - (compact cs).length % 4) % 4) '=' := rfl

theorem compact_cons (h : isBlank c = false) (cs : List Char) :
    compact (c :: cs) = standard c :: compact cs := by
  rw [compact, List.filter_cons_of_pos (by rw [h]; rfl)]
  rfl

theorem compact_cons_of_plain (h : IsPlain c) (cs : List Char) :
    compact (c :: cs) = c :: compact cs := by
  rw [compact_cons h.1, standard, if_neg h.2.1, if_neg h.2.2]

theorem compact_cons_of_blank (h : isBlank c) (cs : List Char) :
    compact (c :: cs) = compact cs := by
  rw [compact, List.filter_cons_of_neg (by rw [h]; decide)]
  rfl

theorem isPlain_digitChar (h : n < 64) : IsPlain (digitChar n) := by
  have hall : ∀ k < 64, IsPlain (digitChar k) := by decide
  exact hall n h

namespace Loosened

/-- Nothing but padding is lost, and nothing but what is passed over is added. -/
theorem compact_sublist (h : Loosened cs ds) (hp : ∀ c ∈ cs, IsPlain c) :
    (compact ds).Sublist cs ∧ (compact ds).filter (· ≠ '=') = cs.filter (· ≠ '=') := by
  induction h with
  | nil => exact ⟨.slnil, rfl⟩
  | same c h ih =>
    obtain ⟨hc, hcs⟩ := List.forall_mem_cons.mp hp
    obtain ⟨hsub, hsame⟩ := ih hcs
    rw [compact_cons_of_plain hc, List.filter_cons, List.filter_cons, hsame]
    exact ⟨hsub.cons_cons c, rfl⟩
  | minus h ih =>
    obtain ⟨hsub, hsame⟩ := ih (List.forall_mem_cons.mp hp).2
    rw [compact_cons (by decide), List.filter_cons, List.filter_cons, hsame]
    exact ⟨hsub.cons_cons '+', rfl⟩
  | underscore h ih =>
    obtain ⟨hsub, hsame⟩ := ih (List.forall_mem_cons.mp hp).2
    rw [compact_cons (by decide), List.filter_cons, List.filter_cons, hsame]
    exact ⟨hsub.cons_cons '/', rfl⟩
  | unpadded h ih =>
    obtain ⟨hsub, hsame⟩ := ih (List.forall_mem_cons.mp hp).2
    rw [List.filter_cons_of_neg (by decide)]
    exact ⟨hsub.cons '=', hsame⟩
  | blank hc h ih =>
    rw [compact_cons_of_blank hc]
    exact ih hp

/-- Padding makes up for what is lost: a text has whole groups of four characters. -/
theorem loosen_encode (h : Loosened (encode bytes) cs) : loosen cs = encode bytes := by
  obtain ⟨ns, k, he, hns, hlen, hk⟩ := Covenant.Base64.exists_digits bytes
  have hdigits : ∀ c ∈ ns.map digitChar, IsPlain c ∧ c ≠ '=' := by
    intro c hc
    obtain ⟨n, hn, rfl⟩ := List.mem_map.mp hc
    exact ⟨isPlain_digitChar (hns n hn), Covenant.Base64.digitChar_ne_pad (hns n hn)⟩
  have hplain : ∀ c ∈ encode bytes, IsPlain c := by
    intro c hc
    rw [he, List.mem_append] at hc
    rcases hc with hc | hc
    · exact (hdigits c hc).1
    · rw [List.eq_of_mem_replicate hc]
      decide
  obtain ⟨hsub, hsame⟩ := h.compact_sublist hplain
  have hpad (j : Nat) : (List.replicate j '=').filter (· ≠ '=') = [] :=
    List.filter_eq_nil_iff.mpr fun c hc => by simp [List.eq_of_mem_replicate hc]
  have hkeep {ds : List Char} (hds : ∀ d ∈ ds, d ≠ '=') : ds.filter (· ≠ '=') = ds :=
    List.filter_eq_self.mpr fun d hd => decide_eq_true (hds d hd)
  rw [he, List.sublist_append_iff] at hsub
  obtain ⟨ds, pad, hc, hds, hpads⟩ := hsub
  obtain ⟨j, hj, rfl⟩ := List.sublist_replicate_iff.mp hpads
  rw [he, hc, List.filter_append, List.filter_append, hpad, hpad, List.append_nil, List.append_nil,
    hkeep fun d hd => (hdigits d (hds.subset hd)).2, hkeep fun d hd => (hdigits d hd).2] at hsame
  have hmissing : (4 - (ns.length + j) % 4) % 4 = k - j := by omega
  rw [loosen_eq, hc, hsame, List.length_append, List.length_map, List.length_replicate, hmissing,
    List.append_assoc, List.replicate_append_replicate, Nat.add_sub_cancel' hj, he]

end Loosened

theorem decode?_strict_eq_some :
    decode? true cs = some bytes ↔ encode bytes = cs := by
  rw [decode?, if_pos rfl, Option.bind_eq_some_iff]
  constructor
  · rintro ⟨found, _, h⟩
    split at h
    · cases h
      assumption
    · cases h
  · rintro rfl
    exact ⟨bytes, Covenant.Base64.decode?_encode bytes, if_pos rfl⟩

theorem decode?_loosened (h : Loosened (encode bytes) cs) : decode? false cs = some bytes := by
  rw [decode?, if_neg Bool.false_ne_true, h.loosen_encode, Covenant.Base64.decode?_encode]

end Check.Base64

namespace Check

variable {mode : Mode} {params : Params}

/-- What a contract without bounds and media types makes of a text. -/
theorem base64_eq (content : Params → Value → Except Failure Result)
    (hp : ∀ name ∈ ["minLen", "maxLen", "mime"], params.get name = .null) (t : String) :
    base64 content mode params (.text t) =
      match if t == "" then none else Base64.decode? mode.strict t.toList with
      | none => refuse "Data is not a valid base64 string."
      | some bytes =>
        match content [("type", .text "binary")] (.bytes bytes) with
        | .ok result => .ok ⟨.text t, result.output⟩
        | .error (.rejected message) => refuse message
        | .error failure => .error (.failed failure) := by
  simp only [List.forall_mem_cons] at hp
  obtain ⟨hleast, hmost, hmime, _⟩ := hp
  have hl : Limits.ofParams params = .ok ⟨none, none⟩ :=
    Limits.ofParams_of_absent (by rw [hleast]; rfl) (by rw [hmost]; rfl)
  have hmimes : params.list "mime" = .ok none := by
    rw [Params.list, hmime]
    rfl
  rw [base64, hl, hmimes]
  rfl

end Check

/-- Bytes of which nothing is asked are described as what they look like. -/
theorem Filter.content_bytes {registry : Registry} (hk : registry.kind "binary" = .ok .binary)
    (hne : bytes ≠ []) (nested : Pass) (inline : Bool) :
    content registry nested inline [("type", .text "binary")] (.bytes bytes) =
      .ok ⟨.bytes bytes,
        Check.describe bytes (Sniff.guess bytes).mime (Sniff.guess bytes).charset⟩ := by
  rw [content, hk]
  show Kind.binary.validate _ ⟨false, inline⟩ _ _ = _
  rw [Kind.validate_binary rfl,
    Check.binary_eq (Limits.ofParams_of_absent rfl rfl) rfl rfl rfl rfl hne]
  rfl

namespace Kind

open Base64 (encode)
open Check (describe)
open Check.Base64 (Loosened decode?_strict_eq_some decode?_loosened)

variable {registry : Registry} {mode : Mode} {params : Params} {t : String}

/-- What there is to tell of a text in base64 and the bytes it stands for. -/
def decoded (t : String) (bytes : List UInt8) : Result :=
  ⟨.text t, describe bytes (Sniff.guess bytes).mime (Sniff.guess bytes).charset⟩

theorem validate_decoded (hk : registry.kind "binary" = .ok .binary)
    (hp : ∀ name ∈ ["default", "minLen", "maxLen", "mime"], params.get name = .null)
    (hne : bytes ≠ []) (h : Check.Base64.decode? mode.strict t.toList = some bytes)
    (nested : Filter.Pass) :
    base64.validate (Filter.delegate registry nested mode) mode params (.text t) =
      .ok (decoded t bytes) := by
  have ht : (t == "") = false := by
    rw [beq_eq_false_iff_ne]
    rintro rfl
    cases hs : mode.strict with
    | true =>
      rw [hs] at h
      exact hne (Option.some.inj h).symm
    | false =>
      rw [hs] at h
      exact hne (Option.some.inj h).symm
  apply validate_of_accepted
  show Check.base64 _ mode params (.text t) = _
  rw [Check.base64_eq _ (List.forall_mem_cons.mp hp).2, ht, if_neg Bool.false_ne_true, h]
  dsimp only [Filter.delegate]
  rw [Filter.content_bytes hk hne]
  rfl

/-- A text that is not canonical is refused for that, the empty text too. -/
theorem validate_not_canonical (hm : mode.strict = true)
    (hp : ∀ name ∈ ["default", "minLen", "maxLen", "mime"], params.get name = .null)
    (h : ∀ bytes ≠ [], encode bytes ≠ t.toList) (inner : Check.Delegate) :
    base64.validate inner mode params (.text t) =
      .error (.rejected "Data is not a valid base64 string.") := by
  have hnone : (if t == "" then none else Check.Base64.decode? mode.strict t.toList) = none := by
    split
    · rfl
    · rename_i ht
      rw [hm, Option.eq_none_iff_forall_not_mem]
      intro bytes hb
      have he := decode?_strict_eq_some.mp hb
      refine h bytes ?_ he
      rintro rfl
      exact ht (beq_iff_eq.mpr (String.toList_eq_nil_iff.mp he.symm))
  rw [validate_without_default (List.forall_mem_cons.mp hp).1]
  show Check.settle (Check.base64 _ mode params (.text t)) = _
  rw [Check.base64_eq _ (List.forall_mem_cons.mp hp).2, hnone]
  rfl

/-- Strictly, the texts that are let through are those that bytes are written as, and the bytes come
with them. -/
theorem validate_canonical (hk : registry.kind "binary" = .ok .binary) (hm : mode.strict = true)
    (hp : ∀ name ∈ ["default", "minLen", "maxLen", "mime"], params.get name = .null)
    (nested : Filter.Pass) (t : String) :
    (∀ r, base64.validate (Filter.delegate registry nested mode) mode params (.text t) = .ok r ↔
      ∃ bytes ≠ [], encode bytes = t.toList ∧ r = decoded t bytes) ∧
    ((∀ bytes ≠ [], encode bytes ≠ t.toList) →
      base64.validate (Filter.delegate registry nested mode) mode params (.text t) =
        .error (.rejected "Data is not a valid base64 string.")) := by
  have hout : (∀ bytes ≠ [], encode bytes ≠ t.toList) →
      base64.validate (Filter.delegate registry nested mode) mode params (.text t) =
        .error (.rejected "Data is not a valid base64 string.") :=
    fun h => validate_not_canonical hm hp h _
  have hin (bytes : List UInt8) (hne : bytes ≠ []) (he : encode bytes = t.toList) :
      base64.validate (Filter.delegate registry nested mode) mode params (.text t) =
        .ok (decoded t bytes) :=
    validate_decoded hk hp hne (by rw [hm]; exact decode?_strict_eq_some.mpr he) nested
  refine ⟨fun r => ⟨fun h => ?_, ?_⟩, hout⟩
  · by_contra hno
    have hnone : ∀ bytes ≠ [], encode bytes ≠ t.toList := by
      intro bytes hne he
      rw [hin bytes hne he] at h
      exact hno ⟨bytes, hne, he, (Except.ok.inj h).symm⟩
    rw [hout hnone] at h
    cases h
  · rintro ⟨bytes, hne, he, rfl⟩
    exact hin bytes hne he

/-- A contract that asks for base64 and nothing more. -/
def inBase64 : Params := [("type", .text "base64")]

/-- Binary content as the initial filter has it checked. -/
def initialContent (mode : Mode) : Check.Delegate :=
  Filter.delegate .initial (Filter.run .initial 64 64) mode

/-- The last two bits of the second text belong to no byte. -/
theorem validate_hi :
    base64.validate (initialContent ⟨true, false⟩) ⟨true, false⟩ inBase64 (.text "aGk=") =
        .ok (decoded "aGk=" [0x68, 0x69]) ∧
      base64.validate (initialContent ⟨true, false⟩) ⟨true, false⟩ inBase64 (.text "aGl=") =
        .error (.rejected "Data is not a valid base64 string.") := by
  have hp : ∀ name ∈ ["default", "minLen", "maxLen", "mime"], inBase64.get name = .null := by
    decide
  have hk : Registry.initial.kind "binary" = .ok .binary := rfl
  have hm : (⟨true, false⟩ : Mode).strict = true := rfl
  have hi := validate_canonical hk hm hp (Filter.run .initial 64 64)
  have hno : ∀ bytes ≠ [], encode bytes ≠ "aGl=".toList := by
    intro bytes _ he
    have hnone : Check.Base64.decode? true "aGl=".toList = none := by decide
    rw [decode?_strict_eq_some.mpr he] at hnone
    cases hnone
  exact ⟨((hi "aGk=").1 _).mpr ⟨[0x68, 0x69], by decide, by decide, rfl⟩, (hi "aGl=").2 hno⟩

/-- Loosely, every looser form of such a text is let through as it is given, with the same bytes. -/
theorem validate_loosened (hk : registry.kind "binary" = .ok .binary) (hm : mode.strict = false)
    (hp : ∀ name ∈ ["default", "minLen", "maxLen", "mime"], params.get name = .null)
    (hne : bytes ≠ []) (h : Loosened (encode bytes) t.toList) (nested : Filter.Pass) :
    base64.validate (Filter.delegate registry nested mode) mode params (.text t) =
      .ok (decoded t bytes) :=
  validate_decoded hk hp hne (by rw [hm]; exact decode?_loosened h) nested

theorem validate_blanks :
    base64.validate (initialContent ⟨false, false⟩) ⟨false, false⟩ inBase64 (.text "-+\n_/ /g =") =
      .ok (decoded "-+\n_/ /g =" [0xFB, 0xEF, 0xFF, 0xFE]) := by
  have he : encode [0xFB, 0xEF, 0xFF, 0xFE] = "++///g==".toList := by decide
  have h : Loosened "++///g==".toList "-+\n_/ /g =".toList :=
    .minus (.same '+' (.blank rfl (.underscore (.same '/' (.blank rfl (.same '/' (.same 'g'
      (.unpadded (.blank rfl (.same '=' .nil))))))))))
  exact validate_loosened rfl rfl (by decide) (by decide) (he ▸ h) _

end Kind
end Covenant
