import Covenant.Proofs.Check.Count
import Covenant.Proofs.Filter.Json

/-! What the contract of a JSON text asks of the text itself, and what is left of that when the text
is written anew. -/

namespace Covenant

namespace Check

variable {inner : Delegate} {mode : Mode} {params : Params} {data : Value}

/-- What a contract asks of a JSON text, whatever it asks of the content. -/
structure AllowsDocument (params : Params) (s : String) : Prop where
  size : ∃ limits, Limits.ofParams params = .ok limits ∧ limits.Allows s.utf8ByteSize
  reads : ∃ content, JsonText.read false s.toList = .ok content

theorem allowsDocument_of_json (h : json inner mode params (.text s) = .ok r) :
    AllowsDocument params s := by
  obtain ⟨limits, hl, h⟩ := bind_eq_ok.mp h
  dsimp only at h
  rw [ite_refuse_eq_ok, ite_refuse_eq_ok, Bool.or_eq_true, not_or] at h
  obtain ⟨_, hsize, h⟩ := h
  refine ⟨⟨limits, lift_eq_ok.mp hl, Limits.allows_iff.mpr hsize⟩, ?_⟩
  split at h
  · cases h
  · rename_i content hread
    exact ⟨content, hread⟩

theorem ne_empty_of_read (h : JsonText.read constants s.toList = .ok content) : s ≠ "" := by
  rintro rfl
  cases h

/-- Without a contract for its content, a JSON text is let through if and only if it is allowed. -/
theorem json_without_contract (hc : params.get "contract" = .null) (mode : Mode) :
    (∃ r, json inner mode params (.text s) = .ok r) ↔ AllowsDocument params s := by
  constructor
  · rintro ⟨r, h⟩
    exact allowsDocument_of_json h
  · rintro ⟨⟨limits, hl, hsize⟩, content, hread⟩
    obtain ⟨hshort, hlong⟩ := Limits.allows_iff.mp hsize
    refine ⟨⟨.text s, content⟩, ?_⟩
    rw [json, hl, lift_ok]
    simp [bind, Except.bind, ne_empty_of_read hread, hshort, hlong, hread, hc, Value.isTrue, pure,
      Except.pure]

/-- The contract of the content makes no difference to what is asked of the text. -/
theorem allowsDocument_congr {p q : Params} (h : p.AgreeOn ["minLen", "maxLen"] q) :
    AllowsDocument p s ↔ AllowsDocument q s := by
  have hl := h.limits (by simp) (by simp)
  constructor
  · rintro ⟨hs, hr⟩
    exact ⟨hl ▸ hs, hr⟩
  · rintro ⟨hs, hr⟩
    exact ⟨hl ▸ hs, hr⟩

end Check

namespace Kind

open Check (AllowsDocument)

variable {inner : Check.Delegate} {mode : Mode} {params : Params} {data : Value}

/-- A JSON text that comes of data is a document between the bounds when it is the text that was let
through, which it is unless its content was changed. A text that is written anew is a document when
all numbers of the output are finite, and nothing is asked of its size. -/
theorem validate_document (h : Kind.json.validate inner mode params data = .ok r) :
    ∃ accepted content s,
      .text accepted ∈ [data, params.get "default"] ∧ AllowsDocument params accepted ∧
      JsonText.read false accepted.toList = .ok content ∧ r.value = .text s ∧
      ((params.get "contract").isTrue = false ∨ r.output.equals content → s = accepted) ∧
      (s ≠ accepted → JsonText.write false r.output = .ok s ∧
        JsonText.read false s.toList =
          if r.output.isFinite then .ok (JsonText.form r.output) else .error .constant) ∧
      (AllowsDocument params s ↔ s = accepted ∨
        r.output.isFinite ∧ ∃ limits, Limits.ofParams params = .ok limits ∧
          limits.Allows s.utf8ByteSize) ∧
      (AllowsDocument params s ↔
        ∃ r', Kind.json.check inner mode (params.put "contract" .null) (.text s) = .ok r') := by
  obtain ⟨d, hd, hcheck⟩ := check_data_or_default (by decide) h
  obtain ⟨accepted, content, rfl, hread, hr⟩ := @Check.json_eq_ok _ mode _ _ _ hcheck
  have hallows := @Check.allowsDocument_of_json inner mode _ _ _ hcheck
  have hagain (s : String) : AllowsDocument params s ↔
      ∃ r', Kind.json.check inner mode (params.put "contract" .null) (.text s) = .ok r' := by
    have hagree : Params.AgreeOn ["minLen", "maxLen"] (params.put "contract" .null) params :=
      .put_of_notMem (by decide) params .null
    rw [← Check.allowsDocument_congr hagree]
    exact (Check.json_without_contract (Params.get_put_self params _ _) mode).symm
  rcases hr with ⟨rfl, hc⟩ | ⟨hv, he⟩ | ⟨⟨hc, he⟩, t, hw, hv⟩
  · exact ⟨accepted, content, accepted, hd, hallows, hread, rfl, fun _ => rfl,
      fun hne => absurd rfl hne, iff_of_true hallows (.inl rfl), hagain _⟩
  · exact ⟨accepted, content, accepted, hd, hallows, hread, hv, fun _ => rfl,
      fun hne => absurd rfl hne, iff_of_true hallows (.inl rfl), hagain _⟩
  · have hback : JsonText.read false t.toList =
        if r.output.isFinite then .ok (JsonText.form r.output) else .error .constant := by
      rw [JsonText.read_write hw, JsonText.reread, Bool.false_or]
    refine ⟨accepted, content, t, hd, hallows, hread, hv, fun hsame => ?_, fun _ => ⟨hw, hback⟩,
      ⟨?_, ?_⟩, hagain _⟩
    · simp [hc, he] at hsame
    · rintro ⟨hsize, decoded, hdecoded⟩
      refine .inr ⟨?_, hsize⟩
      rw [hback] at hdecoded
      split at hdecoded
      · assumption
      · cases hdecoded
    · rintro (rfl | ⟨hf, hsize⟩)
      · exact hallows
      · exact ⟨hsize, _, hback.trans (if_pos hf)⟩

/-- Ten bytes at most, and a list of integers. -/
def shortNumbers : Params := numbers ++ [("maxLen", .int 10)]

theorem limits_shortNumbers : Limits.ofParams shortNumbers = .ok ⟨none, some 10⟩ :=
  Limits.ofParams_eq (Size.ofValue_of_isAbsent rfl) (Size.ofValue_natCast (by decide))

theorem validate_short_numbers :
    Kind.json.validate Kind.initialParts ⟨false, false⟩ shortNumbers (.text "[\"7\",1E1]") =
        .ok ⟨.text "[7, 10]", .list [.int 7, .int 10]⟩ ∧
      AllowsDocument shortNumbers "[7, 10]" := by
  have h : Kind.json.validate Kind.initialParts ⟨false, false⟩ shortNumbers
      (.text "[\"7\",1E1]") = .ok ⟨.text "[7, 10]", .list [.int 7, .int 10]⟩ := by
    decide +kernel
  obtain ⟨_, _, s, _, _, _, hs, _, _, hallows, _⟩ := validate_document h
  obtain rfl := Value.text.inj hs
  exact ⟨h, hallows.mpr (.inr ⟨rfl, _, limits_shortNumbers, nofun, by rintro _ ⟨⟩; decide⟩)⟩

/-- Five bytes at most, and a list of texts. -/
def shortTexts : Params :=
  [("type", .text "json"), ("maxLen", .int 5), ("contract", .text "list; contract: string")]

/-- An integer, and whatever comes after it. -/
def numberFirst : Params :=
  [("type", .text "json"), ("contract", .map [(.text "type", .text "list"),
    (.text "values", .text "int, ...")])]

/-- A text that is written anew may be too long, or no document. -/
theorem validate_no_document :
    Filter.initial.validate (.text "[7,8]") (.map shortTexts.toEntries) (some false) =
        .ok ⟨.text "[\"7\", \"8\"]", .list [.text "7", .text "8"]⟩ ∧
      Limits.ofParams shortTexts = .ok ⟨none, some 5⟩ ∧
      ¬Limits.Allows ⟨none, some 5⟩ "[\"7\", \"8\"]".utf8ByteSize ∧
      Filter.initial.validate (.text "[\"7\", 1e999]") (.map numberFirst.toEntries) (some false) =
        .ok ⟨.text "[7, Infinity]", .list [.int 7, .float (.infinity false)]⟩ ∧
      JsonText.read false "[7, Infinity]".toList = .error .constant := by
  have hl : Limits.ofParams shortTexts = .ok ⟨none, some 5⟩ :=
    Limits.ofParams_eq (Size.ofValue_of_isAbsent rfl) (Size.ofValue_natCast (by decide))
  exact ⟨by decide +kernel, hl, fun h => absurd (h.most 5 rfl) (by decide), by decide +kernel,
    by decide +kernel⟩

end Kind
end Covenant
