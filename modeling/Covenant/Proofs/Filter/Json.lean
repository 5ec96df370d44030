import Covenant.Proofs.Check.Default
import Covenant.Proofs.Filter.Step
import Covenant.Proofs.JsonText.Plain
import Covenant.Proofs.Value.Equality

/-! The text that comes of a JSON text holds the output. -/

namespace Covenant

variable {inner : Check.Delegate} {mode : Mode} {params : Params} {data : Value}

/-- What the check of a JSON text makes of the text and its content. -/
theorem Check.json_eq_ok (h : json inner mode params data = .ok r) :
    ∃ s content, data = .text s ∧ JsonText.read false s.toList = .ok content ∧
      (r = ⟨.text s, content⟩ ∧ (params.get "contract").isTrue = false ∨
        r.value = .text s ∧ r.output.equals content = true ∨
        ((params.get "contract").isTrue = true ∧ r.output.equals content = false) ∧
          ∃ t, JsonText.write false r.output = .ok t ∧ r.value = .text t) := by
  obtain ⟨limits, _, h⟩ := bind_eq_ok.mp h
  dsimp only at h
  cases data with
  | text s =>
    dsimp only at h
    split at h
    · cases h
    split at h
    · cases h
    split at h
    · cases h
    rename_i content hread
    refine ⟨s, content, rfl, hread, ?_⟩
    split at h
    · rename_i hc
      cases h
      exact .inl ⟨rfl, by simpa using hc⟩
    rename_i hc
    split at h
    · split at h
      · rename_i he
        cases h
        exact .inr (.inl ⟨rfl, he⟩)
      · rename_i he
        obtain ⟨t, ht, h⟩ := bind_eq_ok.mp h
        cases h
        exact .inr (.inr ⟨⟨by simpa using hc, by simpa using he⟩, t, lift_eq_ok.mp ht, rfl⟩)
    · cases h
    · cases h
  | _ => cases h

namespace Kind

/-- The text that comes of a JSON text reads as the output, and it is the text that was let through
unless its content was changed. -/
theorem validate_json (h : Kind.json.validate inner mode params data = .ok r)
    (hp : r.output.IsPlain false) :
    ∃ accepted content s decoded,
      (data = .text accepted ∨
        (∃ m, Kind.json.check inner mode params data = .error (.refused m)) ∧
          params.get "default" = .text accepted) ∧
      Kind.json.check inner mode params (.text accepted) = .ok r ∧
      JsonText.read false accepted.toList = .ok content ∧
      r.value = .text s ∧ JsonText.read false s.toList = .ok decoded ∧
      r.output.equals decoded = true ∧
      ((params.get "contract").isTrue = false ∨ r.output.equals content = true → s = accepted) := by
  obtain ⟨accepted, hfrom, hcheck⟩ : ∃ d, (data = d ∨
      (∃ m, Kind.json.check inner mode params data = .error (.refused m)) ∧
        params.get "default" = d) ∧ Kind.json.check inner mode params d = .ok r := by
    rcases check_of_validate_eq_ok (by decide) h with hc | ⟨hm, d, hd, hc⟩
    · exact ⟨data, .inl rfl, hc⟩
    · exact ⟨d, .inr ⟨hm, Except.ok.inj ((nativeDefault_eq (by decide) mode _).symm.trans hd)⟩, hc⟩
  obtain ⟨s, content, rfl, hread, hr⟩ := @Check.json_eq_ok _ mode _ _ _ hcheck
  rcases hr with ⟨rfl, hc⟩ | ⟨hv, he⟩ | ⟨⟨hc, he⟩, t, hw, hv⟩
  · exact ⟨s, content, s, content, hfrom, hcheck, hread, rfl, hread, hp.equals_self, fun _ => rfl⟩
  · exact ⟨s, content, s, content, hfrom, hcheck, hread, hv, hread, he, fun _ => rfl⟩
  · refine ⟨s, content, t, r.output, hfrom, hcheck, hread, hv, JsonText.read_of_write hp hw,
      hp.equals_self, fun hsame => ?_⟩
    simp [hc, he] at hsame

/-- The contract of a list of numbers that are written as texts. -/
def numbers : Params := [("type", .text "json"), ("contract", .text "list; contract: int")]

theorem validate_json_numbers :
    Kind.json.validate (Filter.delegate .initial (Filter.run .initial 64 64) ⟨false, false⟩)
        ⟨false, false⟩ numbers (.text "[\"7\", 1E1]") =
          .ok ⟨.text "[7, 10]", .list [.int 7, .int 10]⟩ ∧
      ∃ decoded, JsonText.read false "[7, 10]".toList = .ok decoded ∧
        (Value.list [.int 7, .int 10]).equals decoded = true := by
  have h : Kind.json.validate (Filter.delegate .initial (Filter.run .initial 64 64) ⟨false, false⟩)
      ⟨false, false⟩ numbers (.text "[\"7\", 1E1]") =
        .ok ⟨.text "[7, 10]", .list [.int 7, .int 10]⟩ := by decide +kernel
  have hp : (Value.list [.int 7, .int 10]).IsPlain false := .list (by simp [Value.IsPlain.int])
  obtain ⟨accepted, content, s, decoded, _, _, _, hs, hread, he, _⟩ := validate_json h hp
  cases hs
  exact ⟨h, decoded, hread, he⟩

end Kind
end Covenant
