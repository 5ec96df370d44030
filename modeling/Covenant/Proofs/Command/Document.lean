import Covenant.Command.Document
import Covenant.Proofs.Filter.Step
import Covenant.Proofs.JsonText.Plain
import Covenant.Proofs.Text

/-! Documents that are filtered by no contract. -/

namespace Covenant

theorem Filter.process_blank (filter : Filter) (data : Value) (strict : Option Bool)
    (hc : ∀ c ∈ contract.toList, isBlank c) :
    filter.process data (.text contract) strict = .ok data := by
  have hn : Node.ofContract false (.text contract) = .ok none := by
    rw [Node.ofContract, Node.paramsOf, if_pos (List.all_eq_true.mpr hc)]
    rfl
  rw [process, validate, run, step, Scope.part, hn]
  rfl

namespace Document

theorem readContract_blank (hc : ∀ c ∈ contract.toList, isBlank c) :
    readContract contract = .ok (.text contract) := by
  rw [readContract, trim_eq_nil_iff.mpr hc]
  rfl

/-- Without a contract, the data that is read is what is written. -/
theorem filter_of_blank (hc : ∀ c ∈ contract.toList, isBlank c) (config : Config)
    (input : String) :
    filter config contract input = (do
      let data ← readInput input
      let _ ← Filter.ofConfig config (← Registry.ofAliases [] true)
      JsonText.write true data) := by
  simp only [filter, readContract_blank hc, bind, Except.bind, Filter.process_blank _ _ _ hc]

/-- Without a contract, what is written of a document is filtered to itself, and it holds the same
data. -/
theorem filter_filter (hc : ∀ c ∈ contract.toList, isBlank c)
    (h : filter config contract input = .ok s) :
    filter config contract s = .ok s ∧
      ∃ data, readInput input = .ok data ∧ readInput s = .ok data := by
  rw [filter_of_blank hc] at h
  obtain ⟨data, hdata, h⟩ := bind_eq_ok.mp h
  obtain ⟨registry, hregistry, h⟩ := bind_eq_ok.mp h
  obtain ⟨f, hf, hwrite⟩ := bind_eq_ok.mp h
  have hplain : data.IsPlain true := by
    rw [readInput] at hdata
    split at hdata
    · rename_i hread
      cases hdata
      exact JsonText.isPlain_of_read hread
    · cases hdata
  have hback : readInput s = .ok data := by
    rw [readInput, JsonText.read_of_write hplain hwrite]
  refine ⟨?_, data, hdata, hback⟩
  calc filter config contract s
    _ = (do
        let data ← readInput s
        let _ ← Filter.ofConfig config (← Registry.ofAliases [] true)
        JsonText.write true data) := filter_of_blank hc config s
    _ = JsonText.write true data := by
      rw [hback, hregistry]
      simp [bind, Except.bind, hf]
    _ = .ok s := hwrite

/-- A document with a name twice, an escape, and numbers that are out of range. -/
def untidy : String := "\x7b\"a\":1, \"\\u03a9\":-0.0,\"a\" : [1E999, NaN,2.50e1, -0]\x7d\n"

def tidy : String := "\x7b\"a\": [Infinity, NaN, 25.0, 0], \"Ω\": -0.0\x7d"

theorem filter_untidy :
    filter Filter.initial.config "" untidy = .ok tidy ∧
      filter Filter.initial.config "" tidy = .ok tidy ∧
      ∃ data, readInput untidy = .ok data ∧ readInput tidy = .ok data := by
  have h : filter Filter.initial.config "" untidy = .ok tidy := by decide +kernel
  exact ⟨h, filter_filter (by simp) h⟩

end Document
end Covenant
