import Covenant.Proofs.Charset.Fits
import Covenant.Proofs.Check.Binary
import Covenant.Proofs.Check.Default
import Covenant.Proofs.Value.Equality

/-! A text that is let through has what a contract asks for at once: its length, its mask and the
characters of a charset. -/

namespace Covenant

theorem Limits.cut_of_allows {l : Limits} {xs : List α} (h : l.Allows xs.length) : l.cut xs = xs :=
  cut_of_not_tooLong (Bool.eq_false_iff.mpr (allows_iff.mp h).2)

theorem Params.search_of_maskAllows {params : Params} (h : params.maskAllows s.toList = .ok true)
    (hm : params.get "mask" = .text mask) (hne : mask ≠ "") : Mask.search mask s = .ok true := by
  rw [maskAllows, hm] at h
  dsimp only at h
  rwa [if_neg (by rwa [beq_iff_eq]), String.ofList_toList] at h

namespace Check

variable {mode : Mode} {params : Params} {data : Value} {charsets : List Value}
  {names : List String} {cs ds : List Char}

/-- Whether one of some charsets has all characters of a text, if there are any charsets. -/
def IsWithin (names : List String) (cs : List Char) : Prop :=
  names ≠ [] → ∃ name ∈ names, (Codec.named name).fits cs = .ok true

theorem fitsSome_eq_ok (h : fitsSome cs names = .ok fit) :
    if fit then ∃ name ∈ names, (Codec.named name).fits cs = .ok true
    else ∀ name ∈ names, (Codec.named name).fits cs = .ok false := by
  induction names with
  | nil =>
    cases h
    exact nofun
  | cons name names ih =>
    obtain ⟨first, hfirst, h⟩ := bind_eq_ok.mp h
    cases first with
    | true =>
      cases h
      exact ⟨name, List.mem_cons_self, hfirst⟩
    | false =>
      cases fit with
      | true =>
        obtain ⟨other, hother, hfits⟩ := ih h
        exact ⟨other, List.mem_cons_of_mem name hother, hfits⟩
      | false => exact List.forall_mem_cons.mpr ⟨hfirst, ih h⟩

theorem fitsSome_cons (h : (Codec.named name).fits cs = .ok true) (names : List String) :
    fitsSome cs (name :: names) = .ok true := by
  rw [fitsSome, h]
  rfl

theorem withinCharsets_of_nil (hn : charsetNames charsets = .ok []) :
    withinCharsets mode charsets cs = .ok cs := by
  rw [withinCharsets, hn]
  rfl

theorem withinCharsets_of_fits (hn : charsetNames charsets = .ok (name :: names))
    (h : fitsSome cs (name :: names) = .ok true) : withinCharsets mode charsets cs = .ok cs := by
  rw [withinCharsets, hn, lift_ok]
  dsimp only [bind, Except.bind]
  rw [h]
  rfl

/-- What is held to some charsets is in one of them, as long as before, and stays as it is. -/
theorem withinCharsets_eq_ok (h : withinCharsets mode charsets cs = .ok ds) :
    ∃ names, charsetNames charsets = .ok names ∧ IsWithin names ds ∧ ds.length = cs.length ∧
      ∀ again, withinCharsets again charsets ds = .ok ds := by
  obtain ⟨names, hn, h⟩ := bind_eq_ok.mp h
  have hn := lift_eq_ok.mp hn
  cases names with
  | nil =>
    cases h
    exact ⟨[], hn, fun hne => absurd rfl hne, rfl, fun again => withinCharsets_of_nil hn⟩
  | cons name names =>
    obtain ⟨fit, hfit, h⟩ := bind_eq_ok.mp h
    have hfit := lift_eq_ok.mp hfit
    cases fit with
    | true =>
      cases h
      exact ⟨name :: names, hn, fun _ => fitsSome_eq_ok hfit, rfl,
        fun again => withinCharsets_of_fits hn hfit⟩
    | false =>
      cases hs : mode.strict with
      | true =>
        rw [hs] at h
        obtain ⟨_, _, h⟩ := bind_eq_ok.mp h
        cases h
      | false =>
        rw [hs] at h
        cases h
        have hfirst := fitsSome_eq_ok hfit name List.mem_cons_self
        have hfits := Codec.fits_replaceMissing hfirst
        exact ⟨name :: names, hn, fun _ => ⟨name, List.mem_cons_self, hfits⟩,
          Codec.length_replaceMissing _ cs,
          fun again => withinCharsets_of_fits hn (fitsSome_cons hfits names)⟩

theorem string_eq_ok (h : string mode params data = .ok r) :
    ∃ limits charsets cs ds, Limits.ofParams params = .ok limits ∧
      params.list "charset" = .ok charsets ∧ limits.Allows cs.length ∧
      withinCharsets mode (charsets.getD []) cs = .ok ds ∧ params.maskAllows ds = .ok true ∧
      r = ⟨.text (String.ofList ds), .text (String.ofList ds)⟩ := by
  obtain ⟨charsets, hc, h⟩ := bind_eq_ok.mp h
  obtain ⟨limits, hl, h⟩ := bind_eq_ok.mp h
  obtain ⟨cs, _, h⟩ := bind_eq_ok.mp h
  obtain ⟨_, h⟩ := ite_refuse_eq_ok.mp h
  obtain ⟨hshort, h⟩ := ite_refuse_eq_ok.mp h
  obtain ⟨ds, hds, h⟩ := bind_eq_ok.mp h
  obtain ⟨allows, hm, h⟩ := bind_eq_ok.mp h
  obtain ⟨rfl, rfl⟩ := ite_accept_eq_ok.mp h
  exact ⟨limits, charsets, _, ds, lift_eq_ok.mp hl, lift_eq_ok.mp hc, Limits.allows_cut hshort, hds,
    lift_eq_ok.mp hm, rfl⟩

/-- A text that has all that is asked for is let through as it is. -/
theorem string_of_text (hl : Limits.ofParams params = .ok limits)
    (hc : params.list "charset" = .ok charsets?) (hallows : limits.Allows cs.length)
    (hwithin : withinCharsets mode (charsets?.getD []) cs = .ok cs)
    (hmask : params.maskAllows cs = .ok true) :
    string mode params (.text (String.ofList cs)) =
      .ok ⟨.text (String.ofList cs), .text (String.ofList cs)⟩ := by
  obtain ⟨hshort, hlong⟩ := Limits.allows_iff.mp hallows
  have hlong : ¬(mode.strict && limits.tooLong cs.length) = true := by
    rw [Bool.and_eq_true]
    exact fun h => hlong h.2
  have hread : readText mode (.text (String.ofList cs)) = .ok cs :=
    congrArg Except.ok String.toList_ofList
  rw [string, hc, hl, hread]
  simp only [lift_ok, bind, Except.bind]
  rw [if_neg hlong, Limits.cut_of_allows hallows, if_neg hshort, hwithin]
  simp only [hmask, lift_ok, if_true]
  rfl

end Check

namespace Kind

open Check (IsWithin Targets)

variable {inner : Check.Delegate} {mode : Mode} {params : Params} {data : Value}

/-- Four characters of ASCII with an F and something that is no letter behind it. -/
def fourOfAscii : Params :=
  [("type", .text "string"), ("minLen", .int 4), ("maxLen", .int 4), ("mask", .text "f[^a-z]"),
    ("charset", .text "ascii")]

end Kind
end Covenant
