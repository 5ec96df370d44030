import Covenant.Proofs.Check.Default
import Covenant.Proofs.Check.Repeat
import Covenant.Proofs.Filter.Step
import Covenant.Proofs.Net.Url
import Covenant.Proofs.Value.Equality
import Mathlib.Data.Bool.AllAny

/-! The hosts that a contract allows, and the hosts that the URLs let through lead to. -/

namespace Covenant

namespace Check

variable {mode : Mode} {params : Params} {data : Value} {name : String} {texts : List String}

namespace Url

theorem mem_foldlM_allowed {names : List String} {found found' : List (String × List String)}
    (h : names.foldlM
      (fun found name => do
        match ← allowedFor params name with
        | some texts => return found ++ [(name, texts)]
        | none => return found) found = .ok found') :
    found ⊆ found' ∧ ∀ name ∈ names, ∀ texts, allowedFor params name = .ok (some texts) →
      (name, texts) ∈ found' := by
  induction names generalizing found with
  | nil =>
    cases h
    exact ⟨List.Subset.refl _, nofun⟩
  | cons name names ih =>
    rw [List.foldlM_cons] at h
    obtain ⟨next, hnext, h⟩ := bind_eq_ok.mp h
    obtain ⟨texts?, hfor, hnext⟩ := bind_eq_ok.mp hnext
    obtain ⟨hsub, hrest⟩ := ih h
    cases texts? with
    | none =>
      cases hnext
      refine ⟨hsub, List.forall_mem_cons.mpr ⟨fun texts ht => ?_, hrest⟩⟩
      rw [hfor] at ht
      cases ht
    | some texts =>
      cases hnext
      refine ⟨fun a ha => hsub (List.mem_append_left _ ha),
        List.forall_mem_cons.mpr ⟨fun texts' ht => ?_, hrest⟩⟩
      rw [hfor] at ht
      cases ht
      exact hsub (List.mem_append_right found List.mem_cons_self)

theorem mem_allowed (h : allowed params = .ok found) (hn : name ∈ componentNames)
    (ht : allowedFor params name = .ok (some texts)) : (name, texts) ∈ found :=
  (mem_foldlM_allowed h).2 name hn texts ht

theorem host_of_firstBad? {parts : Net.UrlParts} {allowed : List (String × List String)}
    (h : firstBad? (components parts) allowed = none) (hm : ("host", texts) ∈ allowed) :
    ∃ host ∈ texts, parts.host = some host := by
  rw [firstBad?, Option.map_eq_none_iff, List.find?_eq_none] at h
  have hhost := h _ hm
  have hfind : (components parts).find? (·.1 == "host") =
      some ("host", parts.host.elim .null .text) := rfl
  dsimp only at hhost
  rw [hfind, Option.bind_some, Bool.not_eq_true', Bool.not_eq_false] at hhost
  cases hp : parts.host with
  | none =>
    rw [hp] at hhost
    cases hhost
  | some host =>
    rw [hp] at hhost
    exact ⟨host, List.contains_iff_mem.mp hhost, rfl⟩

end Url

theorem url_eq_ok (h : url mode params data = .ok r) :
    ∃ cs parts found, r = ⟨.text (String.ofList cs),
        .map ((Url.components parts).map fun p => (.text p.1, p.2))⟩ ∧
      Net.Url.isValid cs ∧ Net.UrlParts.read? cs = some parts ∧
      Url.allowed params = .ok found ∧ Url.firstBad? (Url.components parts) found = none := by
  obtain ⟨limits, _, h⟩ := bind_eq_ok.mp h
  obtain ⟨found, hfound, h⟩ := bind_eq_ok.mp h
  split at h
  · obtain ⟨_, h⟩ := ite_refuse_eq_ok.mp h
    obtain ⟨_, h⟩ := ite_refuse_eq_ok.mp h
    obtain ⟨allows, _, h⟩ := bind_eq_ok.mp h
    rw [ite_refuse_eq_ok, ite_refuse_eq_ok] at h
    obtain ⟨_, hvalid, h⟩ := h
    split at h
    · cases h
    · rename_i parts hparts
      dsimp only at h
      split at h
      · cases h
      · rename_i hbad
        cases h
        rw [Bool.or_eq_true, not_or, Bool.not_eq_true', Bool.not_eq_false] at hvalid
        exact ⟨_, parts, found, rfl, hvalid.1, hparts, lift_eq_ok.mp hfound, hbad⟩
  · cases h

end Check

namespace Kind

open Net (UrlParts isAscii)

variable {inner : Check.Delegate} {mode : Mode} {params : Params} {data : Value}

/-- The host component of a URL that is let through is one of those that the contract allows. Where
the authority has no backslash and no bracket, it is the name of the host that the URL leads to if and
only if something stands behind two slashes and the host has no percent sign and no control
character. -/
theorem validate_host (h : url.validate inner mode params data = .ok r)
    (hv : r.value = .text s) (ha : isAscii s.toList)
    (hn : Net.Url.registeredName? s.toList = some name) :
    ∃ parts, UrlParts.read? s.toList = some parts ∧
      r.output = .map ((Check.Url.components parts).map fun p => (.text p.1, p.2)) ∧
      (∀ texts, Check.Url.allowedFor params "host" = .ok (some texts) →
        ∃ host ∈ texts, parts.host = some host) ∧
      ((∀ c ∈ UrlParts.authority s.toList, c ≠ '\\' ∧ c ≠ '[') →
        (parts.host = some (String.ofList name) ↔
          UrlParts.authority s.toList ≠ [] ∧
            ∀ c ∈ UrlParts.address s.toList, c ≠ '%' ∧ ¬Net.Url.isControl c)) := by
  obtain ⟨d, _, hc⟩ := check_data_or_default (by decide) h
  obtain ⟨cs, parts, found, rfl, _, hread, hfound, hbad⟩ := @Check.url_eq_ok mode _ _ _ hc
  obtain rfl : String.ofList cs = s := Value.text.inj hv
  rw [String.toList_ofList] at ha hn ⊢
  refine ⟨parts, hread, rfl, fun texts ht => ?_, fun hb => ?_⟩
  · exact Check.Url.host_of_firstBad? hbad (Check.Url.mem_allowed hfound (by decide) ht)
  · refine UrlParts.host_eq_iff (fun c hc => ?_) hn hread hb
    exact of_decide_eq_true (List.all_eq_true.mp ha c hc)

/-- URLs whose host is the one given. -/
def goodHost : Params := [("type", .text "url"), ("host", .text "good.com")]

/-- The components of a URL with that host and a user. -/
def goodParts (user : String) (port : Option Nat) : UrlParts where
  scheme := some "http"
  host := some "good.com"
  domain := some "good.com"
  port := port
  user := some user
  password := none
  path := none
  query := none
  fragment := none

/-- The result for such a URL. -/
def goodResult (s user : String) (port : Option Nat) : Result :=
  ⟨.text s, .map ((Check.Url.components (goodParts user port)).map fun p => (.text p.1, p.2))⟩

theorem validate_good_host :
    url.validate Check.noParts ⟨true, false⟩ goodHost (.text "http://me@Good.com:80") =
        .ok (goodResult "http://me@Good.com:80" "me" (some 80)) ∧
      ∃ parts, UrlParts.read? "http://me@Good.com:80".toList = some parts ∧
        parts.host = some (String.ofList "good.com".toList) := by
  have h : url.validate Check.noParts ⟨true, false⟩ goodHost (.text "http://me@Good.com:80") =
      .ok (goodResult "http://me@Good.com:80" "me" (some 80)) := by
    decide +kernel
  have hname : Net.Url.registeredName? "http://me@Good.com:80".toList =
      some "good.com".toList := by
    decide +kernel
  obtain ⟨parts, hread, _, _, hiff⟩ := validate_host h rfl (by decide +kernel) hname
  refine ⟨h, parts, hread, (hiff ?_).mpr ⟨by decide +kernel, ?_⟩⟩
  · exact List.all_iff_forall_prop.mp (by decide +kernel)
  · exact List.all_iff_forall_prop.mp (by decide +kernel)

/-- A backslash ends the authority where the URL leads to, and not where its components are read. -/
theorem validate_other_host :
    Filter.initial.validate (.text "http://evil.com\\@good.com") (.map goodHost.toEntries)
        (some true) =
      .ok (goodResult "http://evil.com\\@good.com" "evil.com\\" none) ∧
      Net.Url.registeredName? "http://evil.com\\@good.com".toList = some "evil.com".toList :=
  ⟨by decide +kernel, by decide +kernel⟩

end Kind
end Covenant
