import Covenant.Net.Url
import Covenant.Proofs.Net.Host
import Mathlib.Data.List.DropRight

/-! The host of a URL, as it is looked up and as it stands among the components. -/

namespace Covenant.Net

namespace Url

/-- The text without control characters at its ends. -/
def trimmed (cs : List Char) : List Char := (cs.dropWhile isControl).rdropWhile isControl

/-- The host that stands behind the slashes, for the schemes with known rules, and what stands from
its colon on. -/
def writtenHost (rest : List Char) : List Char × List Char :=
  splitHost false (afterUser ((rest.dropWhile isSlash).takeWhile (!endsAuthority true ·)))

/-- The name of the host that a URL with known rules leads to, if it is no address. -/
def registeredName? (cs : List Char) : Option (List Char) := do
  let (scheme, rest) ← splitScheme? (trimmed cs)
  let host := (writtenHost rest).1
  if specialSchemes.contains scheme && (Host.bracketed? host).isNone then
    let domain ← Host.domain? host
    if domain.isEmpty || Host.endsInNumber domain then none else some (Host.toAscii domain)
  else none

theorem isValid_special (h : isValid cs) (hs : splitScheme? (trimmed cs) = some (scheme, rest))
    (hk : scheme ∈ specialSchemes) :
    Host.isSpecial (writtenHost rest).1 ∧
      isPort (((writtenHost rest).2.drop 1).takeWhile (· != '\\')) := by
  have hfile : scheme ≠ "file" := by
    rintro rfl
    exact absurd hk (by decide)
  have hv : isValid cs = hasHost true (rest.dropWhile isSlash) := by
    rw [trimmed, List.rdropWhile] at hs
    rw [isValid]
    simp only [hs]
    rw [if_neg hfile, if_pos (List.contains_iff_mem.mpr hk)]
  rw [hv] at h
  exact Bool.and_eq_true_iff.mp h

/-- The host of a valid URL with known rules is an address or has a name. -/
theorem host_of_isValid (h : isValid cs) (hs : splitScheme? (trimmed cs) = some (scheme, rest))
    (hk : scheme ∈ specialSchemes) :
    (∃ address, Host.bracketed? (writtenHost rest).1 = some address ∧ isIpv6 address) ∨
      (∃ domain, Host.domain? (writtenHost rest).1 = some domain ∧ Host.endsInNumber domain ∧
        Host.isIpv4 domain) ∨
      ∃ host, registeredName? cs = some host := by
  have hhost := (isValid_special h hs hk).1
  unfold Host.isSpecial at hhost
  cases hb : Host.bracketed? (writtenHost rest).1 with
  | some address =>
    rw [hb] at hhost
    exact .inl ⟨address, rfl, hhost⟩
  | none =>
    rw [hb] at hhost
    cases hd : Host.domain? (writtenHost rest).1 with
    | none =>
      rw [hd] at hhost
      cases hhost
    | some domain =>
      rw [hd] at hhost
      cases domain with
      | nil => cases hhost
      | cons c cs' =>
        dsimp only at hhost
        split at hhost
        · exact .inr (.inl ⟨c :: cs', rfl, ‹_›, hhost⟩)
        · rename_i hn
          refine .inr (.inr ⟨Host.toAscii (c :: cs'), ?_⟩)
          simp [registeredName?, hs, hk, hb, hd, hn]

theorem registeredName?_eq_some (h : registeredName? cs = some host) :
    ∃ scheme rest domain, splitScheme? (trimmed cs) = some (scheme, rest) ∧
      scheme ∈ specialSchemes ∧ Host.domain? (writtenHost rest).1 = some domain ∧
      domain ≠ [] ∧ host = Host.toAscii domain := by
  obtain ⟨⟨scheme, rest⟩, hs, h⟩ := Option.bind_eq_some_iff.mp h
  dsimp only at h
  split at h
  · rename_i hk
    obtain ⟨domain, hd, h⟩ := Option.bind_eq_some_iff.mp h
    split at h
    · cases h
    · rename_i hn
      cases h
      rw [Bool.and_eq_true, List.contains_iff_mem] at hk
      rw [Bool.or_eq_true, not_or, List.isEmpty_iff] at hn
      exact ⟨scheme, rest, domain, hs, hk.1, hd, hn.1, rfl⟩
  · cases h

theorem not_isDenied_of_registeredName? (h : registeredName? cs = some host) (hc : c ∈ host) :
    ¬Host.isDenied c := by
  obtain ⟨_, _, domain, _, _, hd, _, rfl⟩ := registeredName?_eq_some h
  exact Host.not_isDenied_of_mem_toAscii (Host.domain?_eq_some hd).2 hc

theorem splitScheme?_eq_some : splitScheme? cs = some (scheme, rest) ↔
    ∃ name, cs = name ++ ':' :: rest ∧ (∀ c ∈ name, isSchemeChar c) ∧
      name.head?.any isAsciiLetter ∧ scheme = String.ofList (name.map lowerAscii) := by
  constructor
  · intro h
    have hcs := List.takeWhile_append_dropWhile (p := isSchemeChar) (l := cs)
    have hdrop (as bs : List Char) : (as ++ bs).drop as.length = bs := List.drop_left
    replace hdrop := hdrop (cs.takeWhile isSchemeChar) (cs.dropWhile isSchemeChar)
    rw [hcs] at hdrop
    rw [splitScheme?, hdrop] at h
    split at h
    · rename_i hd
      split at h
      · rename_i hl
        cases h
        exact ⟨_, hd ▸ hcs.symm, fun _ => List.mem_takeWhile_imp, hl, rfl⟩
      · cases h
    · cases h
  · rintro ⟨name, rfl, hname, hl, rfl⟩
    have htake : (name ++ ':' :: rest).takeWhile isSchemeChar = name := by
      rw [List.takeWhile_append_of_pos hname, List.takeWhile_cons_of_neg (by decide),
        List.append_nil]
    rw [splitScheme?, htake, List.drop_left]
    exact if_pos hl

theorem splitScheme?_append (h : splitScheme? cs = some (scheme, rest)) (ds : List Char) :
    splitScheme? (cs ++ ds) = some (scheme, rest ++ ds) := by
  obtain ⟨name, rfl, hname⟩ := splitScheme?_eq_some.mp h
  exact splitScheme?_eq_some.mpr ⟨name, List.append_assoc _ _ _, hname⟩

theorem exists_trimmed_append (cs : List Char) :
    ∃ controls, cs.dropWhile isControl = trimmed cs ++ controls ∧ ∀ c ∈ controls, isControl c :=
  ⟨_, List.rdropWhile_append_rtakeWhile.symm, fun _ hc => List.mem_rtakeWhile_imp hc⟩

theorem splitHost_of_notMem (h : '[' ∉ cs) :
    splitHost false cs = (cs.takeWhile (· != ':'), cs.dropWhile (· != ':')) := by
  induction cs with
  | nil => rfl
  | cons c cs ih =>
    obtain ⟨hc, h⟩ := not_or.mp (mt List.mem_cons.mpr h)
    rw [splitHost]
    by_cases hcolon : c = ':'
    · rw [if_pos ⟨hcolon, rfl⟩, hcolon]
      rfl
    · have hinside : (if c = '[' then true else if c = ']' then false else false) = false := by
        rw [if_neg (Ne.symm hc), ite_self]
      have hne : (c != ':') = true := bne_iff_ne.mpr hcolon
      rw [if_neg fun hn => hcolon hn.1, hinside]
      dsimp only
      rw [ih h, List.takeWhile_cons, List.dropWhile_cons, if_pos hne, if_pos hne]

theorem afterUser_append (h : '@' ∉ ds) (cs : List Char) :
    afterUser (cs ++ ds) = afterUser cs ++ ds := by
  have hds : ∀ c ∈ ds.reverse, (c != '@') = true := fun c hc =>
    bne_iff_ne.mpr fun he => h (he ▸ List.mem_reverse.mp hc)
  rw [afterUser, afterUser, List.reverse_append, List.takeWhile_append_of_pos hds,
    List.reverse_append, List.reverse_reverse]

theorem afterUser_subset (cs : List Char) : afterUser cs ⊆ cs := fun _ hc =>
  List.mem_reverse.mp (List.takeWhile_subset _ (List.mem_reverse.mp hc))

theorem takeWhile_endsAuthority {cs : List Char}
    (h : '\\' ∉ cs.takeWhile (!endsAuthority false ·)) :
    cs.takeWhile (!endsAuthority true ·) = cs.takeWhile (!endsAuthority false ·) := by
  induction cs with
  | nil => rfl
  | cons c cs ih =>
    by_cases hc : endsAuthority false c
    · have ht : endsAuthority true c := by
        rw [endsAuthority, Bool.false_and, Bool.or_false] at hc
        rw [endsAuthority, hc, Bool.true_or]
      rw [List.takeWhile_cons_of_neg (by simp [ht]), List.takeWhile_cons_of_neg (by simp [hc])]
    · rw [List.takeWhile_cons_of_pos (by simp [hc]), List.mem_cons, not_or] at h
      have ht : endsAuthority true c = endsAuthority false c := by
        simp [endsAuthority, Ne.symm h.1]
      rw [List.takeWhile_cons, List.takeWhile_cons, ht, ih h.2]

/-- Control characters at the end stay behind what is taken. -/
theorem takeWhile_append_controls (h : ∀ c ∈ ds, isControl c) (p : Char → Bool) (cs : List Char) :
    ∃ controls, (cs ++ ds).takeWhile p = cs.takeWhile p ++ controls ∧
      ∀ c ∈ controls, isControl c := by
  rw [List.takeWhile_append]
  split
  · rename_i hl
    have hself := (List.takeWhile_prefix p).eq_of_length hl
    exact ⟨ds.takeWhile p, by rw [hself], fun c hc => h c (List.takeWhile_subset p hc)⟩
  · exact ⟨[], (List.append_nil _).symm, nofun⟩

end Url

namespace UrlParts

/-- What stands between two slashes behind the scheme and the next separator. -/
def authorityOf : List Char → List Char
  | '/' :: '/' :: rest => rest.takeWhile (!Url.endsAuthority false ·)
  | _ => []

theorem authorityOf_eq_nil (h : ∀ rest, cs = '/' :: '/' :: rest → False) : authorityOf cs = [] := by
  unfold authorityOf
  split
  · exact absurd rfl (h _)
  · rfl

def authority (cs : List Char) : List Char :=
  let cs := cs.dropWhile Url.isControl
  authorityOf ((Url.splitScheme? cs).elim cs (·.2))

theorem splitLast_snd (cs : List Char) : (splitLast '@' cs).2 = Url.afterUser cs := by
  unfold splitLast splitFirst Url.afterUser
  cases hd : cs.reverse.dropWhile (· != '@') with
  | nil =>
    have ht := List.takeWhile_append_dropWhile (p := (· != '@')) (l := cs.reverse)
    rw [hd, List.append_nil] at ht
    rw [ht, List.reverse_reverse]
  | cons c rest => rfl

/-- The host and the port. -/
def address (cs : List Char) : List Char := (splitLast '@' (authority cs)).2

theorem read?_eq_some (h : read? cs = some parts) :
    parts.host = some? (lowerHost (hostAndPort (address cs)).1) ∧
      ∀ c ∈ (hostAndPort (address cs)).2, isAsciiDigit c := by
  have hdigits {port : List Char} {b : Bool} (h : ¬(!port.all isAsciiDigit || b) = true) :
      ∀ c ∈ port, isAsciiDigit c := by
    rw [Bool.or_eq_true, not_or, Bool.not_eq_true', Bool.not_eq_false, List.all_eq_true] at h
    exact h.1
  unfold read? at h
  rw [address, authority]
  dsimp only at h ⊢
  cases hs : Url.splitScheme? (cs.dropWhile Url.isControl)
  all_goals
    rw [hs] at h
    obtain ⟨_, ⟨⟩, h⟩ := Option.bind_eq_some_iff.mp h
    dsimp only [Option.elim]
    split at h
    · rename_i heq
      dsimp only at heq
      rw [Option.ite_none_left_eq_some, Option.ite_none_left_eq_some] at h
      obtain ⟨_, hport, h⟩ := h
      cases h
      rw [heq]
      exact ⟨rfl, hdigits hport⟩
    · rename_i hne
      rw [Option.ite_none_left_eq_some, Option.ite_none_left_eq_some] at h
      obtain ⟨_, hport, h⟩ := h
      cases h
      rw [authorityOf_eq_nil hne]
      exact ⟨rfl, hdigits hport⟩

theorem hostAndPort_of_notMem (h : '[' ∉ cs) :
    (hostAndPort cs).1 = cs.takeWhile (· != ':') ∧
      ∀ c ∈ cs, c ∈ (hostAndPort cs).1 ∨ c = ':' ∨ c ∈ (hostAndPort cs).2 := by
  have hall : ∀ c ∈ cs, (c != '[') = true := fun c hc => bne_iff_ne.mpr fun he => h (he ▸ hc)
  have hbracket : splitFirst '[' cs = (cs, none) := by
    rw [splitFirst, List.dropWhile_eq_nil_iff.mpr hall]
  have hcs := List.takeWhile_append_dropWhile (p := (· != ':')) (l := cs)
  rw [hostAndPort, hbracket]
  dsimp only
  rw [splitFirst]
  cases hd : cs.dropWhile (· != ':') with
  | nil =>
    rw [hd, List.append_nil] at hcs
    exact ⟨hcs.symm, fun c hc => .inl hc⟩
  | cons d port =>
    have hcolon : d = ':' := by
      have hhead := List.head?_dropWhile_not (· != ':') cs
      rw [hd] at hhead
      simpa using hhead
    refine ⟨rfl, fun c hc => ?_⟩
    rw [← hcs, hd, List.mem_append, List.mem_cons, hcolon] at hc
    exact hc

/-- Where the authority has no backslash and no bracket, both readings of it agree, but for control
characters at the end of the text. -/
theorem address_eq_append {scheme : String} {rest : List Char}
    (hs : Url.splitScheme? (Url.trimmed cs) = some (scheme, rest)) (hne : authority cs ≠ [])
    (hb : ∀ c ∈ authority cs, c ≠ '\\' ∧ c ≠ '[') :
    ∃ written controls, address cs = written ++ controls ∧ (∀ c ∈ controls, Url.isControl c) ∧
      Url.writtenHost rest = (written.takeWhile (· != ':'), written.dropWhile (· != ':')) := by
  obtain ⟨controls, hcs, hcontrols⟩ := Url.exists_trimmed_append cs
  have hauthority : authority cs = authorityOf (rest ++ controls) := by
    rw [authority, hcs, Url.splitScheme?_append hs]
    rfl
  obtain ⟨behind, hslashes⟩ : ∃ behind, rest ++ controls = '/' :: '/' :: behind := by
    by_contra hno
    exact hne (hauthority.trans (authorityOf_eq_nil fun behind he => hno ⟨behind, he⟩))
  -- no slash is a control character
  obtain ⟨behind, rfl⟩ : ∃ behind, rest = '/' :: '/' :: behind := by
    have hslash {ds : List Char} : [] ++ controls ≠ '/' :: ds := by
      rintro rfl
      exact absurd (hcontrols _ List.mem_cons_self) (by decide)
    cases rest with
    | nil => exact absurd hslashes hslash
    | cons a rest =>
      rw [List.cons_append, List.cons.injEq] at hslashes
      obtain ⟨rfl, hslashes⟩ := hslashes
      cases rest with
      | nil => exact absurd hslashes hslash
      | cons b rest =>
        rw [List.cons_append, List.cons.injEq] at hslashes
        obtain ⟨rfl, _⟩ := hslashes
        exact ⟨rest, rfl⟩
  replace hauthority : authority cs =
      (behind ++ controls).takeWhile (!Url.endsAuthority false ·) := hauthority
  have hfirst : behind.dropWhile Url.isSlash = behind := by
    cases behind with
    | nil => rfl
    | cons c behind =>
      refine List.dropWhile_cons_of_neg ?_
      by_cases hc : Url.endsAuthority false c
      · rw [List.cons_append, List.takeWhile_cons_of_neg (by simp [hc])] at hauthority
        exact absurd hauthority hne
      · rw [List.cons_append, List.takeWhile_cons_of_pos (by simp [hc])] at hauthority
        have hback := (hb c (hauthority ▸ List.mem_cons_self)).1
        rw [Url.endsAuthority, Bool.false_and, Bool.or_false, Bool.or_eq_true, Bool.or_eq_true,
          not_or, not_or, beq_iff_eq] at hc
        rw [Url.isSlash, Bool.or_eq_true, beq_iff_eq, beq_iff_eq]
        exact not_or.mpr ⟨hc.1.1, hback⟩
  obtain ⟨tail, htail, hcontrols⟩ := Url.takeWhile_append_controls hcontrols
    (!Url.endsAuthority false ·) behind
  rw [htail] at hauthority
  have hplain : ∀ c ∈ behind.takeWhile (!Url.endsAuthority false ·), c ≠ '\\' ∧ c ≠ '[' :=
    fun c hc => hb c (hauthority ▸ List.mem_append_left tail hc)
  refine ⟨Url.afterUser (behind.takeWhile (!Url.endsAuthority false ·)), tail, ?_, hcontrols, ?_⟩
  · rw [address, splitLast_snd, hauthority,
      Url.afterUser_append fun hm => absurd (hcontrols _ hm) (by decide)]
  · have hdrop : ('/' :: '/' :: behind).dropWhile Url.isSlash = behind := hfirst
    rw [Url.writtenHost, hdrop, Url.takeWhile_endsAuthority fun hm => (hplain _ hm).1 rfl,
      Url.splitHost_of_notMem]
    exact fun hm => (hplain _ (Url.afterUser_subset _ hm)).2 rfl

theorem address_subset (cs : List Char) : address cs ⊆ authority cs := by
  rw [address, splitLast_snd]
  exact Url.afterUser_subset _

theorem some?_eq_some (h : some? cs = some (String.ofList ds)) : cs = ds := by
  unfold some? at h
  split at h
  · cases h
  · have := congrArg String.toList (Option.some.inj h)
    rwa [String.toList_ofList, String.toList_ofList] at this

theorem lowerHost_of_notMem (h : '%' ∉ cs) : lowerHost cs = lower cs := by
  have hall : ∀ c ∈ cs, (c != '%') = true := fun c hc => bne_iff_ne.mpr fun he => h (he ▸ hc)
  rw [lowerHost, List.takeWhile_eq_self_iff.mpr hall, List.dropWhile_eq_nil_iff.mpr hall,
    List.append_nil]

/-- Lower case leaves percent signs and control characters. -/
theorem mem_lowerHost (ha : ∀ c ∈ cs, c.toNat < 128) (hc : c ∈ cs)
    (h : c = '%' ∨ '%' ∉ cs ∧ Url.isControl c) : c ∈ lowerHost cs := by
  rcases h with rfl | ⟨hp, h⟩
  · rw [← List.takeWhile_append_dropWhile (p := (· != '%')) (l := cs), List.mem_append] at hc
    refine List.mem_append_right _ (hc.resolve_left fun hm => ?_)
    exact absurd (List.mem_takeWhile_imp hm) (by decide)
  · rw [lowerHost_of_notMem hp, lower_of_ascii ha, List.mem_map]
    refine ⟨c, hc, if_neg fun hu => ?_⟩
    rw [Url.isControl, decide_eq_true_eq] at h
    rw [isAsciiUpper, Bool.and_eq_true, decide_eq_true_eq] at hu
    omega

theorem authority_subset (cs : List Char) : authority cs ⊆ cs := by
  have hof (ds : List Char) : authorityOf ds ⊆ ds := by
    unfold authorityOf
    split
    · rename_i rest
      exact fun c hc => List.mem_cons_of_mem _ (List.mem_cons_of_mem _ (List.takeWhile_subset _ hc))
    · exact List.nil_subset _
  have hcs := List.dropWhile_subset (l := cs) Url.isControl
  rw [authority]
  cases hs : Url.splitScheme? (cs.dropWhile Url.isControl) with
  | none => exact fun _ hc => hcs (hof _ hc)
  | some found =>
    obtain ⟨scheme, rest⟩ := found
    obtain ⟨name, he, _⟩ := Url.splitScheme?_eq_some.mp hs
    intro c hc
    refine hcs ?_
    rw [he]
    exact List.mem_append_right name (List.mem_cons_of_mem _ (hof rest hc))

variable {name : List Char} (ha : ∀ c ∈ cs, c.toNat < 128)
  (hn : Url.registeredName? cs = some name) (hr : read? cs = some parts)
  (hb : ∀ c ∈ authority cs, c ≠ '\\' ∧ c ≠ '[')
include ha hn hr hb

/-- A host that is written in plain characters is the one that is looked up. -/
theorem host_of_plain (hne : authority cs ≠ [])
    (hplain : ∀ c ∈ address cs, c ≠ '%' ∧ ¬Url.isControl c) :
    parts.host = some (String.ofList name) := by
  obtain ⟨scheme, rest, domain, hs, _, hd, hdne, rfl⟩ := Url.registeredName?_eq_some hn
  obtain ⟨written, controls, haddress, hcontrols, hwritten⟩ := address_eq_append hs hne hb
  obtain rfl : controls = [] := List.eq_nil_iff_forall_not_mem.mpr fun c hc =>
    (hplain c (haddress ▸ List.mem_append_right written hc)).2 (hcontrols c hc)
  rw [List.append_nil] at haddress
  rw [hwritten, ← haddress] at hd
  obtain ⟨htake, _⟩ := hostAndPort_of_notMem fun hm => (hb _ (address_subset cs hm)).2 rfl
  have hmem : ∀ c ∈ (address cs).takeWhile (· != ':'), c ∈ address cs := fun c hc =>
    List.takeWhile_subset _ hc
  have hascii : ∀ c ∈ (address cs).takeWhile (· != ':'), c.toNat < 128 := fun c hc =>
    ha c (authority_subset cs (address_subset cs (hmem c hc)))
  have hpercent : '%' ∉ (address cs).takeWhile (· != ':') := fun hm => (hplain _ (hmem _ hm)).1 rfl
  have hdomain := Host.domain?_of_ascii hascii hpercent hd
  have hname : Host.toAscii domain = domain := by
    rw [hdomain]
    exact Host.toAscii_map_lowerAscii hascii
  rw [(read?_eq_some hr).1, htake, lowerHost_of_notMem hpercent, lower_of_ascii hascii, ← hdomain,
    hname]
  exact if_neg (by simp [hdne])

/-- The host that is looked up has no percent sign and no control character. -/
theorem plain_of_host (hhost : parts.host = some (String.ofList name)) :
    ∀ c ∈ address cs, c ≠ '%' ∧ ¬Url.isControl c := by
  obtain ⟨hread, hport⟩ := read?_eq_some hr
  obtain ⟨htake, hparts⟩ := hostAndPort_of_notMem fun hm => (hb _ (address_subset cs hm)).2 rfl
  have hlower := some?_eq_some (hread ▸ hhost)
  have hdenied : ∀ c ∈ lowerHost (hostAndPort (address cs)).1, ¬Host.isDenied c := fun c hc =>
    Url.not_isDenied_of_registeredName? hn (hlower ▸ hc)
  have hascii : ∀ c ∈ (hostAndPort (address cs)).1, c.toNat < 128 := fun c hc =>
    ha c (authority_subset cs (address_subset cs (List.takeWhile_subset _ (htake ▸ hc))))
  have hpercent : '%' ∉ (hostAndPort (address cs)).1 := fun hm =>
    hdenied _ (mem_lowerHost hascii hm (.inl rfl)) (by decide)
  intro c hc
  rcases hparts c hc with hin | rfl | hin
  · refine ⟨fun he => hpercent (he ▸ hin), fun hcontrol => ?_⟩
    refine hdenied c (mem_lowerHost hascii hin (.inr ⟨hpercent, hcontrol⟩)) ?_
    rw [Url.isControl] at hcontrol
    rw [Host.isDenied, hcontrol, Bool.true_or, Bool.true_or]
  · decide
  · have hdigit := hport c hin
    rw [isAsciiDigit, Bool.and_eq_true, decide_eq_true_eq, decide_eq_true_eq] at hdigit
    refine ⟨?_, ?_⟩
    · rintro rfl
      exact absurd hdigit (by decide)
    · rw [Url.isControl, decide_eq_true_eq]
      omega

/-- The host among the components is the one that is looked up if and only if something stands behind
two slashes and the host is written without percent signs and control characters. -/
theorem host_eq_iff : parts.host = some (String.ofList name) ↔
    authority cs ≠ [] ∧ ∀ c ∈ address cs, c ≠ '%' ∧ ¬Url.isControl c := by
  constructor
  · intro hhost
    refine ⟨fun hnil => ?_, plain_of_host ha hn hr hb hhost⟩
    rw [(read?_eq_some hr).1, address, hnil] at hhost
    cases hhost
  · rintro ⟨hne, hplain⟩
    exact host_of_plain ha hn hr hb hne hplain

end UrlParts
end Covenant.Net
