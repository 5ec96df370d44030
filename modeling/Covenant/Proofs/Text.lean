import Covenant.CodeSet
import Covenant.Text
import Mathlib.Algebra.Group.Nat.Defs
import Mathlib.Data.List.DropRight
import Mathlib.Data.List.TakeWhile
import Mathlib.Tactic.Ring

/-! Trimming, splitting and joining texts. -/

namespace Covenant

section Strip

variable {p : α → Bool} {as : List α}

theorem rdropWhile_dropWhile_eq_self (hf : ∀ a ∈ as.head?, ¬p a) (hl : ∀ a ∈ as.getLast?, ¬p a) :
    (as.dropWhile p).rdropWhile p = as := by
  have hd : as.dropWhile p = as := by
    cases as with
    | nil => rfl
    | cons a as => exact List.dropWhile_cons_of_neg (hf a rfl)
  rw [hd, List.rdropWhile_eq_self_iff]
  exact fun hne => hl _ (List.getLast_mem_getLast? hne)

theorem rdropWhile_dropWhile_of_none (h : ∀ a ∈ as, ¬p a) :
    (as.dropWhile p).rdropWhile p = as :=
  rdropWhile_dropWhile_eq_self (fun a ha => h a (List.mem_of_mem_head? ha))
    fun a ha => h a (List.mem_of_mem_getLast? ha)

/-- What is stripped once is stripped already. -/
theorem rdropWhile_dropWhile_idem (p : α → Bool) (as : List α) :
    ((((as.dropWhile p).rdropWhile p).dropWhile p).rdropWhile p) =
      (as.dropWhile p).rdropWhile p := by
  refine rdropWhile_dropWhile_eq_self (fun a ha => ?_) fun a ha => ?_
  · obtain ⟨rest, hr⟩ := List.rdropWhile_prefix p (as.dropWhile p)
    have hhead : (as.dropWhile p).head? = some a := by
      rw [← hr, List.head?_append, Option.mem_def.mp ha, Option.some_or]
    have hnot := List.head?_dropWhile_not p as
    rw [hhead] at hnot
    simpa using hnot
  · have hne : (as.dropWhile p).rdropWhile p ≠ [] := by
      rintro hn
      rw [hn] at ha
      cases ha
    rw [List.getLast?_eq_some_getLast hne, Option.mem_some_iff] at ha
    exact ha ▸ List.rdropWhile_last_not p _ hne

theorem length_rdropWhile_dropWhile_le (p : α → Bool) (as : List α) :
    ((as.dropWhile p).rdropWhile p).length ≤ as.length :=
  (List.rdropWhile_prefix p _).length_le.trans (List.dropWhile_suffix p).length_le

theorem filterMap_dropWhile {f : α → Option β} (h : ∀ a, p a → f a = none) (as : List α) :
    (as.dropWhile p).filterMap f = as.filterMap f := by
  induction as with
  | nil => rfl
  | cons a as ih =>
    by_cases ha : p a
    · rw [List.dropWhile_cons_of_pos ha, List.filterMap_cons_none (h a ha), ih]
    · rw [List.dropWhile_cons_of_neg ha]

/-- What is stripped off at the ends does not matter to a function that leaves it out anyway. -/
theorem filterMap_rdropWhile_dropWhile {f : α → Option β} (h : ∀ a, p a → f a = none)
    (as : List α) : ((as.dropWhile p).rdropWhile p).filterMap f = as.filterMap f := by
  rw [List.rdropWhile, List.filterMap_reverse, filterMap_dropWhile h, List.filterMap_reverse,
    List.reverse_reverse, filterMap_dropWhile h]

end Strip

theorem trimLeft_cons_of_blank (h : isBlank c) : trimLeft (c :: cs) = trimLeft cs := by
  rw [trimLeft, List.dropWhile_cons_of_pos h]
  rfl

theorem trimLeft_cons_of_not_blank (h : ¬isBlank c) : trimLeft (c :: cs) = c :: cs :=
  List.dropWhile_cons_of_neg h

theorem trimRight_cons (c : Char) (cs : List Char) :
    trimRight (c :: cs) = if isBlank c ∧ trimRight cs = [] then [] else c :: trimRight cs := by
  rw [trimRight, trimRight, List.reverse_cons, List.dropWhile_append]
  by_cases h : cs.reverse.dropWhile isBlank = []
  · by_cases hc : isBlank c
    · simp [h, hc]
    · simp [h, hc]
  · have he : (cs.reverse.dropWhile isBlank).isEmpty = false := by simp [h]
    simp [h, he]

theorem trimRight_cons_of_not_blank (h : ¬isBlank c) :
    trimRight (c :: cs) = c :: trimRight cs := by
  rw [trimRight_cons, if_neg fun hc => h hc.1]

theorem trimLeft_trimRight (cs : List Char) : trimLeft (trimRight cs) = trim cs := by
  induction cs with
  | nil => rfl
  | cons c cs ih =>
    by_cases hc : isBlank c
    · rw [trim, trimLeft_cons_of_blank hc, ← trim, ← ih, trimRight_cons]
      split
      · rename_i h
        rw [h.2]
      · exact trimLeft_cons_of_blank hc
    · rw [trim, trimLeft_cons_of_not_blank hc, trimRight_cons_of_not_blank hc,
        trimLeft_cons_of_not_blank hc]

theorem trimLeft_idem (cs : List Char) : trimLeft (trimLeft cs) = trimLeft cs := by
  induction cs with
  | nil => rfl
  | cons c cs ih =>
    by_cases hc : isBlank c
    · rw [trimLeft_cons_of_blank hc, ih]
    · rw [trimLeft_cons_of_not_blank hc, trimLeft_cons_of_not_blank hc]

theorem trimRight_idem (cs : List Char) : trimRight (trimRight cs) = trimRight cs := by
  rw [trimRight, trimRight, List.reverse_reverse]
  exact congrArg List.reverse (trimLeft_idem cs.reverse)

theorem trim_trimLeft (cs : List Char) : trim (trimLeft cs) = trim cs := by
  rw [trim, trimLeft_idem, ← trim]

theorem trim_trimRight (cs : List Char) : trim (trimRight cs) = trim cs := by
  rw [← trimLeft_trimRight, trimRight_idem, trimLeft_trimRight]

theorem trim_idem (cs : List Char) : trim (trim cs) = trim cs := by
  rw [← trimLeft_trimRight cs, trim_trimLeft, trim_trimRight, trimLeft_trimRight]

/-- What is left on the left ends a run of blanks. -/
theorem trimLeft_eq_cons (h : trimLeft cs = c :: rest) : ¬isBlank c := by
  induction cs with
  | nil => cases h
  | cons d cs ih =>
    by_cases hd : isBlank d
    · exact ih ((trimLeft_cons_of_blank hd).symm.trans h)
    · rw [trimLeft_cons_of_not_blank hd] at h
      cases h
      exact hd

theorem trim_eq_nil_iff : trim cs = [] ↔ ∀ c ∈ cs, isBlank c := by
  constructor
  · intro h
    cases ht : trimLeft cs with
    | nil => exact List.dropWhile_eq_nil_iff.mp ht
    | cons c rest =>
      rw [trim, ht, trimRight_cons_of_not_blank (trimLeft_eq_cons ht)] at h
      cases h
  · intro h
    rw [trim, trimLeft, List.dropWhile_eq_nil_iff.mpr h]
    rfl

theorem trim_of_ends (hf : ∀ c ∈ cs.head?, ¬isBlank c) (hl : ∀ c ∈ cs.getLast?, ¬isBlank c) :
    trim cs = cs :=
  rdropWhile_dropWhile_eq_self hf hl

theorem trim_of_no_blank (h : ∀ c ∈ cs, ¬isBlank c) : trim cs = cs :=
  rdropWhile_dropWhile_of_none h

theorem trim_between {before after : List Char} (hb : ∀ c ∈ before, isBlank c)
    (ha : ∀ c ∈ after, isBlank c) (cs : List Char) : trim (before ++ cs ++ after) = trim cs := by
  have hleft (ds : List Char) : trimLeft (before ++ ds) = trimLeft ds :=
    List.dropWhile_append_of_pos hb
  have hright : trimRight (cs ++ after) = trimRight cs := by
    rw [trimRight, List.reverse_append,
      List.dropWhile_append_of_pos fun c hc => ha c (List.mem_reverse.mp hc), ← trimRight]
  rw [← trim_trimLeft, List.append_assoc, hleft, trim_trimLeft, ← trim_trimRight, hright,
    trim_trimRight]

theorem not_isBlank_of_digit (h : isAsciiDigit c) : ¬isBlank c := by
  rw [isAsciiDigit, Bool.and_eq_true, decide_eq_true_eq, decide_eq_true_eq] at h
  simp only [isBlank, Bool.or_eq_true, Bool.and_eq_true, decide_eq_true_eq, beq_iff_eq]
  omega

theorem isHexDigit_iff :
    isHexDigit c ↔ (48 ≤ c.toNat ∧ c.toNat ≤ 57) ∨ (97 ≤ c.toNat ∧ c.toNat ≤ 102) ∨
      (65 ≤ c.toNat ∧ c.toNat ≤ 70) := by
  rw [isHexDigit, hexDigit?]
  split
  · simp [*]
  · split
    · simp [*]
    · simp [*]

theorem not_isBlank_of_isHexDigit (h : isHexDigit c) : ¬isBlank c := by
  rw [isHexDigit_iff] at h
  simp only [isBlank, Bool.or_eq_true, Bool.and_eq_true, decide_eq_true_eq, beq_iff_eq]
  omega

theorem mem_of_mem_trim (h : c ∈ trim cs) : c ∈ cs := by
  rw [trim, trimRight, List.mem_reverse] at h
  have h := List.mem_reverse.mp (List.dropWhile_subset _ h)
  exact List.dropWhile_subset _ h

theorem trim_of_trimLeft (h : trimLeft cs = c :: rest) : trim cs = c :: trimRight rest := by
  rw [trim, h, trimRight_cons_of_not_blank (trimLeft_eq_cons h)]

theorem trimLeft_of_trim (h : trim cs = c :: rest) : ∃ r, trimLeft cs = c :: r := by
  cases ht : trimLeft cs with
  | nil =>
    rw [trim, ht] at h
    cases h
  | cons d r =>
    rw [trim_of_trimLeft ht] at h
    cases h
    exact ⟨r, rfl⟩

theorem trim_append_of_cons (h : trim cs = c :: rest) (ds : List Char) :
    ∃ r, trim (cs ++ ds) = c :: r := by
  obtain ⟨r, hr⟩ := trimLeft_of_trim h
  have ht : trimLeft (cs ++ ds) = c :: (r ++ ds) := by
    rw [trimLeft] at hr ⊢
    rw [List.dropWhile_append, hr]
    rfl
  exact ⟨_, trim_of_trimLeft ht⟩

theorem toNat_lowerAscii (c : Char) :
    (lowerAscii c).toNat = if isAsciiUpper c then c.toNat + 32 else c.toNat := by
  rw [lowerAscii]
  split
  · rename_i h
    rw [isAsciiUpper, Bool.and_eq_true, decide_eq_true_eq, decide_eq_true_eq] at h
    have hv : (c.toNat + 32).isValidChar := .inl (by omega)
    rw [Char.ofNat, dif_pos hv]
    rfl
  · rfl

theorem lower_of_ascii (h : ∀ c ∈ cs, c.toNat < 128) : lower cs = cs.map lowerAscii := by
  have hfrom (before : List Char) : lowerFrom before cs = cs.map lowerAscii := by
    induction cs generalizing before with
    | nil => rfl
    | cons c cs ih =>
      obtain ⟨hc, h⟩ := List.forall_mem_cons.mp h
      rw [lowerFrom, ih h, if_neg (by omega), if_neg (by omega), lowerChar, if_pos hc]
      rfl
  exact hfrom []

theorem splitWhere_cons_of_sep (h : p c) : splitWhere p (c :: cs) = [] :: splitWhere p cs := by
  rw [splitWhere, if_pos h]

theorem splitWhere_ne_nil (p : Char → Bool) (cs : List Char) : splitWhere p cs ≠ [] := by
  cases cs with
  | nil => simp [splitWhere]
  | cons c cs =>
    rw [splitWhere]
    split
    · simp
    · split <;> simp

theorem splitWhere_cons_of_not_sep (h : ¬p c) :
    splitWhere p (c :: cs) = (splitWhere p cs).modifyHead (c :: ·) := by
  rw [splitWhere, if_neg h]
  cases hs : splitWhere p cs with
  | nil => exact absurd hs (splitWhere_ne_nil p cs)
  | cons part parts => rfl

theorem splitWhere_of_no_sep (h : ∀ c ∈ cs, ¬p c) : splitWhere p cs = [cs] := by
  induction cs with
  | nil => rfl
  | cons c cs ih =>
    rw [splitWhere_cons_of_not_sep (h c (by simp)), ih fun d hd => h d (by simp [hd])]
    rfl

theorem splitWhere_append (h : ∀ c ∈ cs, ¬p c) (hs : p s) (rest : List Char) :
    splitWhere p (cs ++ s :: rest) = cs :: splitWhere p rest := by
  induction cs with
  | nil => exact splitWhere_cons_of_sep hs
  | cons c cs ih =>
    rw [List.cons_append, splitWhere_cons_of_not_sep (h c (by simp)),
      ih fun d hd => h d (by simp [hd])]
    rfl

/-- What is in a part is in the text, and is no separator. -/
theorem of_mem_splitWhere (h : part ∈ splitWhere p cs) (hc : c ∈ part) : c ∈ cs ∧ ¬p c := by
  induction cs generalizing part with
  | nil =>
    rw [List.mem_singleton.mp h] at hc
    cases hc
  | cons d cs ih =>
    by_cases hd : p d
    · rw [splitWhere_cons_of_sep hd] at h
      rcases List.mem_cons.mp h with rfl | h
      · cases hc
      · exact (ih h hc).imp_left (List.mem_cons_of_mem d)
    · rw [splitWhere_cons_of_not_sep hd] at h
      cases hs : splitWhere p cs with
      | nil => exact absurd hs (splitWhere_ne_nil p cs)
      | cons first parts =>
        rw [hs] at h ih
        rcases List.mem_cons.mp h with rfl | h
        · rcases List.mem_cons.mp hc with rfl | hc
          · exact ⟨List.mem_cons_self, hd⟩
          · exact (ih List.mem_cons_self hc).imp_left (List.mem_cons_of_mem d)
        · exact (ih (List.mem_cons_of_mem first h) hc).imp_left (List.mem_cons_of_mem d)

theorem mem_of_mem_splitWhere (h : part ∈ splitWhere p cs) (hc : c ∈ part) : c ∈ cs :=
  (of_mem_splitWhere h hc).1

theorem splitWhere_eq_splitOnP (p : Char → Bool) (cs : List Char) :
    splitWhere p cs = cs.splitOnP p := by
  induction cs with
  | nil => rfl
  | cons d cs ih =>
    rw [List.splitOnP_cons_eq_if_modifyHead]
    split
    · rename_i hd
      rw [splitWhere_cons_of_sep hd, ih]
    · rename_i hd
      rw [splitWhere_cons_of_not_sep hd, ih]

theorem mem_intercalate (h : c ∈ List.intercalate [sep] groups) :
    c = sep ∨ ∃ g ∈ groups, c ∈ g := by
  induction groups with
  | nil => cases h
  | cons g groups ih =>
    cases groups with
    | nil =>
      rw [List.intercalate_singleton] at h
      exact .inr ⟨g, by simp, h⟩
    | cons g' groups =>
      rw [List.intercalate_cons_cons, List.mem_append, List.mem_append, List.mem_singleton] at h
      rcases h with (hg | rfl) | h
      · exact .inr ⟨g, by simp, hg⟩
      · exact .inl rfl
      · rcases ih h with rfl | ⟨g'', hm, hc⟩
        · exact .inl rfl
        · exact .inr ⟨g'', List.mem_cons_of_mem _ hm, hc⟩

theorem join_cons_cons (sep s t : String) (rest : List String) :
    join sep (s :: t :: rest) = s ++ sep ++ join sep (t :: rest) := rfl

theorem mem_join {sep : String} (h : c ∈ (join sep ts).toList) :
    c ∈ sep.toList ∨ ∃ t ∈ ts, c ∈ t.toList := by
  induction ts with
  | nil => cases h
  | cons t ts ih =>
    cases ts with
    | nil => exact .inr ⟨t, by simp, h⟩
    | cons u ts =>
      rw [join_cons_cons, String.toList_append, String.toList_append, List.mem_append,
        List.mem_append] at h
      rcases h with (h | h) | h
      · exact .inr ⟨t, by simp, h⟩
      · exact .inl h
      · exact (ih h).imp_right fun ⟨v, hv, hc⟩ => ⟨v, List.mem_cons_of_mem t hv, hc⟩

/-- Texts without a separator can be told from their union. -/
theorem splitWhere_join (hs : sep.toList = [c]) (h : ∀ t ∈ ts, c ∉ t.toList) (hne : ts ≠ []) :
    splitWhere (· == c) (join sep ts).toList = ts.map String.toList := by
  have hc : ∀ t ∈ ts, ∀ d ∈ t.toList, ¬(d == c) = true := by
    intro t ht d hd he
    rw [beq_iff_eq] at he
    exact h t ht (he ▸ hd)
  induction ts with
  | nil => exact absurd rfl hne
  | cons t ts ih =>
    cases ts with
    | nil => exact splitWhere_of_no_sep (hc t (by simp))
    | cons u ts =>
      have ih := ih (fun t ht => h t (by simp [ht])) (by simp) fun t ht => hc t (by simp [ht])
      rw [join_cons_cons, String.toList_append, String.toList_append, hs,
        List.append_assoc, List.singleton_append, splitWhere_append (hc t (by simp)) (by simp), ih]
      rfl

/-- Blanks at the ends of a text only show in its first and its last part. -/
theorem map_trim_splitWhere_trimLeft (hp : ∀ c, p c → ¬isBlank c) (cs : List Char) :
    (splitWhere p (trimLeft cs)).map trim = (splitWhere p cs).map trim := by
  induction cs with
  | nil => rfl
  | cons c cs ih =>
    by_cases hc : isBlank c
    · rw [trimLeft_cons_of_blank hc, ih, splitWhere_cons_of_not_sep fun h => hp c h hc]
      cases splitWhere p cs with
      | nil => rfl
      | cons part parts =>
        rw [List.modifyHead_cons, List.map_cons, List.map_cons, ← trim_trimLeft (c :: part),
          trimLeft_cons_of_blank hc, trim_trimLeft]
    · rw [trimLeft_cons_of_not_blank hc]

theorem map_trimRight_splitWhere (hp : ∀ c, p c → ¬isBlank c) (cs : List Char) :
    (splitWhere p (trimRight cs)).map trimRight = (splitWhere p cs).map trimRight := by
  induction cs with
  | nil => rfl
  | cons c cs ih =>
    by_cases hs : p c
    · rw [trimRight_cons_of_not_blank (hp c hs), splitWhere_cons_of_sep hs,
        splitWhere_cons_of_sep hs, List.map_cons, List.map_cons, ih]
    · rw [trimRight_cons, splitWhere_cons_of_not_sep hs]
      obtain ⟨part, parts, hcs⟩ := List.exists_cons_of_ne_nil (splitWhere_ne_nil p cs)
      obtain ⟨part', parts', hcs'⟩ :=
        List.exists_cons_of_ne_nil (splitWhere_ne_nil p (trimRight cs))
      rw [hcs, hcs', List.map_cons, List.map_cons, List.cons.injEq] at ih
      split
      · rename_i h
        rw [h.2, splitWhere] at hcs'
        cases hcs'
        rw [hcs, splitWhere, List.modifyHead_cons, List.map_cons, List.map_cons, ← ih.2,
          trimRight_cons c part, ← ih.1]
        simp [h.1, trimRight]
      · rw [splitWhere_cons_of_not_sep hs, hcs, hcs', List.modifyHead_cons, List.modifyHead_cons,
          List.map_cons, List.map_cons, ih.2, trimRight_cons, ih.1, ← trimRight_cons]

theorem map_trim_splitWhere_trim (hp : ∀ c, p c → ¬isBlank c) (cs : List Char) :
    (splitWhere p (trim cs)).map trim = (splitWhere p cs).map trim := by
  have ht : trim = trimLeft ∘ trimRight := by
    funext cs
    exact (trimLeft_trimRight cs).symm
  rw [← map_trim_splitWhere_trimLeft hp cs, trim, ht, ← List.map_map, ← List.map_map,
    map_trimRight_splitWhere hp]

theorem length_flatMap_le {xs : List α} {f : α → List β} (h : ∀ x ∈ xs, (f x).length ≤ k) :
    (xs.flatMap f).length ≤ k * xs.length := by
  induction xs with
  | nil => exact Nat.zero_le _
  | cons x xs ih =>
    obtain ⟨hx, h⟩ := List.forall_mem_cons.mp h
    rw [List.flatMap_cons, List.length_append, List.length_cons, Nat.mul_succ]
    have := ih h
    omega

theorem length_flatMap_of_forall {xs : List α} {f : α → List β} (h : ∀ x ∈ xs, (f x).length = k) :
    (xs.flatMap f).length = k * xs.length := by
  induction xs with
  | nil => rfl
  | cons x xs ih =>
    rw [List.flatMap_cons, List.length_append, h x (by simp),
      ih fun y hy => h y (List.mem_cons_of_mem _ hy), List.length_cons]
    ring

/-- A digit as it is written in hexadecimal notation. -/
def hexOf (d : Nat) : Char := Char.ofNat (if d < 10 then 48 + d else 87 + d)

theorem hexDigits_succ (width n : Nat) :
    hexDigits (width + 1) n = hexOf (n / 16 ^ width % 16) :: hexDigits width n := by
  rw [hexDigits, hexDigits, List.range_succ, List.reverse_append]
  rfl

theorem length_hexDigits (width n : Nat) : (hexDigits width n).length = width := by
  simp [hexDigits]

theorem eq_hexOf_of_mem (h : c ∈ hexDigits width n) : ∃ d < 16, c = hexOf d := by
  induction width with
  | zero => cases h
  | succ width ih =>
    rw [hexDigits_succ, List.mem_cons] at h
    rcases h with rfl | h
    · exact ⟨_, Nat.mod_lt _ (by decide), rfl⟩
    · exact ih h

end Covenant
