import Covenant.JsonText.Reader
import Covenant.JsonText.Writer
import Covenant.Proofs.Entries
import Covenant.Proofs.JsonText.Form
import Covenant.Proofs.Text

/-! A value that is written as JSON is read back: as itself when it is plain data, and as the data
that JSON has for it in any case, unless a number in it is not finite. -/

namespace Covenant.JsonText

theorem hexDigit?_hexOf : ∀ d < 16, hexDigit? (hexOf d) = some d := by
  decide

theorem hexDigits_control (h : n < 32) :
    hexDigits 4 n = ['0', '0', hexOf (n / 16), hexOf (n % 16)] := by
  rw [hexDigits_succ, hexDigits_succ, hexDigits_succ, hexDigits_succ,
    show n / 16 ^ 3 % 16 = 0 by omega, show n / 16 ^ 2 % 16 = 0 by omega,
    show n / 16 ^ 1 % 16 = n / 16 by omega, show n / 16 ^ 0 % 16 = n % 16 by omega]
  rfl

/-- A character is read as it is written, unless the text ends there. -/
theorem readString_escape (c : Char) (start : Nat) (acc : List Char) (h : rest ≠ []) :
    readString start .plain ⟨acc, none⟩ (escape c ++ rest) =
      readString start .plain ⟨c :: acc, none⟩ rest := by
  unfold escape
  split
  · rename_i hc
    rcases hc with rfl | rfl <;> rfl
  split
  · rename_i hc
    rw [hc]
    rfl
  split
  · rename_i hc
    rw [hc]
    rfl
  split
  · rename_i hc
    rw [hc]
    rfl
  split
  · rename_i hc
    rw [hc]
    rfl
  split
  · rename_i hc
    rw [hc]
    rfl
  split
  · rename_i hc
    have hhigh := hexDigit?_hexOf (c.toNat / 16) (by omega)
    have hlow := hexDigit?_hexOf (c.toNat % 16) (by omega)
    have hzero : hexDigit? '0' = some 0 := rfl
    have hcode : 16 * (c.toNat / 16) + c.toNat % 16 = c.toNat := Nat.div_add_mod c.toNat 16
    have hadd : Chars.addCode ⟨acc, none⟩ c.toNat = ⟨c :: acc, none⟩ := by
      have hd : c.toNat / 1024 = 0 := by omega
      simp [Chars.addCode, hd, Chars.add, Chars.settle]
    rw [hexDigits_control hc]
    simp [readString, hzero, hhigh, hlow, hcode, hadd, h]
  · rename_i hq _ _ _ _ _ hc
    rw [not_or] at hq
    rw [List.singleton_append, readString, if_neg hq.1, if_neg hq.2, if_neg hc]
    rfl

theorem readString_flatMap (cs : List Char) (start : Nat) (acc rest : List Char) :
    readString start .plain ⟨acc, none⟩ (cs.flatMap escape ++ '"' :: rest) =
      .ok (acc.reverse ++ cs, rest) := by
  induction cs generalizing acc with
  | nil =>
    rw [List.append_nil]
    rfl
  | cons c cs ih =>
    rw [List.flatMap_cons, List.append_assoc, readString_escape c start acc (by simp), ih]
    simp

end Covenant.JsonText

namespace Covenant

/-- Data as JSON has it: null, booleans, numbers, texts, lists, and mappings with texts as keys. Not
every reader accepts numbers that are not finite. -/
inductive Value.IsPlain (constants : Bool) : Value → Prop
  | null : IsPlain constants .null
  | bool (b : Bool) : IsPlain constants (.bool b)
  | int (i : Int) : IsPlain constants (.int i)
  | float (h : constants = true ∨ x.isFinite = true) : IsPlain constants (.float x)
  | text (s : String) : IsPlain constants (.text s)
  | list (h : ∀ v ∈ items, IsPlain constants v) : IsPlain constants (.list items)
  | map (hk : ∀ e ∈ entries, ∃ name, e.1 = .text name) (hd : Entries.Distinct entries)
      (h : ∀ e ∈ entries, IsPlain constants e.2) : IsPlain constants (.map entries)

namespace JsonText

open Decimal (digitChar signText)
open Value (commaJoin)

variable {constants tolerant : Bool} {cs rest : List Char}

theorem skip_cons (h : isSpace c = false) (cs : List Char) : skip (c :: cs) = c :: cs := by
  rw [skip, List.dropWhile_cons_of_neg (by simp [h])]

/-- What the text of a value may start with. -/
def openers : List Char :=
  ['n', 't', 'f', 'N', 'I', '-', '0', '1', '2', '3', '4', '5', '6', '7', '8', '9', '"', '[', '\x7b']

theorem openers_plain :
    ∀ c ∈ openers, isSpace c = false ∧ c ≠ ']' ∧ c ≠ '\x7d' ∧ c ≠ '\uFEFF' := by
  simp [openers, isSpace]

def Starts (cs : List Char) : Prop := ∃ c tail, cs = c :: tail ∧ c ∈ openers

theorem starts_number (h : d < 10) (negative : Bool) (tail : List Char) :
    Starts (signText negative ++ digitChar d :: tail) := by
  cases negative with
  | true => exact ⟨'-', _, rfl, by decide⟩
  | false =>
    have hd : ∀ d < 10, digitChar d ∈ openers := by decide
    exact ⟨digitChar d, tail, rfl, hd d h⟩

/-- A number is read as such wherever a value may stand. -/
theorem readValue_number (h : d < 10) (negative : Bool) (fuel : Nat) (tail : List Char) :
    readValue constants (fuel + 1) (signText negative ++ digitChar d :: tail) =
      readNumber (signText negative ++ digitChar d :: tail) := by
  cases negative with
  | true => interval_cases d <;> rfl
  | false => interval_cases d <;> rfl

theorem quote_append (cs rest : List Char) :
    quote cs ++ rest = '"' :: (cs.flatMap escape ++ '"' :: rest) := by
  rw [quote, List.cons_append, List.cons_append, List.append_assoc, List.singleton_append]

theorem readValue_quote (cs : List Char) (fuel : Nat) (rest : List Char) :
    readValue constants (fuel + 1) (quote cs ++ rest) = .ok (.text (String.ofList cs), rest) := by
  rw [quote_append, readValue, readString_flatMap]
  rfl

/-- What is read of the text of a value. Not every reader accepts numbers that are not finite. -/
def reread (constants : Bool) (v : Value) : Except Problem Value :=
  if constants || v.isFinite then .ok (form v) else .error .constant

def rereadItems (constants : Bool) (items : List Value) : Except Problem (List Value) :=
  if constants || Value.allFinite items then .ok (forms items) else .error .constant

def rereadEntries (constants : Bool) (entries : List (Value × Value)) :
    Except Problem (List (Value × Value)) :=
  if constants || Value.entriesFinite entries then .ok (entryForms entries) else .error .constant

theorem rereadItems_cons (item : Value) (items : List Value) :
    rereadItems constants (item :: items) = (do
      let v ← reread constants item
      return v :: (← rereadItems constants items)) := by
  rw [rereadItems, Value.allFinite, forms, reread, rereadItems]
  cases constants <;> cases item.isFinite <;> cases Value.allFinite items <;> rfl

theorem rereadEntries_cons (e : Value × Value) (entries : List (Value × Value)) :
    rereadEntries constants (e :: entries) = (do
      let v ← reread constants e.2
      return (.text (keyName e.1), v) :: (← rereadEntries constants entries)) := by
  rw [rereadEntries, Value.entriesFinite, entryForms, reread, rereadEntries]
  cases constants <;> cases e.2.isFinite <;> cases Value.entriesFinite entries <;> rfl

theorem reread_list (items : List Value) :
    reread constants (.list items) = (rereadItems constants items).map Value.list := by
  rw [reread, rereadItems, Value.isFinite]
  split <;> rfl

theorem reread_map (entries : List (Value × Value)) :
    reread constants (.map entries) =
      (rereadEntries constants entries).map fun es => .map (Entries.ofList es) := by
  rw [reread, rereadEntries, Value.isFinite]
  split <;> rfl

/-- Data without numbers, or with a finite one. -/
theorem reread_of_isFinite (h : v.isFinite = true) (constants : Bool) :
    reread constants v = .ok (form v) := by
  rw [reread, h, Bool.or_true, if_pos rfl]

/-- A text that is read as the text of a value wherever that may stand. -/
structure ReadsBack (constants : Bool) (v : Value) (cs : List Char) : Prop where
  starts : Starts cs
  read : ∀ fuel rest, 2 * cs.length ≤ fuel → Ends rest →
    readValue constants fuel (cs ++ rest) = (reread constants v).map (·, rest)

theorem readsBack_of_succ (hs : Starts cs)
    (h : ∀ fuel rest, Ends rest →
      readValue constants (fuel + 1) (cs ++ rest) = (reread constants v).map (·, rest)) :
    ReadsBack constants v cs := by
  refine ⟨hs, fun fuel rest hf hr => ?_⟩
  obtain ⟨c, tail, rfl, _⟩ := hs
  obtain ⟨fuel, rfl⟩ : ∃ k, fuel = k + 1 := ⟨fuel - 1, by rw [List.length_cons] at hf; omega⟩
  exact h fuel rest hr

theorem readsBack_quote (h : reread constants v = .ok (.text (String.ofList cs))) :
    ReadsBack constants v (quote cs) := by
  refine readsBack_of_succ ⟨'"', _, rfl, by decide⟩ fun fuel rest _ => ?_
  rw [readValue_quote, h]
  rfl

/-- A text that is read as a number is read as a value. -/
theorem readsBack_number (h : d < 10) (negative : Bool) (tail : List Char)
    (hv : reread constants v = .ok v)
    (hn : ∀ rest, Ends rest →
      readNumber (signText negative ++ digitChar d :: tail ++ rest) = .ok (v, rest)) :
    ReadsBack constants v (signText negative ++ digitChar d :: tail) := by
  refine readsBack_of_succ (starts_number h negative tail) fun fuel rest hr => ?_
  have hread := hn rest hr
  rw [List.append_assoc, List.cons_append] at hread ⊢
  rw [readValue_number h, hread, hv]
  rfl

theorem readsBack_ofInt (h : Decimal.ofInt? i = .ok cs) : ReadsBack constants (.int i) cs := by
  have hn := fun rest (hr : Ends rest) => readNumber_ofInt h hr
  obtain ⟨negative, d, tail, hd, rfl⟩ := ofInt?_eq_ok h
  exact readsBack_number hd negative tail (reread_of_isFinite rfl constants) hn

/-- A word for a number that is not finite is read, or refused, as a constant. -/
theorem readsBack_constant (hs : Starts cs) (hv : form v = v) (hx : v.isFinite = false)
    (h : ∀ rest, readConstant? constants (cs ++ rest) =
      some (if constants then .ok (v, rest) else .error .constant))
    (hc : ∀ rest fuel, readValue constants (fuel + 1) (cs ++ rest) =
      (readConstant? constants (cs ++ rest)).getD (readNumber (cs ++ rest))) :
    ReadsBack constants v cs := by
  refine readsBack_of_succ hs fun fuel rest _ => ?_
  rw [hc, h, reread, hv, hx, Bool.or_false]
  cases constants <;> rfl

theorem readsBack_ofDouble (x : Double) : ReadsBack constants (.float x) (ofDouble x) := by
  by_cases hx : x.isFinite = true
  · obtain ⟨negative, w, hw, ht, hd⟩ := Decimal.ofDouble_eq hx
    have hn := fun rest (hr : Ends rest) => readNumber_text hw negative hr
    obtain ⟨d, tail, hlt, htext⟩ := hw.text_eq_cons
    rw [ofDouble.eq_def, if_pos hx, ht, ← hd]
    rw [← hd] at hx
    have hfloat : (Value.float (w.numeral negative).toDouble).isFinite = true := hx
    rw [htext] at hn ⊢
    refine readsBack_number hlt negative tail (reread_of_isFinite hfloat constants) fun rest hr => ?_
    rw [List.append_assoc]
    exact hn rest hr
  · have hfloat : (Value.float x).isFinite = false := Bool.eq_false_iff.mpr hx
    cases x with
    | nan =>
      exact readsBack_constant ⟨'N', _, rfl, by decide⟩ rfl hfloat (fun rest => rfl)
        fun rest fuel => rfl
    | number negative rank =>
      have hrank : Double.infinity negative = .number negative rank := by
        have hle : infinityRank ≤ rank.val := by simpa [Double.isFinite] using hx
        rw [Double.infinity, Double.ofRank]
        congr 2
        omega
      have ht : ofDouble (.number negative rank) =
          (if negative then "-Infinity" else "Infinity").toList := by
        rw [ofDouble, if_neg hx]
      rw [← hrank] at hfloat
      rw [ht, ← hrank]
      cases negative with
      | true =>
        exact readsBack_constant ⟨'-', _, rfl, by decide⟩ rfl hfloat (fun rest => rfl)
          fun rest fuel => rfl
      | false =>
        exact readsBack_constant ⟨'I', _, rfl, by decide⟩ rfl hfloat (fun rest => rfl)
          fun rest fuel => rfl

theorem starts_commaJoin (h : Starts cs) (texts : List (List Char)) :
    Starts (commaJoin (cs :: texts)) := by
  cases texts with
  | nil => exact h
  | cons t texts =>
    obtain ⟨c, tail, rfl, hc⟩ := h
    exact ⟨c, _, rfl, hc⟩

theorem skip_of_starts (h : Starts cs) (rest : List Char) : skip (cs ++ rest) = cs ++ rest := by
  obtain ⟨c, tail, rfl, hc⟩ := h
  exact skip_cons (openers_plain c hc).1 _

theorem commaJoin_cons_cons (t u : List Char) (texts : List (List Char)) :
    commaJoin (t :: u :: texts) = t ++ ',' :: ' ' :: commaJoin (u :: texts) := rfl

theorem skip_space (cs : List Char) : skip (' ' :: cs) = skip cs := rfl

/-- The items of a list are read one after the other. -/
theorem readItems_commaJoin {texts : List (List Char)}
    (h : List.Forall₂ (ReadsBack constants) items texts) (hne : items ≠ [])
    (hf : 2 * (commaJoin texts).length < fuel) :
    readItems constants fuel (commaJoin texts ++ ']' :: rest) =
      (rereadItems constants items).map (·, rest) := by
  induction h generalizing fuel with
  | nil => exact absurd rfl hne
  | @cons item t items texts hitem h ih =>
    obtain ⟨fuel, rfl⟩ : ∃ k, fuel = k + 1 := ⟨fuel - 1, by omega⟩
    rw [rereadItems_cons]
    cases h with
    | nil =>
      have hread := hitem.read fuel (']' :: rest) (by rw [commaJoin] at hf; omega) (by simp [Ends])
      rw [readItems, commaJoin, hread]
      cases reread constants item with
      | error e => rfl
      | ok v => cases constants <;> rfl
    | @cons next u items texts hnext h =>
      rw [commaJoin_cons_cons, List.length_append, List.length_cons, List.length_cons] at hf
      have hread := hitem.read fuel (',' :: ' ' :: (commaJoin (u :: texts) ++ ']' :: rest))
        (by omega) (by simp [Ends])
      have hrest := ih (List.cons_ne_nil _ _) (show _ < fuel by omega)
      have hskip := skip_of_starts (starts_commaJoin hnext.starts texts) (']' :: rest)
      rw [readItems, commaJoin_cons_cons, List.append_assoc, List.cons_append, List.cons_append,
        hread]
      cases reread constants item with
      | error e => rfl
      | ok v =>
        change (readItems constants fuel (skip (' ' :: _)) >>= fun p =>
          Except.ok (v :: p.1, p.2)) = _
        rw [skip_space, hskip, hrest]
        cases rereadItems constants (next :: items) <;> rfl

/-- The text of an entry: its name, and a text that is read as its value. -/
def EntryReadsBack (constants : Bool) (e : Value × Value) (cs : List Char) : Prop :=
  ∃ vs, cs = quote (keyName e.1).toList ++ ':' :: ' ' :: vs ∧ ReadsBack constants e.2 vs

theorem EntryReadsBack.starts (h : EntryReadsBack constants e cs) : Starts cs := by
  obtain ⟨vs, rfl, _⟩ := h
  rw [quote_append]
  exact ⟨'"', _, rfl, by decide⟩

/-- The first entry is read, then what stands behind its value. -/
theorem readEntries_entry (h : EntryReadsBack constants e cs) (hf : 2 * cs.length ≤ fuel)
    (hr : Ends rest) :
    readEntries constants (fuel + 1) (cs ++ rest) = (do
      let v ← reread constants e.2
      match skip rest with
      | '\x7d' :: rest => .ok ([(.text (keyName e.1), v)], rest)
      | ',' :: rest =>
        let (entries, rest) ← readEntries constants fuel (skip rest)
        return ((.text (keyName e.1), v) :: entries, rest)
      | rest => fail .comma rest) := by
  obtain ⟨vs, rfl, hv⟩ := h
  have hskip := skip_of_starts hv.starts rest
  have hread := hv.read fuel rest (by simp at hf; omega) hr
  rw [List.append_assoc, quote_append, readEntries, readString_flatMap]
  have hcolon : skip (':' :: ' ' :: (vs ++ rest)) = ':' :: ' ' :: (vs ++ rest) := rfl
  simp only [List.cons_append, bind, Except.bind, hcolon, skip_space, hskip, hread,
    List.reverse_nil, List.nil_append, String.ofList_toList]
  cases reread constants e.2 <;> rfl

theorem readEntries_commaJoin {texts : List (List Char)}
    (h : List.Forall₂ (EntryReadsBack constants) entries texts) (hne : entries ≠ [])
    (hf : 2 * (commaJoin texts).length < fuel) :
    readEntries constants fuel (commaJoin texts ++ '\x7d' :: rest) =
      (rereadEntries constants entries).map (·, rest) := by
  induction h generalizing fuel with
  | nil => exact absurd rfl hne
  | @cons e t entries texts he h ih =>
    obtain ⟨fuel, rfl⟩ : ∃ k, fuel = k + 1 := ⟨fuel - 1, by omega⟩
    rw [rereadEntries_cons]
    cases h with
    | nil =>
      rw [commaJoin] at hf ⊢
      rw [readEntries_entry he (by omega) (by simp [Ends])]
      cases reread constants e.2 with
      | error e => rfl
      | ok v => cases constants <;> rfl
    | @cons next u entries texts hnext h =>
      rw [commaJoin_cons_cons, List.length_append, List.length_cons, List.length_cons] at hf
      have hrest := ih (List.cons_ne_nil _ _) (show _ < fuel by omega)
      have hskip := skip_of_starts (starts_commaJoin hnext.starts texts) ('\x7d' :: rest)
      rw [commaJoin_cons_cons, List.append_assoc, List.cons_append, List.cons_append,
        readEntries_entry he (by omega) (by simp [Ends])]
      cases reread constants e.2 with
      | error e => rfl
      | ok v =>
        change (readEntries constants fuel (skip (' ' :: _)) >>= fun p =>
          Except.ok ((.text (keyName e.1), v) :: p.1, p.2)) = _
        rw [skip_space, hskip, hrest]
        cases rereadEntries constants (next :: entries) <;> rfl

theorem readValue_list (h : Starts cs) (fuel : Nat) (rest : List Char) :
    readValue constants (fuel + 1) ('[' :: (cs ++ rest)) = (do
      let (items, rest) ← readItems constants fuel (cs ++ rest)
      return (.list items, rest)) := by
  have hskip := skip_of_starts h rest
  obtain ⟨c, tail, rfl, hc⟩ := h
  rw [readValue, hskip]
  split
  · rename_i he
    exact absurd (List.cons.inj he).1 (openers_plain c hc).2.1
  · rfl

theorem readValue_map (h : Starts cs) (fuel : Nat) (rest : List Char) :
    readValue constants (fuel + 1) ('\x7b' :: (cs ++ rest)) = (do
      let (entries, rest) ← readEntries constants fuel (cs ++ rest)
      return (.map (Entries.ofList entries), rest)) := by
  have hskip := skip_of_starts h rest
  obtain ⟨c, tail, rfl, hc⟩ := h
  rw [readValue, hskip]
  split
  · rename_i he
    exact absurd (List.cons.inj he).1 (openers_plain c hc).2.2.1
  · rfl

theorem readsBack_list {texts : List (List Char)}
    (h : List.Forall₂ (ReadsBack constants) items texts) :
    ReadsBack constants (.list items) ('[' :: commaJoin texts ++ [']']) := by
  refine ⟨⟨'[', _, rfl, by decide⟩, fun fuel rest hf _ => ?_⟩
  rw [List.cons_append, List.length_cons, List.length_append, List.length_singleton] at hf
  obtain ⟨fuel, rfl⟩ : ∃ k, fuel = k + 1 := ⟨fuel - 1, by omega⟩
  rw [reread_list]
  cases h with
  | nil => cases constants <;> rfl
  | @cons item t items texts hitem h =>
    have hread := @readItems_commaJoin _ rest _ _ _ (.cons hitem h) (List.cons_ne_nil _ _)
      (show _ < fuel by omega)
    rw [List.cons_append, List.cons_append, List.append_assoc, List.singleton_append,
      readValue_list (starts_commaJoin hitem.starts texts), hread]
    cases rereadItems constants (item :: items) <;> rfl

theorem readsBack_map {texts : List (List Char)}
    (h : List.Forall₂ (EntryReadsBack constants) entries texts) :
    ReadsBack constants (.map entries) ('\x7b' :: commaJoin texts ++ ['\x7d']) := by
  refine ⟨⟨'\x7b', _, rfl, by decide⟩, fun fuel rest hf _ => ?_⟩
  rw [List.cons_append, List.length_cons, List.length_append, List.length_singleton] at hf
  obtain ⟨fuel, rfl⟩ : ∃ k, fuel = k + 1 := ⟨fuel - 1, by omega⟩
  rw [reread_map]
  cases h with
  | nil => cases constants <;> rfl
  | @cons e t entries texts he h =>
    have hread := @readEntries_commaJoin _ rest _ _ _ (.cons he h) (List.cons_ne_nil _ _)
      (show _ < fuel by omega)
    rw [List.cons_append, List.cons_append, List.append_assoc, List.singleton_append,
      readValue_map (starts_commaJoin he.starts texts), hread]
    cases rereadEntries constants (e :: entries) <;> rfl

/-- Data that JSON has no form for. -/
inductive IsOther : Value → Prop
  | bytes (data : List UInt8) : IsOther (.bytes data)
  | buffer (data : List UInt8) : IsOther (.buffer data)
  | deque (items : List Value) : IsOther (.deque items)

theorem ofValue_of_isOther (h : IsOther v) (tolerant : Bool) :
    ofValue tolerant v = ofOther tolerant v := by
  cases h <;> simp [ofValue, ofScalar?]

/-- Such data is written, if at all, as the text that stands for it. -/
theorem readsBack_of_isOther (h : IsOther v) (hw : ofValue tolerant v = .ok cs) :
    ReadsBack constants v cs := by
  rw [ofValue_of_isOther h] at hw
  cases tolerant with
  | false => cases hw
  | true =>
    cases h with
    | bytes data =>
      cases hw
      exact readsBack_quote (reread_of_isFinite rfl constants)
    | buffer data =>
      cases hw
      exact readsBack_quote (reread_of_isFinite rfl constants)
    | deque items =>
      rw [ofOther] at hw
      · obtain ⟨s, hs, hw⟩ := bind_eq_ok.mp hw
        cases hw
        refine readsBack_quote ((reread_of_isFinite rfl constants).trans ?_)
        rw [form, hs, String.ofList_toList]
        rfl
      · simp
      · simp

theorem ofValue_int (tolerant : Bool) (i : Int) :
    ofValue tolerant (.int i) = Decimal.ofInt? i := by
  simp [ofValue, ofScalar?]

mutual
theorem readsBack_of_ofValue {cs : List Char} (v : Value) (hw : ofValue tolerant v = .ok cs) :
    ReadsBack constants v cs := by
  cases v with
  | null =>
    cases hw
    exact readsBack_of_succ ⟨'n', _, rfl, by decide⟩ fun fuel rest _ => by cases constants <;> rfl
  | bool b =>
    cases hw
    cases b with
    | true =>
      exact readsBack_of_succ ⟨'t', _, rfl, by decide⟩ fun fuel rest _ => by cases constants <;> rfl
    | false =>
      exact readsBack_of_succ ⟨'f', _, rfl, by decide⟩ fun fuel rest _ => by cases constants <;> rfl
  | int i =>
    rw [ofValue_int] at hw
    exact readsBack_ofInt hw
  | float x =>
    cases hw
    exact readsBack_ofDouble x
  | text s =>
    cases hw
    refine readsBack_quote ((reread_of_isFinite rfl constants).trans ?_)
    rw [String.ofList_toList]
    rfl
  | list items =>
    rw [ofValue] at hw
    obtain ⟨texts, ht, hw⟩ := bind_eq_ok.mp hw
    cases hw
    exact readsBack_list (forall₂_of_ofItems items ht)
  | tuple items =>
    rw [ofValue] at hw
    obtain ⟨texts, ht, hw⟩ := bind_eq_ok.mp hw
    cases hw
    obtain ⟨hs, hr⟩ := @readsBack_list constants _ _ (forall₂_of_ofItems items ht)
    exact ⟨hs, hr⟩
  | map entries =>
    rw [ofValue] at hw
    obtain ⟨texts, ht, hw⟩ := bind_eq_ok.mp hw
    cases hw
    exact readsBack_map (forall₂_of_ofEntries entries ht)
  | deque items => exact readsBack_of_isOther (.deque items) hw
  | bytes data => exact readsBack_of_isOther (.bytes data) hw
  | buffer data => exact readsBack_of_isOther (.buffer data) hw

theorem forall₂_of_ofItems (items : List Value) (hw : ofItems tolerant items = .ok texts) :
    List.Forall₂ (ReadsBack constants) items texts := by
  cases items with
  | nil =>
    cases hw
    exact .nil
  | cons item items =>
    rw [ofItems] at hw
    obtain ⟨t, ht, hw⟩ := bind_eq_ok.mp hw
    obtain ⟨texts', hts, hw⟩ := bind_eq_ok.mp hw
    cases hw
    exact .cons (readsBack_of_ofValue item ht) (forall₂_of_ofItems items hts)

theorem forall₂_of_ofEntries (entries : List (Value × Value))
    (hw : ofEntries tolerant entries = .ok texts) :
    List.Forall₂ (EntryReadsBack constants) entries texts := by
  cases entries with
  | nil =>
    cases hw
    exact .nil
  | cons e entries =>
    obtain ⟨k, v⟩ := e
    rw [ofEntries] at hw
    obtain ⟨key, hkey, hw⟩ := bind_eq_ok.mp hw
    obtain ⟨t, ht, hw⟩ := bind_eq_ok.mp hw
    obtain ⟨texts', hts, hw⟩ := bind_eq_ok.mp hw
    obtain rfl := ofKey_eq_ok hkey
    cases hw
    exact .cons ⟨t, rfl, readsBack_of_ofValue v ht⟩ (forall₂_of_ofEntries entries hts)
end

/-- What is written of a value is read as the data that JSON has for it. -/
theorem read_write (hw : write tolerant v = .ok s) :
    read constants s.toList = reread constants v := by
  rw [write] at hw
  cases hv : ofValue tolerant v with
  | error e =>
    rw [hv] at hw
    cases hw
  | ok cs =>
    rw [hv] at hw
    cases hw
    have hback : ReadsBack constants v cs := readsBack_of_ofValue v hv
    have hread := hback.read (2 * cs.length + 2) [] (by omega) (by simp [Ends])
    have hskip := skip_of_starts hback.starts []
    rw [List.append_nil] at hread hskip
    have hmark : cs.head? ≠ some '\uFEFF' := by
      obtain ⟨c, tail, rfl, hc⟩ := hback.starts
      rw [List.head?_cons, ne_eq, Option.some.injEq]
      exact (openers_plain c hc).2.2.2
    rw [String.toList_ofList, read, if_neg hmark, hskip, hread]
    cases reread constants v <;> rfl

theorem form_of_isPlain (hp : v.IsPlain constants) : form v = v := by
  induction hp with
  | list h ih =>
    rw [form, forms_eq_map, List.map_congr_left ih, List.map_id']
  | @map entries hk hd h ih =>
    have he : entryForms entries = entries := by
      rw [entryForms_eq_map, List.map_congr_left (g := id), List.map_id]
      intro e he
      obtain ⟨name, hname⟩ := hk e he
      rw [ih e he, hname]
      exact congrArg (·, e.2) hname.symm
    rw [form, he]
    exact congrArg Value.map (Entries.update_nil hd)
  | _ => rfl

theorem isFinite_of_isPlain {v : Value} (hp : v.IsPlain false) : v.isFinite = true := by
  induction hp with
  | float h => exact h.resolve_left Bool.false_ne_true
  | list h ih => rw [Value.isFinite, Value.allFinite_eq, List.all_eq_true.mpr ih]
  | map hk hd h ih => rw [Value.isFinite, Value.entriesFinite_eq, List.all_eq_true.mpr ih]
  | _ => rfl

/-- What is written of plain data is read back as the data. -/
theorem read_of_write (hp : v.IsPlain constants) (hw : write tolerant v = .ok s) :
    read constants s.toList = .ok v := by
  have hall : (constants || v.isFinite) = true := by
    cases constants with
    | true => rfl
    | false => exact isFinite_of_isPlain hp
  rw [read_write hw, reread, if_pos hall, form_of_isPlain hp]

end JsonText
end Covenant
