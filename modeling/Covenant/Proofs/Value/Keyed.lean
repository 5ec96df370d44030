import Covenant.Proofs.Check.Member
import Covenant.Proofs.Entries

/-! Mappings with keys of all hashable types: what is found under keys that are equal, and what is
at the end of a path of keys. -/

namespace Covenant

namespace Double

/-- Two numbers that are equal and not whole are the same. -/
theorem eq_of_not_isInteger {x y : Double} (h : x.eq y) (hx : x.isInteger = false) : x = y := by
  cases x with
  | nan => cases h
  | number negative r =>
    cases y with
    | nan =>
      simp only [eq, key] at h
      cases h
    | number negative' s =>
      obtain ⟨hu, hs⟩ := eq_number.mp h
      have hr : r = s := Fin.ext (units_strictMono.injective hu)
      subst hr
      rcases hs with rfl | hz
      · rfl
      · -- zero is whole
        obtain ⟨rank, hi⟩ := r
        have hr : rank = 0 := units_strictMono.injective hz
        subst hr
        cases hx

end Double

namespace Value

mutual
/-- What a mapping can have for a key. -/
def isHashable : Value → Bool
  | null | bool _ | int _ | float _ | text _ | bytes _ => true
  | tuple items => areHashable items
  | _ => false

def areHashable : List Value → Bool
  | [] => true
  | v :: vs => isHashable v && areHashable vs
end

mutual
/-- Whether the mapping that a value is, and every mapping in a mapping, has keys of a class that
all differ from each other. -/
def keyedBy (isKey : Value → Bool) : Value → Bool
  | map entries => entriesKeyedBy isKey entries
  | _ => true

def entriesKeyedBy (isKey : Value → Bool) : List (Value × Value) → Bool
  | [] => true
  | (k, v) :: rest =>
    isKey k && rest.all (fun e => !k.equals e.1) && keyedBy isKey v && entriesKeyedBy isKey rest
end

section Keys

variable {a b c : Value}

theorem eq_int_of_exactly (h : (int i).exactly b = true) : b = int i := by
  cases b with
  | int j =>
    rw [exactly, beq_iff_eq] at h
    rw [h]
  | _ => cases h

mutual
/-- If one of two equal values is hashable, they are the same once they are leveled. -/
theorem leveled_of_equals (a b : Value) (hk : a.isHashable ∨ b.isHashable)
    (h : a.equals b = true) : a.leveled = b.leveled := by
  match a with
  | null => cases b <;> first | rfl | cases h
  | bool x => exact (eq_int_of_exactly ((equals_eq _ b).symm.trans h)).symm
  | int i => exact (eq_int_of_exactly ((equals_eq _ b).symm.trans h)).symm
  | float x =>
    rw [equals_eq] at h
    rcases leveled_float_cases x with ⟨_, i, _, hl⟩ | ⟨hx, hl⟩
    · rw [hl] at h ⊢
      exact (eq_int_of_exactly h).symm
    · rw [hl] at h ⊢
      cases hb : b.leveled with
      | float y =>
        rw [hb] at h
        rw [Double.eq_of_not_isInteger h hx]
      | _ =>
        rw [hb] at h
        cases h
  | text s => rw [text_equals_iff.mp h]
  | bytes data | buffer data =>
    cases b with
    | bytes data' | buffer data' => exact congrArg bytes (beq_iff_eq.mp h)
    | _ => cases h
  | tuple items =>
    cases b with
    | tuple items' => exact congrArg tuple (leveledLists_of_equals items items' hk h)
    | _ => cases h
  | list _ | deque _ | map _ =>
    -- the other one would be of the same type, and then neither of them is hashable
    cases b <;> first | cases h | rcases hk with hk | hk <;> cases hk

theorem leveledLists_of_equals (as bs : List Value) (hk : areHashable as ∨ areHashable bs)
    (h : equalLists as bs = true) : leveledLists as = leveledLists bs := by
  match as, bs with
  | [], [] => rfl
  | [], _ :: _ => cases h
  | _ :: _, [] => cases h
  | a :: as, b :: bs =>
    rw [areHashable, areHashable, Bool.and_eq_true, Bool.and_eq_true] at hk
    rw [equalLists, Bool.and_eq_true] at h
    have hhead := leveled_of_equals a b (hk.imp And.left And.left) h.1
    have htail := leveledLists_of_equals as bs (hk.imp And.right And.right) h.2
    rw [leveledLists, leveledLists, hhead, htail]
end

/-- Values that are the same once they are leveled are equal to the same values. -/
theorem equals_congr (h : a.leveled = b.leveled) (c : Value) :
    a.equals c = b.equals c ∧ c.equals a = c.equals b := by
  rw [equals_eq a c, equals_eq b c, equals_eq c a, equals_eq c b, h]
  exact ⟨rfl, rfl⟩

end Keys

end Value

open Value (isHashable keyedBy entriesKeyedBy)

namespace Entries

variable {entries : Entries} {key k v : Value} {isKey : Value → Bool}

theorem get?_cons (e : Value × Value) (entries : Entries) (key : Value) :
    get? (e :: entries) key = if e.1.equals key then some e.2 else get? entries key := by
  rw [get?, get?, List.find?_cons]
  cases e.1.equals key <;> rfl

theorem get?_congr (h : k.leveled = key.leveled) (entries : Entries) :
    get? entries k = get? entries key := by
  induction entries with
  | nil => rfl
  | cons e entries ih => rw [get?_cons, get?_cons, (Value.equals_congr h e.1).2, ih]

/-- A key that is put in is found under all keys that are equal to it. -/
theorem get?_put (hk : isHashable k) (v : Value) (entries : Entries) (key : Value) :
    get? (put entries k v) key = if k.equals key then some v else get? entries key := by
  induction entries with
  | nil => rw [put, get?_cons]
  | cons e entries ih =>
    obtain ⟨l, w⟩ := e
    rw [put]
    by_cases hl : l.equals k
    · have hleveled := Value.leveled_of_equals l k (.inr hk) hl
      rw [if_pos hl, get?_cons, get?_cons, (Value.equals_congr hleveled key).1]
      split <;> rfl
    · rw [if_neg hl, get?_cons, ih, get?_cons]
      by_cases hkey : k.equals key
      · have hleveled := Value.leveled_of_equals k key (.inl hk) hkey
        rw [(Value.equals_congr hleveled l).2] at hl
        rw [if_pos hkey, if_pos hkey, if_neg hl]
      · rw [if_neg hkey, if_neg hkey]

theorem entriesKeyedBy_iff : entriesKeyedBy isKey entries = true ↔
    Distinct entries ∧ ∀ e ∈ entries, isKey e.1 = true ∧ keyedBy isKey e.2 = true := by
  induction entries with
  | nil => simp [entriesKeyedBy, Distinct]
  | cons e entries ih =>
    obtain ⟨k, v⟩ := e
    rw [Distinct] at ih
    simp only [entriesKeyedBy, Distinct, Bool.and_eq_true, List.all_eq_true, ih,
      List.pairwise_cons, List.forall_mem_cons, Bool.not_eq_true', Bool.not_eq_true]
    tauto

theorem keyedBy_of_get? (h : entriesKeyedBy isKey entries) (hv : entries.get? key = some v) :
    keyedBy isKey v := by
  obtain ⟨e, he, rfl⟩ := Option.map_eq_some_iff.mp hv
  exact ((entriesKeyedBy_iff.mp h).2 e (List.mem_of_find?_eq_some he)).2

theorem put_of_get? (h : entries.get? key = some v) : entries.put key v = entries := by
  induction entries with
  | nil => cases h
  | cons e entries ih =>
    obtain ⟨k, w⟩ := e
    rw [get?_cons] at h
    rw [put]
    split
    · rename_i hk
      rw [if_pos hk] at h
      cases h
      rfl
    · rename_i hk
      rw [if_neg hk] at h
      rw [ih h]

/-- A key that is equal to itself is found where it is. -/
theorem get?_of_equals_self (hd : Distinct entries) {e : Value × Value} (he : e ∈ entries)
    (h : e.1.equals e.1) : entries.get? e.1 = some e.2 := by
  induction entries with
  | nil => cases he
  | cons a entries ih =>
    obtain ⟨ha, hd⟩ := List.pairwise_cons.mp hd
    rw [get?_cons]
    rcases List.mem_cons.mp he with rfl | he
    · rw [if_pos h]
    · rw [if_neg (ha e he), ih hd he]

theorem keys_put (entries : Entries) (key v : Value) : (entries.put key v).map (·.1) =
    if entries.any (fun e => e.1.equals key) then entries.map (·.1)
    else entries.map (·.1) ++ [key] := by
  induction entries with
  | nil => rfl
  | cons e entries ih =>
    obtain ⟨k, w⟩ := e
    rw [put, List.any_cons]
    by_cases hk : k.equals key
    · rw [if_pos hk, hk, Bool.true_or, if_pos rfl]
      rfl
    · rw [if_neg hk, Bool.eq_false_iff.mpr hk, Bool.false_or, List.map_cons, ih]
      split <;> rfl

end Entries

namespace Value

/-- What is at the end of a path of keys through mappings. -/
def at? (v : Value) : List Value → Option Value
  | [] => some v
  | key :: path =>
    match v with
    | map entries => (Entries.get? entries key).bind (·.at? path)
    | _ => none

def isMap : Value → Bool
  | map _ => true
  | _ => false

/-- Whether a value has nothing at a path, and nothing on the way to it but mappings. -/
def Spares (v : Value) (path : List Value) : Prop :=
  v.at? path = none ∧
    ∀ way, way <+: path → way ≠ path → ∀ w, v.at? way = some w → w.isMap = true

section Path

variable {v w : Value} {path : List Value}

theorem at?_map (entries : Entries) (key : Value) (path : List Value) :
    (map entries).at? (key :: path) = (entries.get? key).bind (·.at? path) := rfl

/-- What is in a mapping at the end of a path is reached through the value of its first key. -/
theorem at?_cons_eq_some {key : Value} : v.at? (key :: path) = some w ↔
    ∃ entries x, v = map entries ∧ Entries.get? entries key = some x ∧ x.at? path = some w := by
  cases v with
  | map entries => simp [at?_map, Option.bind_eq_some_iff]
  | _ => simp [at?]

theorem Spares.tail {entries : Entries} {key x : Value} (h : Spares (map entries) (key :: path))
    (hx : entries.get? key = some x) : Spares x path := by
  have hat (rest : List Value) : (map entries).at? (key :: rest) = x.at? rest := by
    rw [at?_map, hx, Option.bind_some]
  constructor
  · rw [← hat]
    exact h.1
  · intro way hway hne w hw
    apply h.2 (key :: way)
    · exact List.cons_prefix_cons.mpr ⟨rfl, hway⟩
    · intro he
      exact hne (List.cons.inj he).2
    · rwa [hat]

theorem Spares.exists_map {key : Value} (h : Spares v (key :: path)) :
    ∃ entries, v = map entries := by
  have hm := h.2 [] List.nil_prefix (by simp) v rfl
  cases v with
  | map entries => exact ⟨entries, rfl⟩
  | _ => cases hm

end Path
end Value
end Covenant
