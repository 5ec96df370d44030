import Covenant.Contract.TypeExpr
import Covenant.Proofs.Text

/-! Unions of type tokens as they are written. -/

namespace Covenant.TypeExpr

/-- A token that can stand in a union, behind others or behind a marker. -/
structure IsPart (token : String) : Prop where
  bar : '|' ∉ token.toList
  blank : trim token.toList ≠ []

/-- A token that is read as it is written, wherever it stands in a union. -/
structure IsMember (token : String) : Prop where
  bar : '|' ∉ token.toList
  head : (trim token.toList).head? ∉ [none, some '=', some '~', some '?']

theorem isMember_iff : IsMember token ↔ '|' ∉ token.toList ∧
    (trim token.toList).head? ∉ [none, some '=', some '~', some '?'] :=
  ⟨fun h => ⟨h.bar, h.head⟩, fun h => ⟨h.1, h.2⟩⟩

instance : DecidablePred IsMember := fun _ => decidable_of_iff _ isMember_iff.symm

theorem IsMember.trim_eq_cons (h : IsMember token) :
    ∃ c rest, trim token.toList = c :: rest ∧ c ∉ ['=', '~', '?'] := by
  have hh := h.head
  cases ht : trim token.toList with
  | nil => simp [ht] at hh
  | cons c rest => exact ⟨c, rest, rfl, by simpa [ht] using hh⟩

theorem IsMember.isPart (h : IsMember token) : IsPart token := by
  obtain ⟨c, rest, ht, _⟩ := h.trim_eq_cons
  constructor
  · exact h.bar
  · rw [ht]
    exact List.cons_ne_nil c rest

/-- The first token is not taken for a marker. -/
def StartsPlainly (tokens : List String) : Prop :=
  ∀ token ∈ tokens.head?, ∀ c ∈ (trim token.toList).head?, c ∉ ['=', '~', '?']

/-- The token that is read for a member of a union. -/
def ofMember (token : String) : String :=
  if isNull (onChars trim token) then nullToken else onChars trim token

def modeMarker : Option Bool → List Char
  | some true => ['=']
  | some false => ['~']
  | none => []

def nullMarker (marked : Bool) : List Char := if marked then ['?'] else []

/-- A union behind a mode marker and the marker for null, each of which may be missing. -/
def union (mode : Option Bool) (marked : Bool) (tokens : List String) : String :=
  String.ofList (modeMarker mode ++ nullMarker marked ++ (join "|" tokens).toList)

theorem splitUnion_trim (cs : List Char) : splitUnion (trim cs) = splitUnion cs := by
  have hp : ∀ c, (c == '|') = true → ¬isBlank c := by
    intro c hc
    rw [beq_iff_eq.mp hc]
    decide
  rw [splitUnion, splitUnion, ← Function.comp_def String.ofList trim, ← List.map_map,
    ← List.map_map, map_trim_splitWhere_trim hp]

variable {ts : List String} {marker : Option Bool} {marked : Bool}

theorem startsPlainly_of_isMember (h : ∀ t ∈ ts, IsMember t) : StartsPlainly ts := by
  intro token htoken c hc
  obtain ⟨d, rest, ht, hd⟩ := (h token (List.mem_of_mem_head? htoken)).trim_eq_cons
  rw [ht] at hc
  cases hc
  exact hd

theorem splitUnion_join (h : ∀ t ∈ ts, IsPart t) (hne : ts ≠ []) :
    splitUnion (join "|" ts).toList = ts.map (onChars trim) := by
  have hs := splitWhere_join (show "|".toList = ['|'] from rfl) (fun t ht => (h t ht).bar) hne
  rw [splitUnion, hs, List.map_map]
  rfl

theorem trim_join (h : ∀ t ∈ ts, IsPart t) (hs : StartsPlainly ts) (hne : ts ≠ []) :
    ∃ c rest, trim (join "|" ts).toList = c :: rest ∧ c ∉ ['=', '~', '?'] := by
  obtain ⟨t, ts, rfl⟩ := List.exists_cons_of_ne_nil hne
  obtain ⟨c, rest, ht⟩ := List.exists_cons_of_ne_nil (h t List.mem_cons_self).blank
  have hc : c ∉ ['=', '~', '?'] := hs t rfl c (by rw [ht]; rfl)
  cases ts with
  | nil => exact ⟨c, rest, ht, hc⟩
  | cons u ts =>
    rw [join_cons_cons, String.append_assoc, String.toList_append]
    obtain ⟨r, hr⟩ := trim_append_of_cons ht ("|" ++ join "|" (u :: ts)).toList
    exact ⟨c, r, hr, hc⟩

theorem readMode_marker (marker : Option Bool) (h : trim cs = c :: rest) (hc : c ∉ ['=', '~']) :
    readMode (trim (modeMarker marker ++ cs)) = (marker, trim cs) := by
  have hb (d : Char) (hd : ¬isBlank d) : trim (d :: cs) = d :: trimRight cs :=
    trim_of_trimLeft (trimLeft_cons_of_not_blank hd)
  match marker with
  | some true =>
    rw [modeMarker, List.singleton_append, hb '=' (by decide), readMode, trimLeft_trimRight]
  | some false =>
    rw [modeMarker, List.singleton_append, hb '~' (by decide), readMode, trimLeft_trimRight]
  | none =>
    rw [modeMarker, List.nil_append, h]
    simp only [List.mem_cons, not_or] at hc
    unfold readMode
    split
    · rename_i he
      exact absurd (List.cons.inj he).1 hc.1
    · rename_i he
      exact absurd (List.cons.inj he).1 hc.2.1
    · rfl

theorem readNullable_marker (marked : Bool) (h : trim cs = c :: rest) (hc : c ≠ '?') :
    ∃ ds, readNullable (trim (nullMarker marked ++ cs)) = (marked, ds) ∧
      splitUnion ds = splitUnion cs := by
  cases marked with
  | true =>
    have hb : trim ('?' :: cs) = '?' :: trimRight cs :=
      trim_of_trimLeft (trimLeft_cons_of_not_blank (by decide))
    refine ⟨trimRight cs, congrArg readNullable hb, ?_⟩
    rw [← splitUnion_trim, trim_trimRight, splitUnion_trim]
  | false =>
    refine ⟨trim cs, ?_, splitUnion_trim cs⟩
    show readNullable (trim cs) = (false, trim cs)
    rw [h]
    unfold readNullable
    split
    · rename_i he
      exact absurd (List.cons.inj he).1 hc
    · rfl

theorem trim_nullMarker (marked : Bool) (h : trim cs = c :: rest) (hc : c ∉ ['=', '~', '?']) :
    ∃ c rest, trim (nullMarker marked ++ cs) = c :: rest ∧ c ∉ ['=', '~'] := by
  cases marked with
  | true => exact ⟨'?', _, trim_of_trimLeft (trimLeft_cons_of_not_blank (by decide)), by decide⟩
  | false =>
    have hs : ['=', '~'] ⊆ ['=', '~', '?'] := by simp
    exact ⟨c, rest, h, fun hm => hc (hs hm)⟩

theorem trim_part_ne (h : IsPart t) : onChars trim t ≠ "" := by
  intro he
  have he := congrArg String.toList he
  rw [onChars, String.toList_ofList] at he
  exact h.blank he

/-- A union is read as its members, null first where only the marker stands for it. -/
theorem read_parts (marker : Option Bool) (marked : Bool) (h : ∀ t ∈ ts, IsPart t)
    (hfirst : StartsPlainly ts) (hne : ts ≠ [])
    (hs : trim spec.toList = trim (union marker marked ts).toList) :
    read (.text spec) = .ok
      (if (ts.map ofMember).contains nullToken then ⟨ts.map ofMember, marker, true⟩
      else ⟨if marked then nullToken :: ts.map ofMember else ts.map ofMember, marker, marked⟩) := by
  obtain ⟨c, rest, hj, hc⟩ := trim_join h hfirst hne
  obtain ⟨d, rest', hq, hd⟩ := trim_nullMarker marked hj hc
  obtain ⟨ds, hn, ht⟩ := readNullable_marker marked hj fun he => hc (by simp [he])
  have hm := readMode_marker marker hq hd
  have hb : ((ts.map (onChars trim)).any (· == "")) = false := by
    rw [List.any_map, List.any_eq_false]
    intro t ht
    simpa using trim_part_ne (h t ht)
  have ho : (ts.map (onChars trim)).map (fun t => if isNull t then nullToken else t) =
      ts.map ofMember := by
    simp only [List.map_map, Function.comp_def]
    rfl
  rw [splitUnion_join h hne] at ht
  rw [union, String.toList_ofList, List.append_assoc] at hs
  simp only [read, sourceOf, bind, Except.bind, hs, hm, hn, ht, hb, ho, Bool.false_eq_true,
    if_false]
  split
  · rfl
  · rfl

/-- Members are read wherever they stand. -/
theorem read_union (marker : Option Bool) (marked : Bool) (h : ∀ t ∈ ts, IsMember t)
    (hne : ts ≠ []) (hs : trim spec.toList = trim (union marker marked ts).toList) :
    read (.text spec) = .ok
      (if (ts.map ofMember).contains nullToken then ⟨ts.map ofMember, marker, true⟩
      else ⟨if marked then nullToken :: ts.map ofMember else ts.map ofMember, marker, marked⟩) :=
  read_parts marker marked (fun t ht => (h t ht).isPart) (startsPlainly_of_isMember h) hne hs

/-- Marking a union does not change what is in it apart from null. -/
theorem filter_marked (marked : Bool) (ts : List String) :
    (if marked then nullToken :: ts else ts).filter (· != nullToken) =
      ts.filter (· != nullToken) := by
  cases marked with
  | true => rw [if_pos rfl, List.filter_cons_of_neg (by simp)]
  | false => rw [if_neg (by decide)]

theorem union_ne_empty (h : ∀ t ∈ ts, IsMember t) (hne : ts ≠ []) :
    union marker marked ts ≠ "" := by
  obtain ⟨c, rest, ht, _⟩ :=
    trim_join (fun t ht => (h t ht).isPart) (startsPlainly_of_isMember h) hne
  intro he
  have hl := congrArg String.toList he
  rw [union, String.toList_ofList] at hl
  rw [(List.append_eq_nil_iff.mp hl).2] at ht
  cases ht

theorem trim_union_ne_nil (h : IsMember token) :
    trim (union marker marked [token]).toList ≠ [] := by
  obtain ⟨c, rest, ht, _⟩ := h.trim_eq_cons
  intro hn
  have hj : trim (join "|" [token]).toList = [] := by
    rw [trim_eq_nil_iff, union, String.toList_ofList] at hn
    exact trim_eq_nil_iff.mpr fun c hc => hn c (List.mem_append_right _ hc)
  rw [join, ht] at hj
  cases hj

theorem semicolon_notMem_union (h : ';' ∉ token.toList) :
    ';' ∉ (union marker marked [token]).toList := by
  have hm : ';' ∉ modeMarker marker := by
    rcases marker with _ | _ | _ <;> decide
  have hn : ';' ∉ nullMarker marked := by
    cases marked <;> decide
  rw [union, String.toList_ofList, join, List.mem_append, List.mem_append]
  exact fun hc => hc.elim (fun hc => hc.elim hm hn) h

/-- A union of one member. -/
theorem read_single (marker : Option Bool) (marked : Bool) (h : IsMember token)
    (ho : ofMember token = token)
    (hs : trim spec.toList = trim (union marker marked [token]).toList) :
    read (.text spec) = .ok
      (if token = nullToken then ⟨[token], marker, true⟩
      else ⟨if marked then [nullToken, token] else [token], marker, marked⟩) := by
  have hm : ∀ t ∈ [token], IsMember t := by simpa using h
  have hc : [token].contains nullToken = true ↔ token = nullToken := by simp [eq_comm]
  rw [read_union marker marked hm (by simp) hs, List.map_singleton, ho]
  simp only [hc]

end Covenant.TypeExpr
