import Covenant.Proofs.Contract.TypeExpr

/-! The normal form of a type expression: what every reader of its tokens may rely on, and that it
is read again as it is. -/

namespace Covenant

namespace TypeExpr

/-- A token as it stands in a type: neither blank nor with blanks around it, without a bar, and in
lower case if it is the one for null. -/
structure IsNormalToken (token : String) : Prop where
  nonempty : token ≠ ""
  trimmed : onChars trim token = token
  bar : '|' ∉ token.toList
  null : isNull token → token = nullToken

/-- A type as it is read: it has tokens, and its flag says whether null is one of them. -/
structure IsNormal (t : TypeExpr) : Prop where
  nonempty : t.tokens ≠ []
  tokens : ∀ token ∈ t.tokens, IsNormalToken token
  nullable : t.nullable = true ↔ nullToken ∈ t.tokens

variable {t : TypeExpr} {source : String}

theorem IsNormalToken.isPart (h : IsNormalToken token) : IsPart token := by
  constructor
  · exact h.bar
  · intro hblank
    apply h.nonempty
    rw [← h.trimmed, onChars, hblank]

theorem IsNormalToken.trim_toList (h : IsNormalToken token) :
    trim token.toList = token.toList := by
  have htrim := congrArg String.toList h.trimmed
  rwa [onChars, String.toList_ofList] at htrim

theorem IsNormalToken.ofMember_eq (h : IsNormalToken token) : ofMember token = token := by
  rw [ofMember, h.trimmed]
  split
  · rename_i hnull
    exact (h.null hnull).symm
  · rfl

theorem isNormalToken_nullToken : IsNormalToken nullToken := by
  constructor
  · decide
  · rfl
  · decide
  · intro _
    rfl

/-- The members of a union are trimmed, and no bar is left in them. -/
theorem of_mem_splitUnion (h : member ∈ splitUnion cs) :
    onChars trim member = member ∧ '|' ∉ member.toList := by
  obtain ⟨part, hpart, rfl⟩ := List.mem_map.mp h
  rw [onChars, String.toList_ofList, trim_idem]
  constructor
  · rfl
  · intro hbar
    exact (of_mem_splitWhere hpart (mem_of_mem_trim hbar)).2 rfl

theorem isNormalToken_of_member (he : "" ∉ membersOf source) (hm : member ∈ membersOf source) :
    IsNormalToken (if isNull member then nullToken else member) := by
  obtain ⟨htrim, hbar⟩ := of_mem_splitUnion hm
  split
  · exact isNormalToken_nullToken
  · rename_i hnull
    constructor
    · intro hempty
      exact he (hempty ▸ hm)
    · exact htrim
    · exact hbar
    · intro h
      exact absurd h hnull

theorem membersOf_ne_nil (source : String) : membersOf source ≠ [] := by
  rw [membersOf, splitUnion]
  intro h
  exact splitWhere_ne_nil _ _ (List.map_eq_nil_iff.mp h)

theorem isNormal_ofSource (he : "" ∉ membersOf source) : (ofSource source).IsNormal := by
  have htokens : ∀ token ∈ (membersOf source).map fun t => if isNull t then nullToken else t,
      IsNormalToken token := by
    intro token htoken
    obtain ⟨member, hm, rfl⟩ := List.mem_map.mp htoken
    exact isNormalToken_of_member he hm
  have hne : (membersOf source).map (fun t => if isNull t then nullToken else t) ≠ [] := by
    intro h
    exact membersOf_ne_nil source (List.map_eq_nil_iff.mp h)
  rw [ofSource]
  dsimp only
  split
  · rename_i hnull
    exact ⟨hne, htokens, iff_of_true rfl (List.contains_iff_mem.mp hnull)⟩
  · rename_i hnull
    rw [List.contains_iff_mem] at hnull
    cases (readNullable (readMode (trim source.toList)).2).1 with
    | true =>
      constructor
      · exact List.cons_ne_nil _ _
      · exact List.forall_mem_cons.mpr ⟨isNormalToken_nullToken, htokens⟩
      · exact iff_of_true rfl List.mem_cons_self
    | false => exact ⟨hne, htokens, iff_of_false Bool.false_ne_true hnull⟩

theorem text_eq_union (mode : Option Bool) (tokens : List String) :
    String.ofList (modeMarker mode) ++ join "|" tokens = union mode false tokens := by
  rw [union, nullMarker, if_neg Bool.false_ne_true, List.append_nil, String.ofList_append,
    String.ofList_toList]

/-- A type in normal form is read again as it is, unless its first token looks like a marker. -/
theorem IsNormal.read_union (h : t.IsNormal) (hfirst : StartsPlainly t.tokens) :
    read (.text (union t.mode false t.tokens)) = .ok t := by
  have hparts : ∀ token ∈ t.tokens, IsPart token := by
    intro token htoken
    exact (h.tokens token htoken).isPart
  have htokens : t.tokens.map ofMember = t.tokens := by
    refine (List.map_congr_left ?_).trans (List.map_id _)
    intro token htoken
    exact (h.tokens token htoken).ofMember_eq
  rw [read_parts t.mode false hparts hfirst h.nonempty rfl, htokens]
  obtain ⟨tokens, mode, nullable⟩ := t
  cases nullable with
  | true => rw [if_pos (List.contains_iff_mem.mpr (h.nullable.mp rfl))]
  | false =>
    rw [if_neg]
    · rfl
    · intro hnull
      cases h.nullable.mpr (List.contains_iff_mem.mp hnull)

theorem texts?_map_text (ts : List String) : texts? (ts.map .text) = some ts := by
  induction ts with
  | nil => rfl
  | cons t ts ih => rw [List.map_cons, texts?, ih, Option.map_some]

/-- A sequence of types stands for the union of them. -/
theorem read_sequence (ts : List String)
    (h : spec = .list (ts.map .text) ∨ spec = .tuple (ts.map .text)) :
    read spec = .ok t ↔ read (.text (join "|" ts)) = .ok t := by
  have hsource : sourceOf spec = .ok (join "|" ts) := by
    rcases h with rfl | rfl
    · exact (sourceOf_sequence (.inl rfl)).mpr ⟨ts, texts?_map_text ts, rfl⟩
    · exact (sourceOf_sequence (.inr rfl)).mpr ⟨ts, texts?_map_text ts, rfl⟩
  rw [read_eq_ok_iff, read_text_eq_ok_iff, hsource]
  simp

/-- Whatever is read as a type is in normal form, and is read again as it is when its mode and its
tokens are written down, unless the first of these looks like a marker. A sequence is read as the
union of its members. -/
theorem read_normal (h : read spec = .ok t) :
    t.IsNormal ∧
    (∀ ts u, (read (.list (ts.map .text)) = .ok u ↔ read (.text (join "|" ts)) = .ok u) ∧
      (read (.tuple (ts.map .text)) = .ok u ↔ read (.text (join "|" ts)) = .ok u)) ∧
    ((∀ token ∈ t.tokens.head?, ∀ c ∈ token.toList.head?, c ∉ ['~', '=', '?']) →
      read (.text (String.ofList (modeMarker t.mode) ++ join "|" t.tokens)) = .ok t) := by
  obtain ⟨source, _, he, rfl⟩ := read_eq_ok_iff.mp h
  have hnormal := isNormal_ofSource he
  refine ⟨hnormal, ?_, ?_⟩
  · intro ts u
    exact ⟨read_sequence ts (.inl rfl), read_sequence ts (.inr rfl)⟩
  · intro hfirst
    rw [text_eq_union]
    apply hnormal.read_union
    intro token htoken c hc
    rw [(hnormal.tokens token (List.mem_of_mem_head? htoken)).trim_toList] at hc
    have hmarker := hfirst token htoken c hc
    simp only [List.mem_cons, List.not_mem_nil] at hmarker ⊢
    tauto

def loosely : TypeExpr := ⟨["int", "null", "date"], some false, true⟩

theorem read_loosely :
    read (.list [.text "~ ?int ", .text " NULL|date"]) = .ok loosely ∧ loosely.IsNormal ∧
      read (.text "~int|null|date") = .ok loosely := by
  have h : read (.list [.text "~ ?int ", .text " NULL|date"]) = .ok loosely := by rfl
  obtain ⟨hnormal, _, hread⟩ := read_normal h
  refine ⟨h, hnormal, hread ?_⟩
  intro token htoken c hc
  cases htoken
  cases hc
  decide

end TypeExpr
end Covenant
