import Covenant.Proofs.Contract.Source
import Covenant.Proofs.Contract.TypeExpr
import Covenant.Proofs.Filter.Null
import Covenant.Proofs.Registry.Table

/-! A contract in the compact notation means the same as a mapping of its texts, in the loose mode
and without a default. -/

namespace Covenant

namespace Kind

variable {kind : Kind} {inner : Check.Delegate} {params : Params}

/-- Loosely, how a contract is written matters for its default alone. -/
theorem check_inline (hd : params.get "default" = .null) (i : Bool) (data : Value) :
    kind.check inner ⟨false, i⟩ params data = kind.check inner ⟨false, false⟩ params data := by
  cases kind with
  | null =>
    simp only [check, Check.null, hd]
    cases data <;> rfl
  | int => simp only [check, Check.int, Bool.not_false, Bool.or_true]
  | float => simp only [check, Check.float, Bool.not_false, Bool.or_true]
  | _ => rfl

end Kind

/-- Parameters that say the same, apart from a type, without a mode and without a default. -/
structure Params.SaysLoosely (p q : Params) : Prop where
  get : ∀ name, name ≠ "type" → Named.get? p name = Named.get? q name
  default : p.get "default" = .null
  strict : p.get "strict" = .null

namespace Params.SaysLoosely

variable {p q : Params}

theorem agreeOn (h : SaysLoosely p q) (kind : Kind) : AgreeOn kind.parameters p q :=
  fun name hn => h.get name fun he => kind.type_notMem_parameters (he ▸ hn)

theorem default_right (h : SaysLoosely p q) : q.get "default" = .null := by
  rw [← h.default, Params.get, Params.get, h.get _ (by decide)]

theorem strict_right (h : SaysLoosely p q) : q.get "strict" = .null := by
  rw [← h.strict, Params.get, Params.get, h.get _ (by decide)]

/-- What a template becomes says the same under both. -/
theorem of_template (h : SaysLoosely p q) (hp : p.Canonical) (hq : q.Canonical)
    (ht : Registry.templates.get? token = some template) :
    SaysLoosely (Named.update template (Template.additions p))
      (Named.update template (Template.additions q)) := by
  have hstrict : Named.get? template "strict" = none := by
    have hall : ∀ e ∈ Registry.templates, Named.get? e.2 "strict" = none := by decide
    exact hall _ (Named.mem_of_get? ht)
  refine ⟨fun name hn => ?_, ?_, ?_⟩
  · rw [Template.get?_update_additions hp, Template.get?_update_additions hq,
      Template.get?_additions hp, Template.get?_additions hq, h.get name hn]
  · rw [Filter.templates_get ht hp (by simp)]
    exact h.default
  · rw [Params.get, Template.get?_update_additions hp, Template.get?_additions hp, hstrict]
    cases Named.get? p "strict" <;> rfl

end Params.SaysLoosely

namespace Node

variable {node node' : Node}

/-- Nodes of one type expression that say the same. -/
structure SaysLoosely (node node' : Node) : Prop where
  type : node.type = node'.type
  mode : node.type.mode ≠ some true
  params : node.params.SaysLoosely node'.params

theorem SaysLoosely.candidates (h : SaysLoosely node node') (data : Value) :
    node.candidates data = node'.candidates data := by
  have hd : (Value.isNull .null) = true := rfl
  simp only [Node.candidates, nullCandidates, members, h.type, h.params.default,
    h.params.default_right, hd, Bool.not_true, Bool.false_and]

theorem SaysLoosely.strict (h : SaysLoosely node node') :
    node.strict false = .ok false ∧ node'.strict false = .ok false := by
  have hm := h.mode
  simp only [Node.strict, ← h.type, h.params.strict, h.params.strict_right]
  cases hmode : node.type.mode with
  | none => exact ⟨rfl, rfl⟩
  | some b =>
    cases b with
    | false => exact ⟨rfl, rfl⟩
    | true => exact absurd hmode hm

end Node

namespace Filter

variable {types : Registry} {nested : Pass} {node node' : Node}

theorem content_inline (types : Registry) (nested : Pass) (i i' : Bool) (mimes : List Value)
    (v : Value) : content types nested i (Check.contentParams mimes) v =
      content types nested i' (Check.contentParams mimes) v := by
  have hd := Check.get_default_contentParams mimes
  simp only [content, Kind.validate_without_default hd, Kind.check_inline hd i,
    Kind.check_inline hd i']

/-- Loosely, a kind makes the same of data, however its contract is written. -/
theorem validate_inline {p q : Params} (h : p.SaysLoosely q) (kind : Kind) (i i' : Bool)
    (data : Value) :
    kind.validate (delegate types nested ⟨false, i⟩) ⟨false, i⟩ p data =
      kind.validate (delegate types nested ⟨false, i'⟩) ⟨false, i'⟩ q data := by
  have hparts : Refines ((fun _ : Failure => False) ∘ Stop.failure)
      (kind.check (delegate types nested ⟨false, i⟩) ⟨false, false⟩ p data)
      (kind.check (delegate types nested ⟨false, i'⟩) ⟨false, false⟩ p data) :=
    kind.check_refines (fun _ _ hf => hf) (fun c _ item => .refl _) fun _ mimes v =>
      .inr (content_inline types nested i i' mimes v)
  rw [Kind.validate_without_default h.default, Kind.validate_without_default h.default_right,
    Kind.check_inline h.default i, Kind.check_inline h.default_right i',
    ← kind.check_congr (h.agreeOn kind)]
  exact congrArg Check.settle (hparts.resolve_left fun ⟨_, hf, _⟩ => hf)

/-- Loosely, contracts that say the same filter data alike, however they are written. -/
theorem run_written (hb : types.table = Registry.builtin) (limit levels : Nat) {i i' : Bool}
    (expanded : List String) (hc : Node.ofContract i contract = .ok (some node))
    (hc' : Node.ofContract i' contract' = .ok (some node')) (h : node.SaysLoosely node')
    (data : Value) :
    run types limit levels ⟨false, i, expanded⟩ data contract =
      run types limit levels ⟨false, i', expanded⟩ data contract' := by
  induction levels generalizing i i' expanded contract contract' node node' with
  | zero => rfl
  | succ levels ih =>
    obtain ⟨hs, hs'⟩ := h.strict
    refine step_congr hc hc' (hs.trans hs'.symm) (h.candidates data)
      fun strict hstrict _ _ token _ => ?_
    cases hs.symm.trans hstrict
    have hcan := Node.canonical_of_ofContract hc
    have hcan' := Node.canonical_of_ofContract hc'
    rw [attempt, attempt]
    cases hl : types.lookup token with
    | error e => rfl
    | ok entry =>
      rcases Registry.lookup_builtin hb hl with ⟨kind, rfl, _⟩ | ⟨base, given, rfl, ht⟩
      · show types.kind token >>= _ = types.kind token >>= _
        cases types.kind token with
        | error e => rfl
        | ok kind' => exact validate_inline h.params kind' _ _ data
      · have htype : Named.get? (("type", .text base) :: given) "type" = some (.text base) :=
          Named.get?_cons_self "type" _ given
        have hx := Template.expand_toEntries htype node.params false
        have hx' := Template.expand_toEntries htype node'.params false
        simp only [bind, Except.bind, hx, hx', Bool.or_false]
        split
        · rfl
        · exact ih _ (templates_node ht hcan _) (templates_node ht hcan' _)
            ⟨rfl, by simp, h.params.of_template hcan hcan' ht⟩

end Filter

/-- The entries of a mapping from texts to texts. -/
def Entries.ofTexts (params : List (String × String)) : Entries :=
  params.map fun p => (.text p.1, .text p.2)

namespace Source

/-- A name for a parameter that can be written, and that is no type, no default and no mode. -/
structure IsPlain (name : String) : Prop extends IsWritable name where
  plain : name ∉ ["type", "default", "strict"]

theorem isPlain_iff : IsPlain name ↔ name ≠ "" ∧ trim name.toList = name.toList ∧
    ':' ∉ name.toList ∧ ';' ∉ name.toList ∧ name ∉ ["type", "default", "strict"] :=
  ⟨fun h => ⟨h.ne_empty, h.trimmed, h.no_colon, h.no_semicolon, h.plain⟩,
    fun ⟨h, ht, hc, hs, hn⟩ => ⟨⟨h, ht, hc, hs⟩, hn⟩⟩

instance : DecidablePred IsPlain := fun _ => decidable_of_iff _ isPlain_iff.symm

theorem IsPlain.canonicalName_ne (h : IsPlain name) (hn : n ∈ ["type", "default", "strict"]) :
    Params.canonicalName name ≠ n := by
  have hall : ∀ n ∈ ["type", "default", "strict"], n ∉ Params.flexibleNames.map (·.2) := by decide
  exact Params.canonicalName_ne (hall n hn) fun he => h.plain (he ▸ hn)

variable {params before after : List (String × String)} {n : String}

theorem get?_canonicalTexts (h : ∀ p ∈ params, Params.canonicalName p.1 ≠ n) :
    Named.get? (canonicalTexts params).reverse n = none := by
  rw [Named.get?_eq_none_iff, List.map_reverse, List.mem_reverse, canonicalTexts, List.map_map,
    List.mem_map]
  rintro ⟨p, hp, he⟩
  exact h p hp he

/-- A mapping of texts is read as its entries put in one after the other. -/
theorem ofEntries_ofTexts (params : List (String × String)) :
    Params.ofEntries (.ofTexts params) = .ok (Named.update [] (canonicalTexts params)) := by
  have hfold (acc : Params) : (Entries.ofTexts params).foldlM Params.putEntry acc =
      .ok (acc.update (canonicalTexts params)) := by
    induction params generalizing acc with
    | nil => rfl
    | cons p params ih => exact ih (acc.put (Params.canonicalName p.1) (.text p.2))
  exact hfold []

theorem canonicalTexts_append (params other : List (String × String)) :
    canonicalTexts (params ++ other) = canonicalTexts params ++ canonicalTexts other :=
  List.map_append

theorem canonicalTexts_type (spec : String) (params : List (String × String)) :
    canonicalTexts (("type", spec) :: params) = ("type", .text spec) :: canonicalTexts params := by
  rw [canonicalTexts, List.map_cons, show Params.canonicalName "type" = "type" by decide]
  rfl

/-- The parameters of a mapping of texts with a type somewhere. -/
def typedTexts (before : List (String × String)) (spec : String)
    (after : List (String × String)) : Params :=
  Named.update [] (canonicalTexts (before ++ ("type", spec) :: after))

theorem get?_typedTexts (before : List (String × String)) (spec : String)
    (after : List (String × String)) :
    Named.get? (typedTexts before spec after) n = (Named.get? (canonicalTexts after).reverse n).or
      ((Named.get? [("type", Value.text spec)] n).or
        (Named.get? (canonicalTexts before).reverse n)) := by
  have hr : (canonicalTexts (before ++ ("type", spec) :: after)).reverse =
      (canonicalTexts after).reverse ++
        ([("type", .text spec)] ++ (canonicalTexts before).reverse) := by
    rw [canonicalTexts_append, canonicalTexts_type, List.reverse_append, List.reverse_cons,
      List.append_assoc]
  rw [typedTexts, Named.get?_update_reverse, hr, Named.get?_append, Named.get?_append]
  exact Option.or_none

variable (hn : ∀ p ∈ before ++ after, IsPlain p.1)
include hn

theorem get_typedTexts (spec : String) :
    (typedTexts before spec after).get "type" = .text spec := by
  have hne (p) (hp : p ∈ after) : Params.canonicalName p.1 ≠ "type" :=
    (hn p (List.mem_append_right before hp)).canonicalName_ne (by simp)
  rw [Params.get, get?_typedTexts, get?_canonicalTexts hne]
  rfl

/-- It does not matter to the other parameters where the type stands, and what it is. -/
theorem saysLoosely_typedTexts (spec spec' : String) :
    Params.SaysLoosely (typedTexts [] spec (before ++ after)) (typedTexts before spec' after) := by
  have hnone {m : String} (hm : m ∈ ["type", "default", "strict"]) (htype : "type" ≠ m) :
      (typedTexts [] spec (before ++ after)).get m = .null := by
    rw [Params.get, get?_typedTexts,
      get?_canonicalTexts fun p hp => (hn p hp).canonicalName_ne hm, Named.get?_cons_ne htype]
    rfl
  refine ⟨fun m hm => ?_, hnone (by simp) (by decide), hnone (by simp) (by decide)⟩
  rw [get?_typedTexts, get?_typedTexts, Named.get?_cons_ne (Ne.symm hm),
    Named.get?_cons_ne (Ne.symm hm), canonicalTexts_append, List.reverse_append, Named.get?_append,
    Option.or_assoc]
  exact congrArg _ Option.or_none

end Source

namespace Node

open Source (typedTexts Writes IsPlain)

variable {t : TypeExpr} {before after : List (String × String)}
  (ht : TypeExpr.read (.text spec) = .ok t) (hn : ∀ p ∈ before ++ after, IsPlain p.1)
include ht hn

theorem ofContract_typedTexts (h : paramsOf contract = .ok (some (typedTexts before spec after)))
    (i : Bool) : ofContract i contract =
      .ok (some ⟨t, typedTexts before spec after, i || isText contract⟩) := by
  rw [ofContract_of_paramsOf h, Source.get_typedTexts hn, TypeExpr.isAbsent_of_read ht, ht]
  rfl

/-- A mapping of texts is read as its type, with its parameters, wherever the type stands. -/
theorem ofContract_ofTexts (i : Bool) :
    ofContract i (.map (Entries.ofTexts (before ++ ("type", spec) :: after))) =
      .ok (some ⟨t, typedTexts before spec after, i⟩) := by
  have hsome : (Entries.get? (Entries.ofTexts (before ++ ("type", spec) :: after))
      (.text "type")).isSome := by
    rw [Option.isSome_iff_ne_none, Ne, Entries.get?_eq_none]
    intro hnone
    exact hnone (.text "type", .text spec) (by simp [Entries.ofTexts])
      (Value.equals_text_iff.mpr rfl)
  have hp : paramsOf (.map (Entries.ofTexts (before ++ ("type", spec) :: after))) =
      .ok (some (typedTexts before spec after)) := by
    rw [paramsOf_typed hsome, Source.ofEntries_ofTexts]
    rfl
  rw [ofContract_typedTexts ht hn hp]
  cases i <;> rfl

/-- A contract in the compact notation is read as its type, with the parameters behind it. -/
theorem ofContract_written (hs : ';' ∉ spec.toList) (hw : Writes (before ++ after) cs) (i : Bool) :
    ofContract i (.text (spec ++ String.ofList cs)) =
      .ok (some ⟨t, typedTexts [] (onChars trim spec) (before ++ after), true⟩) := by
  have hr : Source.read (spec ++ String.ofList cs) =
      .ok (typedTexts [] (onChars trim spec) (before ++ after)) := by
    rw [hw.read_canonical (fun p hp => (hn p hp).toIsWritable) hs, typedTexts, List.nil_append,
      Source.canonicalTexts_type]
    rfl
  have hblank : trim (spec ++ String.ofList cs).toList ≠ [] := by
    have hne := TypeExpr.trim_ne_nil (TypeExpr.read_text_eq_ok_iff.mp ht).1
    rw [Ne, trim_eq_nil_iff] at hne ⊢
    rw [String.toList_append]
    exact fun h => hne fun c hc => h c (List.mem_append_left _ hc)
  have hn' : ∀ p ∈ [] ++ (before ++ after), IsPlain p.1 := hn
  rw [ofContract_typedTexts (TypeExpr.read_trim ht) hn' (paramsOf_text hblank hr)]
  cases i <;> rfl

end Node

namespace Filter

open Source (IsPlain Writes)

/-- In the loose mode, a mapping of texts filters data as the text in which they are written. -/
theorem validate_rendered {f : Filter} {t : TypeExpr} (hb : f.registry.table = Registry.builtin)
    (ht : TypeExpr.read (.text spec) = .ok t) (hm : t.mode ≠ some true)
    (hspec : ';' ∉ spec.toList) (before after : List (String × String))
    (hn : ∀ p ∈ before ++ after, IsPlain p.1) (hw : Writes (before ++ after) cs)
    (hs : s.getD f.config.strict = false) (data : Value) :
    f.validate data (.text (spec ++ String.ofList cs)) s =
      f.validate data (.map (Entries.ofTexts (before ++ ("type", spec) :: after))) s := by
  rw [validate, validate, hs]
  exact run_written hb _ _ [] (Node.ofContract_written ht hn hspec hw false)
    (Node.ofContract_ofTexts ht hn false)
    ⟨rfl, hm, Source.saysLoosely_typedTexts hn _ _⟩ data

/-- A port below ten, or a text that starts with a character and a semicolon. -/
theorem validate_port_or_text :
    initial.validate (.text "7;")
        (.text "~?port | string; max: \"9\"; mask: \"^[^\\\"];\"") none =
      .ok ⟨.text "7;", .text "7;"⟩ := by
  have ht : TypeExpr.read (.text "~?port | string") =
      .ok ⟨["null", "port", "string"], some false, true⟩ := by
    decide
  have hw : Writes ([("max", "9")] ++ [("mask", "^[^\"];")]) _ := .cons .quoted (.cons .quoted .nil)
  have h := validate_rendered (f := initial) (s := none) rfl ht (by decide) (by decide) _ _
    (by decide) hw rfl (.text "7;")
  exact h.trans (by decide +kernel)

end Filter
end Covenant
