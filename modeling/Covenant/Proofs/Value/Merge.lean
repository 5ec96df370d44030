import Covenant.Proofs.Value.Keyed
import Covenant.Value.Merge

/-! Mappings laid over each other, by the paths of keys through them: the last layer that has
something to say about a path decides what is there, and nothing comes from elsewhere. -/

namespace Covenant

open Value (isHashable keyedBy entriesKeyedBy)

namespace Entries

variable {above : Entries} {key v : Value}

/-- Each key of the mapping above is laid over its value below, and the other keys stay. -/
theorem get?_overlay (h : entriesKeyedBy isHashable above) (base : Entries) (key : Value) :
    get? (overlay base above) key =
      (above.get? key).elim (base.get? key) fun v => some (Value.over (base.get? key) v) := by
  induction above generalizing base with
  | nil => rfl
  | cons e above ih =>
    obtain ⟨k, v⟩ := e
    obtain ⟨hd, hkeys⟩ := entriesKeyedBy_iff.mp h
    obtain ⟨hfirst, hd⟩ := List.pairwise_cons.mp hd
    obtain ⟨⟨hk, hv⟩, hkeys⟩ := List.forall_mem_cons.mp hkeys
    rw [overlay, ih (entriesKeyedBy_iff.mpr ⟨hd, hkeys⟩), get?_put hk, get?_cons]
    by_cases hkey : k.equals key
    · have hleveled := Value.leveled_of_equals k key (.inl hk) hkey
      -- no other key of the mapping above is equal to this one
      have hrest : get? above key = none := by
        rw [get?_eq_none]
        intro e he hekey
        apply hfirst e he
        have hel := Value.leveled_of_equals e.1 key (.inl (hkeys e he).1) hekey
        rwa [(Value.equals_congr hel k).2]
      rw [hrest, if_pos hkey, if_pos hkey, get?_congr hleveled]
      rfl
    · rw [if_neg hkey, if_neg hkey]

end Entries

namespace Value

variable {v w below : Value} {path : List Value}

theorem over_none (v : Value) : Value.over none v = v := by
  cases v <;> rfl

theorem over_of_not_isMap (h : v.isMap = false) (base : Option Value) : Value.over base v = v := by
  cases v with
  | map entries => cases h
  | _ => rfl

/-- What is laid over a mapping is laid over it key by key, and stands for anything else. -/
theorem over_map (base : Option Value) (entries : Entries) :
    Value.over base (map entries) = map entries ∨
      ∃ inner, base = some (map inner) ∧
        Value.over base (map entries) = map (Entries.overlay inner entries) := by
  cases base with
  | none => exact .inl rfl
  | some below =>
    cases below with
    | map inner => exact .inr ⟨inner, rfl, rfl⟩
    | _ => exact .inl rfl

/-- A plain value above is there, whatever is below. -/
theorem at?_over_of_plain (hv : v.keyedBy isHashable) (hat : v.at? path = some w)
    (hw : w.isMap = false) (base : Option Value) : (Value.over base v).at? path = some w := by
  induction path generalizing v base with
  | nil =>
    cases hat
    rw [over_of_not_isMap hw, at?]
  | cons key path ih =>
    obtain ⟨entries, x, rfl, hx, hat⟩ := at?_cons_eq_some.mp hat
    rcases over_map base entries with ho | ⟨inner, rfl, ho⟩
    · rw [ho, at?_map, hx, Option.bind_some, hat]
    · rw [ho, at?_map, Entries.get?_overlay hv, hx, Option.elim_some, Option.bind_some]
      exact ih (Entries.keyedBy_of_get? hv hx) hat _

/-- What is below stays where the value above spares it. -/
theorem at?_over_of_spares (hv : v.keyedBy isHashable) (hs : v.Spares path)
    (hat : below.at? path = some w) : (Value.over (some below) v).at? path = some w := by
  induction path generalizing v below with
  | nil => cases hs.1
  | cons key path ih =>
    obtain ⟨inner, x, rfl, hx, hat⟩ := at?_cons_eq_some.mp hat
    obtain ⟨entries, rfl⟩ := hs.exists_map
    rw [Value.over, at?_map, Entries.get?_overlay hv, hx]
    cases hy : Entries.get? entries key with
    | none => exact hat
    | some y => exact ih (Entries.keyedBy_of_get? hv hy) (hs.tail hy) hat

/-- A plain value comes from above or from below, where it is at the same path. -/
theorem at?_of_at?_over (hv : v.keyedBy isHashable) {base : Option Value}
    (hat : (Value.over base v).at? path = some w) (hw : w.isMap = false) :
    v.at? path = some w ∨ ∃ below ∈ base, below.at? path = some w := by
  induction path generalizing v base with
  | nil =>
    cases hat
    left
    cases hm : v.isMap with
    | false => rw [over_of_not_isMap hm, at?]
    | true =>
      cases v with
      | map entries =>
        rcases over_map base entries with ho | ⟨inner, _, ho⟩
        · rw [ho] at hw
          cases hw
        · rw [ho] at hw
          cases hw
      | _ => cases hm
  | cons key path ih =>
    cases v with
    | map entries =>
      rcases over_map base entries with ho | ⟨inner, rfl, ho⟩
      · rw [ho] at hat
        exact .inl hat
      · rw [ho, at?_map, Entries.get?_overlay hv] at hat
        cases hx : Entries.get? entries key with
        | none =>
          rw [hx] at hat
          exact .inr ⟨_, rfl, hat⟩
        | some x =>
          rw [hx] at hat
          rw [at?_map, hx]
          rcases ih (Entries.keyedBy_of_get? hv hx) hat with h | ⟨y, hy, h⟩
          · exact .inl h
          · refine .inr ⟨_, rfl, ?_⟩
            rw [at?_map, Option.mem_def.mp hy]
            exact h
    | _ => exact .inl hat

end Value

namespace Entries

variable {entries base above : Entries} {key v : Value}

/-- The keys of a mapping above follow those below unless they are among them. -/
theorem keys_overlay (base above : Entries) (rest : List Value) :
    List.eraseDupsBy.loop (fun key seen => seen.equals key) (above.map (·.1) ++ rest)
        (base.map (·.1)).reverse =
      List.eraseDupsBy.loop (fun key seen => seen.equals key) rest
        ((overlay base above).map (·.1)).reverse := by
  induction above generalizing base with
  | nil => rfl
  | cons e above ih =>
    obtain ⟨k, v⟩ := e
    have hany : (base.map (·.1)).reverse.any (fun seen => seen.equals k) =
        base.any fun e => e.1.equals k := by
      rw [List.any_reverse, List.any_map]
      rfl
    rw [overlay, ← ih, keys_put, List.map_cons, List.cons_append, List.eraseDupsBy.loop, hany]
    cases base.any fun e => e.1.equals k with
    | true => rfl
    | false => rw [if_neg (by decide), List.reverse_append]; rfl

theorem overlay_of_distinct (h : Distinct (base ++ above)) :
    overlay base above = base ++ above := by
  induction above generalizing base with
  | nil => exact (List.append_nil base).symm
  | cons e above ih =>
    obtain ⟨k, v⟩ := e
    have hbase : ∀ a ∈ base, ¬a.1.equals k := by
      intro a ha
      exact (List.pairwise_append.mp h).2.2 a ha (k, v) List.mem_cons_self
    have hput := put_append hbase [] v
    rw [List.append_nil] at hput
    rw [List.append_cons] at h ⊢
    rw [overlay, get?_eq_none.mpr hbase, Value.over_none, hput]
    exact ih h

/-- The keys of all mappings, each where it comes first. -/
theorem keys_overlayAll (h : Distinct base) (layers : List Entries) :
    (overlayAll base layers).map (·.1) =
      ((base :: layers).flatMap fun layer => layer.map (·.1)).eraseDupsBy
        fun key seen => seen.equals key := by
  have hlayers (base : Entries) :
      List.eraseDupsBy.loop (fun key seen => seen.equals key)
        (layers.flatMap fun layer => layer.map (·.1)) (base.map (·.1)).reverse =
      (overlayAll base layers).map (·.1) := by
    induction layers generalizing base with
    | nil => exact List.reverse_reverse _
    | cons layer layers ih => rw [List.flatMap_cons, keys_overlay, ih]; rfl
  have hfirst := keys_overlay [] base (layers.flatMap fun layer => layer.map (·.1))
  rw [@overlay_of_distinct [] base h, List.nil_append, hlayers] at hfirst
  rw [List.flatMap_cons]
  exact hfirst.symm

end Entries

mutual
/-- A value laid over itself stays as it is if all keys in it are found. -/
theorem Value.over_self (v : Value) (h : v.keyedBy fun k => k.equals k) :
    Value.over (some v) v = v := by
  match v with
  | .map entries =>
    obtain ⟨hd, hkeys⟩ := Entries.entriesKeyedBy_iff.mp h
    have hfound : ∀ e ∈ entries, Entries.get? entries e.1 = some e.2 := by
      intro e he
      exact Entries.get?_of_equals_self hd he (hkeys e he).1
    exact congrArg Value.map (Entries.overlay_found entries entries hfound h)
  | .null | .bool _ | .int _ | .float _ | .text _ | .list _ | .tuple _ | .deque _ | .bytes _
  | .buffer _ => rfl

theorem Entries.overlay_found (base above : Entries)
    (hfound : ∀ e ∈ above, Entries.get? base e.1 = some e.2)
    (h : entriesKeyedBy (fun k => k.equals k) above) : Entries.overlay base above = base := by
  match above with
  | [] => rfl
  | (k, v) :: above =>
    obtain ⟨hhead, hfound⟩ := List.forall_mem_cons.mp hfound
    simp only [entriesKeyedBy, Bool.and_eq_true] at h
    rw [Entries.overlay, hhead, Value.over_self v h.1.2, Entries.put_of_get? hhead]
    exact Entries.overlay_found base above hfound h.2
end

namespace Entries

open Value (map at?)

variable {base : Entries} {layers : List Entries} {path : List Value} {v : Value}

theorem overlayAll_append (base : Entries) (layers more : List Entries) :
    overlayAll base (layers ++ more) = overlayAll (overlayAll base layers) more :=
  List.foldl_append

/-- What the layers above spare stays. -/
theorem at?_overlayAll_of_spares (hk : ∀ layer ∈ layers, entriesKeyedBy isHashable layer)
    (hs : ∀ layer ∈ layers, (map layer).Spares path) (hat : (map base).at? path = some v) :
    (map (overlayAll base layers)).at? path = some v := by
  induction layers generalizing base with
  | nil => exact hat
  | cons layer layers ih =>
    obtain ⟨hkey, hk⟩ := List.forall_mem_cons.mp hk
    obtain ⟨hspare, hs⟩ := List.forall_mem_cons.mp hs
    exact ih hk hs (Value.at?_over_of_spares (v := map layer) hkey hspare hat)

/-- Of the layers, the last one that has something to say about a path decides what is there. -/
theorem at?_overlayAll_of_plain (hk : ∀ layer ∈ layers, entriesKeyedBy isHashable layer)
    (hsplit : base :: layers = before ++ layer :: after) (hat : (map layer).at? path = some v)
    (hv : v.isMap = false) (hs : ∀ later ∈ after, (map later).Spares path) :
    (map (overlayAll base layers)).at? path = some v := by
  cases before with
  | nil =>
    obtain ⟨rfl, rfl⟩ := List.cons.inj hsplit
    exact at?_overlayAll_of_spares hk hs hat
  | cons first before =>
    obtain ⟨rfl, hrest⟩ := List.cons.inj hsplit
    rw [show layers = before ++ layer :: after from hrest] at hk ⊢
    obtain ⟨_, hk⟩ := List.forall_mem_append.mp hk
    obtain ⟨hkey, hk⟩ := List.forall_mem_cons.mp hk
    rw [overlayAll_append]
    exact @at?_overlayAll_of_spares (overlay _ layer) _ _ _ hk hs
      (Value.at?_over_of_plain (v := map layer) hkey hat hv (some (map _)))

/-- No plain value comes from elsewhere. -/
theorem mem_of_at?_overlayAll (hk : ∀ layer ∈ layers, entriesKeyedBy isHashable layer)
    (hat : (map (overlayAll base layers)).at? path = some v) (hv : v.isMap = false) :
    ∃ layer ∈ base :: layers, (map layer).at? path = some v := by
  induction layers generalizing base with
  | nil => exact ⟨base, List.mem_cons_self, hat⟩
  | cons layer layers ih =>
    obtain ⟨hkey, hk⟩ := List.forall_mem_cons.mp hk
    obtain ⟨source, hm, hat⟩ := @ih (overlay base layer) hk hat
    rcases List.mem_cons.mp hm with rfl | hm
    · rcases @Value.at?_of_at?_over (map layer) _ _ hkey (some (map base)) hat hv with
        h | ⟨_, ⟨⟩, h⟩
      · exact ⟨layer, List.mem_cons_of_mem _ List.mem_cons_self, h⟩
      · exact ⟨base, List.mem_cons_self, h⟩
    · exact ⟨source, List.mem_cons_of_mem _ (List.mem_cons_of_mem _ hm), hat⟩

/-- Mappings laid over each other, by the paths of keys through them. A plain value of a layer is
what is at its path, unless a later layer has something at that path or a plain value on the way to
it, and no plain value comes from elsewhere. The keys are those of all layers, each where it comes
first. It does not matter whether layers are put on together or one after the other, and a mapping
over itself is the mapping, if each of its keys is equal to itself. -/
theorem overlayAll_paths (hbase : entriesKeyedBy isHashable base)
    (hlayers : ∀ layer ∈ layers, entriesKeyedBy isHashable layer) :
    (∀ before layer after path v, base :: layers = before ++ layer :: after →
      (map layer).at? path = some v → v.isMap = false →
      (∀ later ∈ after, (map later).Spares path) →
        (map (overlayAll base layers)).at? path = some v) ∧
    (∀ path v, (map (overlayAll base layers)).at? path = some v → v.isMap = false →
      ∃ layer ∈ base :: layers, (map layer).at? path = some v) ∧
    (overlayAll base layers).map (·.1) =
      (((base :: layers).flatMap fun layer => layer.map (·.1)).eraseDupsBy
        fun key seen => seen.equals key) ∧
    (∀ more, overlayAll base (layers ++ more) = overlayAll (overlayAll base layers) more) ∧
    (entriesKeyedBy (fun k => k.equals k) base → overlayAll base [base] = base) := by
  refine ⟨?_, ?_, ?_, ?_, ?_⟩
  · intro before layer after path v hsplit hat hv hs
    exact at?_overlayAll_of_plain hlayers hsplit hat hv hs
  · intro path v hat hv
    exact mem_of_at?_overlayAll hlayers hat hv
  · exact keys_overlayAll (entriesKeyedBy_iff.mp hbase).1 layers
  · exact overlayAll_append base layers
  · intro hself
    exact Value.map.inj (Value.over_self (map base) hself)

section Example

open Value (int text bool)

/-- Two settings in a section, and one outside. -/
def sectioned : Entries :=
  [(text "a", map [(text "b", int 1), (text "c", int 2)]), (text "x", int 5)]

/-- A plain value in place of the section, and a section of its own. -/
def flattened : Entries :=
  [(text "a", int 7), (text "y", map [(text "z", bool true)])]

/-- The section again, and an empty one in place of the setting outside. -/
def restored : Entries :=
  [(text "a", map [(text "b", int 3)]), (text "x", map [])]

theorem restored_spares : (map restored).Spares [text "y", text "z"] := by
  constructor
  · rfl
  · intro way hway hne w hw
    cases way with
    | nil =>
      cases hw
      rfl
    | cons key way =>
      obtain ⟨rfl, _⟩ := List.cons_prefix_cons.mp hway
      cases hw

theorem overlayAll_restored :
    (map (overlayAll sectioned [flattened, restored])).at? [text "a", text "b"] = some (int 3) ∧
      (map (overlayAll sectioned [flattened, restored])).at? [text "y", text "z"] =
        some (bool true) ∧
      (overlayAll sectioned [flattened, restored]).map (·.1) = [text "a", text "x", text "y"] ∧
      overlayAll sectioned [sectioned] = sectioned := by
  have hlayers : ∀ layer ∈ [flattened, restored], entriesKeyedBy isHashable layer := by decide
  obtain ⟨hat, _, hkeys, _, hself⟩ := @overlayAll_paths sectioned _ (by decide) hlayers
  refine ⟨?_, ?_, hkeys.trans rfl, hself (by decide)⟩
  · exact hat [sectioned, flattened] restored [] _ _ rfl rfl rfl (by simp)
  · apply hat [sectioned] flattened [restored] _ _ rfl rfl rfl
    intro later hl
    rw [List.mem_singleton.mp hl]
    exact restored_spares

end Example

end Entries
end Covenant
