import Covenant.Config.Layer
import Covenant.Config.Resolve
import Covenant.Proofs.Entries
import Covenant.Proofs.Named
import Covenant.Proofs.Outcome
import Covenant.Proofs.Text

/-! Which layer of a configuration each setting comes from. A table of aliases that was read once is
read as it is in the layers above. -/

namespace Covenant.Config

namespace Checked

variable {a : Checked α} {b : Checked β}

theorem both_eq_ok : a.both b = .ok (x, y) ↔ a = .ok x ∧ b = .ok y := by
  cases a <;> cases b <;> simp [both]

theorem under_eq_ok : a.under key = .ok x ↔ a = .ok x := by
  cases a <;> simp [under, Except.mapError]

end Checked

/-- A text without blanks around it. -/
def IsTrimmed (s : String) : Prop := onChars trimSpace s = s

instance (s : String) : Decidable (IsTrimmed s) := inferInstanceAs (Decidable (_ = _))

theorem isTrimmed_trimSpace (cs : List Char) : IsTrimmed (String.ofList (trimSpace cs)) := by
  have hidem : trimSpace (trimSpace cs) = trimSpace cs := rdropWhile_dropWhile_idem isSpace cs
  rw [IsTrimmed, onChars, String.toList_ofList, hidem]

theorem isTrimmed_of_readText (h : readText v = .ok s) : IsTrimmed s := by
  cases v with
  | text t =>
    cases h
    exact isTrimmed_trimSpace _
  | bytes data | buffer data =>
    simp only [readText] at h
    split at h
    · cases h
      exact isTrimmed_trimSpace _
    · cases h
  | _ => cases h

theorem readText_of_isTrimmed (h : IsTrimmed s) : readText (.text s) = .ok s := congrArg Except.ok h

/-- What an alias stands for, once it is read: a text, a mapping with different texts for keys, or a
list. -/
inductive IsTarget : Value → Prop
  | text (h : IsTrimmed s) : IsTarget (.text s)
  | map (hk : ∀ e ∈ entries, ∃ s, e.1 = .text s ∧ IsTrimmed s) (hd : Entries.Distinct entries) :
      IsTarget (.map entries)
  | list (items : List Value) : IsTarget (.list items)

/-- A table of aliases, once it is read. -/
structure IsTable (table : Named Value) : Prop where
  nodup : (table.map (·.1)).Nodup
  names : ∀ e ∈ table, IsTrimmed e.1
  targets : ∀ e ∈ table, IsTarget e.2

section ReadTable

variable {read : Value → Checked Value}

/-- Each entry of a table that was read has a trimmed name and something that was read. -/
theorem of_readTable (h : readTable read entries = .ok table) :
    ∀ e ∈ table, IsTrimmed e.1 ∧ ∃ v, read v = .ok e.2 := by
  induction entries generalizing table with
  | nil =>
    cases h
    simp
  | cons entry entries ih =>
    obtain ⟨key, value⟩ := entry
    obtain ⟨⟨⟨name, v⟩, others⟩, hb, h⟩ := bind_eq_ok.mp h
    obtain ⟨he, ho⟩ := Checked.both_eq_ok.mp hb
    obtain ⟨hk, hv⟩ := Checked.both_eq_ok.mp he
    cases h
    refine List.forall_mem_cons.mpr ⟨⟨?_, value, Checked.under_eq_ok.mp hv⟩, ih ho⟩
    exact isTrimmed_of_readText (Checked.under_eq_ok.mp (Checked.under_eq_ok.mp hk))

/-- A table is read as it is when its names are trimmed and it holds what is read as it is. -/
theorem readTable_texts (h : ∀ e ∈ table, IsTrimmed e.1 ∧ read e.2 = .ok e.2) :
    readTable read (table.map fun e => (.text e.1, e.2)) = .ok table := by
  induction table with
  | nil => rfl
  | cons e table ih =>
    obtain ⟨⟨hn, hv⟩, h⟩ := List.forall_mem_cons.mp h
    have hkey : readKey (.text e.1) = .ok e.1 :=
      Checked.under_eq_ok.mpr (Checked.under_eq_ok.mpr (readText_of_isTrimmed hn))
    have hvalue : (read e.2).under (placeOf (.text e.1)) = .ok e.2 := Checked.under_eq_ok.mpr hv
    rw [List.map_cons, readTable, ih h, hkey, hvalue]
    rfl

end ReadTable

theorem isTarget_of_readMapping (h : readTarget.readMapping v = .ok entries) :
    IsTarget (.map entries) := by
  cases v with
  | map given =>
    obtain ⟨table, ht, h⟩ := bind_eq_ok.mp h
    cases h
    have hkeys : ∀ e ∈ table.map fun e => (Value.text e.1, e.2),
        (∃ s, e.1 = .text s ∧ IsTrimmed s) ∧ True := by
      intro entry hm
      obtain ⟨e, he, rfl⟩ := List.mem_map.mp hm
      exact ⟨⟨e.1, rfl, (of_readTable ht e he).1⟩, trivial⟩
    refine .map (fun e he => ?_) (Entries.Distinct.update .nil _)
    exact (Entries.update_forall (P := fun key => ∃ s, key = .text s ∧ IsTrimmed s)
      (Q := fun _ => True) (by simp) hkeys e he).1
  | _ => cases h

theorem isTarget_of_readTarget (h : readTarget v = .ok t) : IsTarget t := by
  unfold readTarget at h
  dsimp only at h
  split at h
  · rename_i s hs
    cases h
    exact .text (isTrimmed_of_readText (Checked.under_eq_ok.mp hs))
  · rename_i entries hm _
    cases h
    exact isTarget_of_readMapping (Checked.under_eq_ok.mp hm)
  · cases h
    exact .list _
  · cases h

theorem exists_names {entries : Entries} (h : ∀ e ∈ entries, ∃ s, e.1 = .text s ∧ IsTrimmed s) :
    ∃ table : Named Value, (entries = table.map fun e => (.text e.1, e.2)) ∧
      ∀ e ∈ table, IsTrimmed e.1 := by
  induction entries with
  | nil => exact ⟨[], rfl, by simp⟩
  | cons e entries ih =>
    obtain ⟨⟨s, hs, ht⟩, h⟩ := List.forall_mem_cons.mp h
    obtain ⟨table, rfl, hn⟩ := ih h
    exact ⟨(s, e.2) :: table, by rw [List.map_cons, ← hs], List.forall_mem_cons.mpr ⟨ht, hn⟩⟩

/-- A target is read as it is. -/
theorem readTarget_of_isTarget (h : IsTarget t) : readTarget t = .ok t := by
  cases h with
  | text h =>
    rw [readTarget, readText_of_isTrimmed h]
    rfl
  | @map entries hk hd =>
    obtain ⟨table, he, hn⟩ := exists_names hk
    have hread : readTable .ok entries = .ok table := by
      rw [he]
      exact readTable_texts fun e hm => ⟨hn e hm, rfl⟩
    have hmapping : readTarget.readMapping (.map entries) = .ok entries := by
      show (readTable .ok entries >>= fun table =>
        .ok (Entries.ofList (table.map fun e => (.text e.1, e.2)))) = _
      rw [hread]
      show Except.ok (Entries.update [] _) = _
      rw [← he, Entries.update_nil hd]
    rw [readTarget, hmapping]
    rfl
  | list items => rfl

namespace IsTable

variable {table other : Named Value}

theorem nil : IsTable [] := ⟨List.nodup_nil, by simp, by simp⟩

theorem put (h : IsTable table) (hn : IsTrimmed name) (ht : IsTarget target) :
    IsTable (table.put name target) := by
  refine ⟨Named.nodup_put h.nodup name target, fun e he => ?_, fun e he => ?_⟩
  · rcases Named.mem_put he with rfl | he
    · exact hn
    · exact h.names e he
  · rcases Named.mem_put he with rfl | he
    · exact ht
    · exact h.targets e he

theorem update (h : IsTable table) (ho : ∀ e ∈ other, IsTrimmed e.1 ∧ IsTarget e.2) :
    IsTable (table.update other) := by
  induction other generalizing table with
  | nil => exact h
  | cons e other ih =>
    obtain ⟨⟨hn, ht⟩, ho⟩ := List.forall_mem_cons.mp ho
    exact ih (h.put hn ht) ho

/-- A table of aliases is read as it is. -/
theorem readAliases (h : IsTable table) : Config.readAliases (aliasTable table) = .ok table := by
  have hread : readTable readTarget (table.map fun e => (.text e.1, e.2)) = .ok table :=
    readTable_texts fun e he => ⟨h.names e he, readTarget_of_isTarget (h.targets e he)⟩
  show (readTable readTarget (table.map fun e => (.text e.1, e.2)) >>= fun read =>
    .ok (Named.update [] read)) = _
  rw [hread]
  show Except.ok (Named.update [] table) = _
  rw [Named.update_of_nodup (s := []) h.nodup, List.nil_append]

end IsTable

theorem isTable_of_readAliases (h : readAliases v = .ok table) : IsTable table := by
  cases v with
  | map entries =>
    obtain ⟨read, hr, h⟩ := bind_eq_ok.mp h
    cases h
    refine IsTable.nil.update fun e he => ?_
    obtain ⟨hn, v, hv⟩ := of_readTable hr e he
    exact ⟨hn, isTarget_of_readTarget hv⟩
  | _ => cases h

section Overlay

variable {base : Config} {own given : Overrides} (strict : Bool) (depth : Int) (aliases : Value)
  (level : Level)

/-- The entries of a configuration whose depth is not yet known to be allowed. -/
def entriesOf : Entries :=
  [(.text "strict", .bool strict), (.text "max_depth", .int depth), (.text "aliases", aliases),
    (.text "logging", levelSection level)]

/-- A layer without aliases changes the settings that it has, and no other. -/
theorem overlay_entriesOf {o : Overrides} (h : o.aliases = none) :
    Entries.overlay (entriesOf strict depth aliases level) o.toEntries =
      entriesOf (o.strict.getD strict) (o.maxDepth.getD depth) aliases (o.level.getD level) := by
  obtain ⟨s, d, a, l⟩ := o
  cases h
  cases s <;> cases d <;> cases l <;> rfl

theorem put_aliases (table : Value) :
    (entriesOf strict depth aliases level).put (.text "aliases") table =
      entriesOf strict depth table level := rfl

theorem laidOver_eq (h : given.aliases = none) : laidOver base own given =
    entriesOf (given.strict.getD (own.strict.getD base.strict))
      (given.maxDepth.getD (own.maxDepth.getD base.maxDepth))
      (aliasTable (base.aliases.update (own.aliases.getD [])))
      (given.level.getD (own.level.getD base.level)) := by
  have hbase : ({ base with aliases := [] } : Config).toEntries =
      entriesOf base.strict base.maxDepth (aliasTable []) base.level := rfl
  rw [laidOver, hbase, Entries.overlayAll, List.foldl_cons, List.foldl_cons, List.foldl_nil,
    overlay_entriesOf _ _ _ _ rfl, overlay_entriesOf _ _ _ _ h, put_aliases]

/-- Of the settings that were read before, only the depth may be refused. -/
theorem ofEntries_entriesOf (h : readAliases aliases = .ok table) :
    ofEntries (entriesOf strict depth aliases level) =
      ((readDepth (.int depth)).inside "max_depth").map fun n => ⟨strict, n, table, level⟩ := by
  have hlevel : readLogging (levelSection level) = .ok level := by cases level <;> rfl
  have hs : setting (entriesOf strict depth aliases level) "strict" false readBool =
      .ok strict := rfl
  have hd : setting (entriesOf strict depth aliases level) "max_depth" 64 readDepth =
      (readDepth (.int depth)).inside "max_depth" := rfl
  have ha : setting (entriesOf strict depth aliases level) "aliases" [] readAliases = .ok table :=
    Checked.under_eq_ok.mpr h
  have hl : setting (entriesOf strict depth aliases level) "logging" .warning readLogging =
      .ok level :=
    Checked.under_eq_ok.mpr hlevel
  have hn : onlyNames ["strict", "max_depth", "aliases", "logging"]
      (entriesOf strict depth aliases level) = .ok () := rfl
  rw [ofEntries, hs, hd, ha, hl, hn]
  cases (readDepth (.int depth)).inside "max_depth" <;> rfl

end Overlay

section Layers

variable {entries : Entries} {base : Config} {own given : Overrides}

theorem of_setting {read : Value → Checked α} (h : setting entries name standard read = .ok a) :
    a = standard ∨ ∃ v, read v = .ok a := by
  unfold setting at h
  split at h
  · exact .inr ⟨_, Checked.under_eq_ok.mp h⟩
  · cases h
    exact .inl rfl

theorem of_orOpen {read : Value → Checked α} (h : orOpen read v = .ok (some a)) :
    read v = .ok a := by
  unfold orOpen at h
  split at h
  · cases h
  · obtain ⟨b, hb, he⟩ := map_eq_ok.mp h
    exact Option.some.inj he ▸ hb

theorem of_userSetting {read : Value → Checked α}
    (h : userSetting entries name small read = .ok (some a)) : ∃ v, read v = .ok a := by
  unfold userSetting at h
  split at h
  · exact ⟨_, of_orOpen (Checked.under_eq_ok.mp h)⟩
  · exact ⟨_, of_orOpen (Checked.under_eq_ok.mp h)⟩
  · cases h

theorem isTable_of_ofEntries (h : ofEntries entries = .ok base) : IsTable base.aliases := by
  obtain ⟨⟨strict, depth, aliases, level, _⟩, hb, h⟩ := bind_eq_ok.mp h
  obtain ⟨_, hb⟩ := Checked.both_eq_ok.mp hb
  obtain ⟨_, hb⟩ := Checked.both_eq_ok.mp hb
  obtain ⟨ha, _⟩ := Checked.both_eq_ok.mp hb
  cases h
  rcases of_setting ha with rfl | ⟨v, hv⟩
  · exact .nil
  · exact isTable_of_readAliases hv

/-- The levels of a user: the one of the section for it, and the one of the settings themselves. -/
structure OwnLevels (entries : Entries) (nested flat : Option Level) : Prop where
  nested : (setting entries "logging" none (orOpen readAnyLogging)).map Option.join = .ok nested
  flat : userSetting entries "LOG_LEVEL" "log_level" readAnyLevel = .ok flat

theorem of_ofUser (h : Overrides.ofUser entries = .ok own) :
    IsTable (own.aliases.getD []) ∧
      ∃ nested flat, OwnLevels entries nested flat ∧ own.level = (nested <|> flat) := by
  obtain ⟨⟨strict, depth, aliases, flat, logging⟩, hb, h⟩ := bind_eq_ok.mp h
  obtain ⟨_, hb⟩ := Checked.both_eq_ok.mp hb
  obtain ⟨_, hb⟩ := Checked.both_eq_ok.mp hb
  obtain ⟨ha, hb⟩ := Checked.both_eq_ok.mp hb
  obtain ⟨hf, hn⟩ := Checked.both_eq_ok.mp hb
  cases h
  refine ⟨?_, logging.join, flat, ⟨by rw [hn]; rfl, hf⟩, rfl⟩
  cases aliases with
  | none => exact .nil
  | some table =>
    obtain ⟨v, hv⟩ := of_userSetting ha
    exact isTable_of_readAliases hv

theorem of_ofOptions (h : Overrides.ofOptions entries = .ok given) :
    given.aliases = none ∧ given.maxDepth = none := by
  obtain ⟨_, _, h⟩ := bind_eq_ok.mp h
  cases h
  exact ⟨rfl, rfl⟩

/-- Everything but the depth is settled by the layers. -/
theorem resolve_eq (hbasic : (layer basic >>= ofEntries) = .ok base)
    (huser : (layer user >>= Overrides.ofUser) = .ok own)
    (hoptions : (layer options >>= Overrides.ofOptions) = .ok given) :
    resolve basic user options =
      ((readDepth (.int (own.maxDepth.getD base.maxDepth))).inside "max_depth").map fun n =>
        ⟨given.strict.getD (own.strict.getD base.strict), n,
          base.aliases.update (own.aliases.getD []),
          given.level.getD (own.level.getD base.level)⟩ := by
  obtain ⟨_, hb, hbase⟩ := bind_eq_ok.mp hbasic
  obtain ⟨_, hu, hown⟩ := bind_eq_ok.mp huser
  obtain ⟨_, ho, hgiven⟩ := bind_eq_ok.mp hoptions
  obtain ⟨hnone, hdepth⟩ := of_ofOptions hgiven
  -- the merged settings are read again, so the table has to be read as it is
  have htable : IsTable (base.aliases.update (own.aliases.getD [])) :=
    (isTable_of_ofEntries hbase).update fun e he =>
      ⟨(of_ofUser hown).1.names e he, (of_ofUser hown).1.targets e he⟩
  have hlaid := @laidOver_eq base own given hnone
  rw [hdepth, Option.getD_none] at hlaid
  rw [← ofEntries_entriesOf _ _ _ _ htable.readAliases, ← hlaid, resolve]
  simp only [hb, hbase, hu, hown, ho, hgiven, bind, Except.bind]

theorem readDepth_int (depth : Int) : (readDepth (.int depth)).inside "max_depth" =
    if depth < 1 then .error [⟨.tooSmall, [.text "max_depth"]⟩]
    else if 1000 < depth then .error [⟨.tooLarge, [.text "max_depth"]⟩]
    else .ok depth.toNat := by
  show (if depth < 1 then Checked.bad .tooSmall
    else if 1000 < depth then .bad .tooLarge
    else .ok depth.toNat : Checked Nat).inside "max_depth" = _
  split
  · rfl
  · split <;> rfl

/-- Each setting comes from the highest layer that has it: the command line, the user, the basic
settings. Aliases of the user replace basic ones of their name as a whole, where they stand, and
follow the others otherwise. Only a depth that is not allowed is refused. -/
theorem resolve_layers (hbasic : (layer basic >>= ofEntries) = .ok base)
    (huser : (layer user >>= Overrides.ofUser) = .ok own)
    (hoptions : (layer options >>= Overrides.ofOptions) = .ok given) :
    (1 ≤ own.maxDepth.getD base.maxDepth ∧ own.maxDepth.getD base.maxDepth ≤ 1000 →
      ∃ config, resolve basic user options = .ok config ∧
        config.strict = given.strict.getD (own.strict.getD base.strict) ∧
        config.maxDepth = own.maxDepth.getD base.maxDepth ∧
        (∃ entries nested flat, layer user = .ok entries ∧ OwnLevels entries nested flat ∧
          config.level = given.level.getD (nested.getD (flat.getD base.level))) ∧
        config.aliases.map (·.1) = base.aliases.map (·.1) ++
          ((own.aliases.getD []).map (·.1)).filter (· ∉ base.aliases.map (·.1)) ∧
        ∀ name, config.aliases.get? name =
          ((own.aliases.getD []).get? name).or (base.aliases.get? name)) ∧
    (own.maxDepth.getD base.maxDepth < 1 →
      resolve basic user options = .error [⟨.tooSmall, [.text "max_depth"]⟩]) ∧
    (1000 < own.maxDepth.getD base.maxDepth →
      resolve basic user options = .error [⟨.tooLarge, [.text "max_depth"]⟩]) := by
  have hresolve := resolve_eq hbasic huser hoptions
  rw [readDepth_int] at hresolve
  refine ⟨fun ⟨hl, hm⟩ => ?_, fun hl => ?_, fun hm => ?_⟩
  · obtain ⟨entries, hu, hown⟩ := bind_eq_ok.mp huser
    obtain ⟨htable, nested, flat, hlevels, hlevel⟩ := of_ofUser hown
    rw [if_neg (by omega), if_neg (by omega)] at hresolve
    have hfirst : own.level.getD base.level = nested.getD (flat.getD base.level) := by
      rw [hlevel]
      cases nested <;> rfl
    exact ⟨_, hresolve, rfl, Int.toNat_of_nonneg (by omega),
      ⟨entries, nested, flat, hu, hlevels, congrArg given.level.getD hfirst⟩,
      Named.map_fst_update htable.nodup _, Named.get?_update htable.nodup _⟩
  · rw [hresolve, if_pos hl]
    rfl
  · rw [hresolve, if_neg (by omega), if_pos hm]
    rfl

end Layers

def basicLayer : Value := .map [(.text "max_depth", .int 20), (.text "aliases", .map
  [(.text "level", .map [(.text "type", .text "int"), (.text "max", .int 10)]),
    (.text " tag ", .text "slug")])]

def ownLayer : Value := .map [(.text "STRICT", .text "yes"), (.text "MAX_DEPTH", .text " 8 "),
  (.text "aliases", .map [(.text "code", .text "ean\n"), (.text "level", .list [.text "a"])]),
  (.text "LOG_LEVEL", .text "info"), (.text "logging", .map [(.text "level", .text "error")])]

def optionsLayer : Value := .map [(.text "strict", .bool false)]

theorem resolve_three_layers : ∃ config, resolve basicLayer ownLayer optionsLayer = .ok config ∧
    config.strict = false ∧ config.maxDepth = (8 : Int) ∧ config.level = .error ∧
    config.aliases.map (·.1) = ["level", "tag", "code"] ∧
    config.aliases.get? "level" = some (.list [.text "a"]) ∧
    config.aliases.get? "tag" = some (.text "slug") := by
  have hbasic : (layer basicLayer >>= ofEntries) = .ok ⟨false, 20,
      [("level", .map [(.text "type", .text "int"), (.text "max", .int 10)]),
        ("tag", .text "slug")], .warning⟩ := by rfl
  have huser : (layer ownLayer >>= Overrides.ofUser) = .ok ⟨some true, some 8,
      some [("code", .text "ean"), ("level", .list [.text "a"])], some .error⟩ := by rfl
  have hoptions : (layer optionsLayer >>= Overrides.ofOptions) =
      .ok ⟨some false, none, none, none⟩ := by rfl
  obtain ⟨config, hr, hs, hd, ⟨_, nested, flat, hu, hlevels, hl⟩, hnames, hget⟩ :=
    (resolve_layers hbasic huser hoptions).1 (by decide)
  cases hu
  obtain rfl : some Level.error = nested := Except.ok.inj hlevels.nested
  exact ⟨config, hr, hs, hd, hl, hnames, hget "level", hget "tag"⟩

end Covenant.Config
