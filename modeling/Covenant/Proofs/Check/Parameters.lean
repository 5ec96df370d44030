import Covenant.Kind
import Covenant.Proofs.Named
import Covenant.Proofs.Outcome

/-! Each kind of data has its own parameters, and its check does not depend on any others. -/

namespace Covenant

/-- Two contracts give some names the same values. -/
def Params.AgreeOn (names : List String) (p q : Params) : Prop :=
  ∀ name ∈ names, Named.get? p name = Named.get? q name

namespace Params.AgreeOn

theorem put_of_notMem {name : String} (h : name ∉ names) (p : Params) (v : Value) :
    AgreeOn names (p.put name v) p := by
  intro n hn
  have hne : name ≠ n := fun he => h (he ▸ hn)
  exact Named.get?_put_ne hne p v

theorem cons_of_notMem {name : String} (h : name ∉ names) (v : Value) (p : Params) :
    AgreeOn names ((name, v) :: p) p := by
  intro n hn
  have hne : name ≠ n := fun he => h (he ▸ hn)
  exact Named.get?_cons_ne hne v p

variable {names : List String} {p q : Params} (h : AgreeOn names p q)
include h

theorem get (name : String) (hn : name ∈ names) : p.get name = q.get name := by
  rw [Params.get, Params.get, h name hn]

theorem limits (hl : "minLen" ∈ names) (hm : "maxLen" ∈ names) :
    Limits.ofParams p = Limits.ofParams q := by
  rw [Limits.ofParams, Limits.ofParams, h.get _ hl, h.get _ hm]

theorem list (name : String) (hn : name ∈ names) : Params.list p name = Params.list q name := by
  rw [Params.list, Params.list, h.get _ hn]

theorem maskAllows (hn : "mask" ∈ names) : p.maskAllows = q.maskAllows := by
  funext cs
  rw [Params.maskAllows, Params.maskAllows, h.get _ hn]

theorem clamps (hn : "clamp" ∈ names) : Check.clamps p = Check.clamps q := by
  rw [Check.clamps, Check.clamps, h _ hn]

theorem corner (name : String) (hn : name ∈ names) :
    Check.Geo.corner p name = Check.Geo.corner q name := by
  rw [Check.Geo.corner, Check.Geo.corner, h.get _ hn]

theorem recordKeys (hn : "keys" ∈ names) : Check.recordKeys p = Check.recordKeys q := by
  rw [Check.recordKeys, Check.recordKeys, h.get _ hn]

theorem allowedFor (name : String) (hn : name ∈ names) :
    Check.Url.allowedFor p name = Check.Url.allowedFor q name := by
  rw [Check.Url.allowedFor, Check.Url.allowedFor, h.get _ hn]

theorem allowed (hn : ∀ name ∈ Check.Url.componentNames, name ∈ names) :
    Check.Url.allowed p = Check.Url.allowed q := by
  refine foldlM_congr (fun found name hname => ?_) []
  rw [h.allowedFor name (hn name hname)]

end Params.AgreeOn

namespace Kind

/-- The parameters that the check of a kind of data looks at. -/
def parameters : Kind → List String
  | null => ["default"]
  | bool => ["const"]
  | int | float => ["min", "max", "clamp"]
  | string => ["charset", "minLen", "maxLen", "mask"]
  | email | slug => ["minLen", "maxLen", "mask"]
  | url => ["minLen", "maxLen", "mask"] ++ Check.Url.componentNames
  | enum => ["values"]
  | list => ["minLen", "maxLen", "values", "contract"]
  | assoc => ["keys"]
  | json => ["minLen", "maxLen", "contract"]
  | date | time | datetime => ["format", "inFormat", "outFormat", "min", "max"]
  | uuid | isbn | ean | mac | color | phone => []
  | ip => ["version"]
  | base64 => ["minLen", "maxLen", "mime"]
  | binary => ["minLen", "maxLen", "mime", "charset"]
  | geo => ["min", "max"]
  | hash => ["algo", "source"]

theorem type_notMem_parameters (kind : Kind) : "type" ∉ kind.parameters := by
  cases kind <;> decide

theorem strict_notMem_parameters (kind : Kind) : "strict" ∉ kind.parameters := by
  cases kind <;> decide

theorem default_notMem_parameters (h : kind ≠ null) : "default" ∉ kind.parameters := by
  cases kind with
  | null => exact absurd rfl h
  | _ => decide

theorem check_temporal_congr (t : Check.Temporal)
    (h : Params.AgreeOn ["format", "inFormat", "outFormat", "min", "max"] p q) :
    t.check mode p data = t.check mode q data := by
  rw [Check.Temporal.check, Check.Temporal.check, h.get "format" (by decide),
    h.get "inFormat" (by decide), h.get "outFormat" (by decide),
    h.get "min" (by decide), h.get "max" (by decide)]

/-- A check does not change with the parameters of other kinds. -/
theorem check_congr {inner : Check.Delegate} (kind : Kind)
    (h : Params.AgreeOn kind.parameters p q) :
    kind.check inner mode p data = kind.check inner mode q data := by
  cases kind with
  | null =>
    unfold check Check.null
    rw [h.get "default" (by decide)]
  | bool =>
    unfold check Check.bool
    rw [h.get "const" (by decide)]
  | int =>
    rw [check, check, Check.int, Check.int, h.get "min" (by decide),
      h.get "max" (by decide), h.clamps (by decide)]
  | float =>
    rw [check, check, Check.float, Check.float, h.get "min" (by decide),
      h.get "max" (by decide), h.clamps (by decide)]
  | string =>
    rw [check, check, Check.string, Check.string, h.list "charset" (by decide),
      h.limits (by decide) (by decide), h.maskAllows (by decide)]
  | email =>
    rw [check, check, Check.email, Check.email,
      h.limits (by decide) (by decide), h.maskAllows (by decide)]
  | url =>
    rw [check, check, Check.url, Check.url, h.allowed (by decide),
      h.limits (by decide) (by decide), h.maskAllows (by decide)]
  | enum => rw [check, check, Check.enum, Check.enum, h.list "values" (by decide)]
  | list =>
    rw [check, check, Check.list, Check.list, h.get "values" (by decide),
      h.limits (by decide) (by decide),
      h.get "contract" (by decide)]
  | assoc => rw [check, check, Check.assoc, Check.assoc, h.recordKeys (by decide)]
  | json =>
    rw [check, check, Check.json, Check.json,
      h.limits (by decide) (by decide),
      h.get "contract" (by decide)]
  | date => exact check_temporal_congr _ h
  | time => exact check_temporal_congr _ h
  | datetime => exact check_temporal_congr _ h
  | uuid => rfl
  | isbn => rfl
  | ean => rfl
  | ip => rw [check, check, Check.ip, Check.ip, h.get "version" (by decide)]
  | mac => rfl
  | slug =>
    rw [check, check, Check.slug, Check.slug,
      h.limits (by decide) (by decide), h.maskAllows (by decide)]
  | base64 =>
    rw [check, check, Check.base64, Check.base64, h.list "mime" (by decide),
      h.limits (by decide) (by decide)]
  | binary =>
    rw [check, check, Check.binary, Check.binary, h.list "mime" (by decide),
      h.list "charset" (by decide),
      h.limits (by decide) (by decide)]
  | color => rfl
  | geo =>
    rw [check, check, Check.Geo.check, Check.Geo.check,
      h.corner "min" (by decide), h.corner "max" (by decide)]
  | phone => rfl
  | hash =>
    rw [check, check, Check.hash, Check.hash, h.list "algo" (by decide),
      h.get "source" (by decide)]

/-- Checks other than that of null do not look at the default. -/
theorem check_put_default {inner : Check.Delegate} (hk : kind ≠ null) (d : Value) :
    kind.check inner mode (params.put "default" d) data = kind.check inner mode params data :=
  kind.check_congr (.put_of_notMem (default_notMem_parameters hk) params d)

end Kind
end Covenant
