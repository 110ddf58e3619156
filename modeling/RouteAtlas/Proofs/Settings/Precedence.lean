import Mathlib.Data.List.Forall2
import Mathlib.Data.List.Nodup
import RouteAtlas.Settings.Resolve

namespace RouteAtlas

def SettingKey.Value : SettingKey → Type
  | .format => ReportFormat
  | .quiet | .includeTests => Bool
  | .wanted | .unwanted => List Text
  | .frameworks => List Framework
  | .debounce => Nat

def Settings.value (settings : Settings) : (key : SettingKey) → key.Value
  | .format => settings.format
  | .quiet => settings.quiet
  | .includeTests => settings.includeTests
  | .wanted => settings.wanted
  | .unwanted => settings.unwanted
  | .frameworks => settings.frameworks
  | .debounce => settings.debounce

def Layer.value? (layer : Layer) : (key : SettingKey) → Option key.Value
  | .format => layer.format
  | .quiet => layer.quiet
  | .includeTests => layer.includeTests
  | .wanted => layer.wanted
  | .unwanted => layer.unwanted
  | .frameworks => layer.frameworks
  | .debounce => layer.debounce

/-- What a source says of a setting. -/
inductive Saying (α : Type) where
  | silent
  | faulty
  | gives (value : α)
deriving DecidableEq

namespace Saying

variable {α β : Type}

def ofOption : Option α → Saying α
  | none => .silent
  | some value => .gives value

def reading (read? : β → Option α) : Option β → Saying α
  | none => .silent
  | some said =>
    match read? said with
    | some value => .gives value
    | none => .faulty

end Saying

/-- Something that settings are resolved from: what it says of each setting, and how it is named. -/
structure SettingsSource where
  said : (key : SettingKey) → Saying key.Value
  origin : SettingKey → Origin

namespace SettingsSource

def frameworks? (names : List Text) : Option (List Framework) :=
  (names.mapM Framework.ofName?).map Framework.byPriority

/-- A settings file is silent on a list that it leaves empty. -/
def ofFile (file : SettingsFile) (origin : Origin) : SettingsSource where
  said
    | .format => .reading ReportFormat.ofName? file.format
    | .quiet => .ofOption file.quiet
    | .includeTests => .ofOption file.includeTests
    | .wanted => if file.wanted = [] then .silent else .gives file.wanted
    | .unwanted => if file.unwanted = [] then .silent else .gives file.unwanted
    | .frameworks => .reading frameworks? file.frameworks
    | .debounce => .ofOption file.debounce
  origin _ := origin

/-- The environment says something about a setting as soon as its variable is there. -/
def ofEnvironment (lookup? : Text → Option Text) : SettingsSource where
  said
    | .format => .reading ReportFormat.ofName? (lookup? "ROUTESCAN_FORMAT")
    | .quiet => .ofOption ((lookup? "ROUTESCAN_QUIET").map Layer.readFlag)
    | .includeTests => .ofOption ((lookup? "ROUTESCAN_INCLUDE_TESTS").map Layer.readFlag)
    | .wanted => .ofOption ((lookup? "ROUTESCAN_INCLUDE").map Layer.readList)
    | .unwanted => .ofOption ((lookup? "ROUTESCAN_EXCLUDE").map Layer.readList)
    | .frameworks =>
      .reading (fun value => frameworks? (Layer.readList value)) (lookup? "ROUTESCAN_FRAMEWORKS")
    | .debounce =>
      .reading (fun value => Text.unsigned? (Text.trim value)) (lookup? "ROUTESCAN_DEBOUNCE_MS")
  origin key := .environment key.environmentName

/-- What the highest source that is not silent on a setting says of it, and how that source is named. The
sources come with the highest one first; below all of them there is a value for each setting. -/
def decision (key : SettingKey) : List SettingsSource → Origin × Saying key.Value
  | [] => (.default, .gives (Settings.default.value key))
  | source :: lower =>
    match source.said key with
    | .silent => decision key lower
    | said => (source.origin key, said)

end SettingsSource

namespace Host

end Host

section Readings

namespace Layer

variable {α β : Type} {read : β → Except SettingsError α} {read? : β → Option α}

end Layer

end Readings

def Layer.Follows (layer : Layer) (source : SettingsSource) : Prop :=
  ∀ key, source.said key = .ofOption (layer.value? key) ∧ layer.origin key = source.origin key

namespace SettingsSource

end SettingsSource

section Tracing

def SettingKey.byName : List SettingKey :=
  [.format, .includeTests, .quiet, .frameworks, .unwanted, .wanted, .debounce]

variable (origins : SettingKey → Origin)

def Provenance.ofOrigins : Provenance := SettingKey.byName.map fun key => (key.name, origins key)

theorem Provenance.set_ofOrigins (key : SettingKey) (origin : Origin) :
    (ofOrigins origins).set key.name origin =
      ofOrigins fun other => if other = key then origin else origins other := by
  cases key <;> rfl

theorem Settings.trace_ofOrigins (layer : Layer) :
    trace layer (.ofOrigins origins) =
      .ofOrigins fun key => if layer.gives key then layer.origin key else origins key := by
  have noted : ∀ keys : List SettingKey, ∀ origins : SettingKey → Origin,
      keys.foldl (fun provenance key => provenance.set key.name (layer.origin key))
        (Provenance.ofOrigins origins) =
      .ofOrigins fun key => if key ∈ keys then layer.origin key else origins key := by
    intro keys
    induction keys with
    | nil => simp
    | cons key keys ih =>
      intro origins
      rw [List.foldl_cons, Provenance.set_ofOrigins, ih]
      congr 1
      funext other
      by_cases same : other = key <;> simp [same]
  have listed : ∀ key, key ∈ SettingKey.all := by
    intro key
    cases key <;> decide
  simp only [trace, noted, List.mem_filter, listed, true_and]

end Tracing

/-- Settings with the values decided on by some sources, traced back to them. -/
structure Settings.DecidedBy (settings : Settings) (sources : List SettingsSource) : Prop where
  value : ∀ key, (SettingsSource.decision key sources).2 = .gives (settings.value key)
  provenance : settings.provenance = .ofOrigins fun key => (SettingsSource.decision key sources).1

namespace Settings

open SettingsSource

variable {settings : Settings} {sources lower : List SettingsSource}

theorem value_under (layer : Layer) (key : SettingKey) :
    (settings.under layer).value key = (layer.value? key).getD (settings.value key) := by
  cases key <;> rfl

theorem gives_eq_isSome (layer : Layer) (key : SettingKey) :
    layer.gives key = (layer.value? key).isSome := by
  cases key <;> rfl

theorem DecidedBy.under {layer : Layer} {source : SettingsSource}
    (decided : settings.DecidedBy lower) (follows : layer.Follows source) :
    (settings.under layer).DecidedBy (source :: lower) := by
  have higher : ∀ key, decision key (source :: lower) =
      match layer.value? key with
      | some value => (layer.origin key, .gives value)
      | none => decision key lower := by
    intro key
    obtain ⟨said, named⟩ := follows key
    cases given : layer.value? key <;> simp [decision, said, named, given, Saying.ofOption]
  constructor
  · intro key
    rw [higher, value_under]
    cases layer.value? key with
    | none => exact decided.value key
    | some value => rfl
  · change trace layer settings.provenance = _
    rw [decided.provenance, trace_ofOrigins]
    congr 1
    funext key
    rw [higher, gives_eq_isSome]
    cases layer.value? key <;> rfl

end Settings

namespace Host

open SettingsSource

variable (host : Host)

end Host

namespace SettingsSource

end SettingsSource

namespace Host

open SettingsSource

variable {host : Host} {directory : Path} {overrides : Overrides} {sources : List SettingsSource}

end Host

end RouteAtlas
