/-
  Lineup.Settings.Basic
  ─────────────────────
  **SETTINGS.**  What a registry is set up with, what is logged, and which
  settings make no sense.  Every setting has a default, so nothing needs to be
  set at all.
-/
import Lineup.Settings.LogLevel
import Lineup.Channel.Kind
import Lineup.Text.Quoted

namespace Lineup

open Text

/-! ## §1. Complaints. -/

/-- What is wrong with a setting. -/
inductive SettingError where
  /-- No channel type has this name. -/
  | invalidChannelType (text : String)
  /-- No level of log output has this name. -/
  | invalidLogLevel (text : String)
  /-- A size is 0. -/
  | zero (name : String)
  deriving DecidableEq, Repr

/-- The wording of a complaint. -/
def SettingError.message : SettingError → String
  | invalidChannelType text =>
    "Invalid channel type " ++ quote text ++ "; expected linear or vod"
  | invalidLogLevel text => "Invalid log level: " ++ text
  | zero name => "Invalid registry setting: " ++ name ++ " must be at least 1"

/-- The channel type that a text names. -/
def ChannelType.read (text : String) : Except SettingError ChannelType :=
  match ofText? text with
  | some t => .ok t
  | none => .error (.invalidChannelType text)

/-- The level of log output that a text names. -/
def LogLevel.read (text : String) : Except SettingError LogLevel :=
  match ofText? text with
  | some level => .ok level
  | none => .error (.invalidLogLevel text)

/-! ## §2. Registries. -/

/-- What a registry is set up with. -/
structure RegistryConfig where
  /-- What its channels carry. -/
  channelType : ChannelType
  /-- How many channels it may hold. -/
  maxChannels : Nat
  /-- How many chains its address maps have. -/
  mapBuckets : Nat
  deriving DecidableEq, Repr

namespace RegistryConfig

/-- What a registry is set up with when nothing is set. -/
def standard : RegistryConfig := ⟨.linear, 1000, 1024⟩

instance : Inhabited RegistryConfig := ⟨standard⟩

/-- A registry holds at least one channel, and its maps have at least one
chain. -/
def validate (c : RegistryConfig) : Except SettingError Unit :=
  if c.maxChannels = 0 then .error (.zero "max_channels")
  else if c.mapBuckets = 0 then .error (.zero "map_buckets")
  else .ok ()

theorem validate_eq_ok_iff (c : RegistryConfig) :
    c.validate = .ok () ↔ 0 < c.maxChannels ∧ 0 < c.mapBuckets := by
  by_cases hc : c.maxChannels = 0
  · simp [validate, hc]
  · by_cases hb : c.mapBuckets = 0
    · simp [validate, hc, hb]
    · simp [validate, hc, hb]; omega

end RegistryConfig

/-! ## §3. Logging, and all settings together. -/

/-- What is logged, and in which form. -/
structure LoggingConfig where
  /-- The name of the level. -/
  level : String
  /-- Whether lines are JSON. -/
  json : Bool
  /-- Whether lines say where in the program they come from. -/
  fileInfo : Bool
  /-- Whether the start and end of activities are logged. -/
  logSpans : Bool
  deriving DecidableEq, Repr

/-- What is logged when nothing is set but the level. -/
def LoggingConfig.atLevel (level : String) : LoggingConfig := ⟨level, false, false, false⟩

/-- What is logged when nothing is set. -/
def LoggingConfig.standard : LoggingConfig := atLevel "info"

/-- All settings. -/
structure Settings where
  /-- Those of the registry. -/
  registry : RegistryConfig
  /-- Those of log output. -/
  logging : LoggingConfig
  deriving DecidableEq, Repr

namespace Settings

/-- The settings when nothing is set. -/
def standard : Settings := ⟨.standard, .standard⟩

/-- The registry can be set up, and the level of log output has a name. -/
def validate (s : Settings) : Except SettingError Unit := do
  s.registry.validate
  let _ ← LogLevel.read s.logging.level

end Settings

end Lineup
