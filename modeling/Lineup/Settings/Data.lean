/-
  Lineup.Settings.Data
  ────────────────────
  **SETTINGS AS STRUCTURED DATA.**  Every setting may be left out, at every
  level; settings that are not known do not matter.
-/
import Lineup.Settings.Basic

namespace Lineup

open Data (nat)

/-- The settings of a registry from their record. -/
def RegistryConfig.ofData? (format : Data.Format) (d : Data) : Option RegistryConfig := do
  let m ← d.settings? format ["channel_type", "max_channels", "map_buckets"]
  return {
    channelType := ← Data.setting? m "channel_type" standard.channelType
      (Data.case? format ChannelType.cases)
    maxChannels := ← Data.setting? m "max_channels" standard.maxChannels (Data.nat? UInt64.size)
    mapBuckets := ← Data.setting? m "map_buckets" standard.mapBuckets (Data.nat? UInt64.size) }

/-- The settings of a registry as a record. -/
def RegistryConfig.toData (c : RegistryConfig) : Data := .record [
  ("channel_type", .ofCase ChannelType.cases c.channelType),
  ("max_channels", nat c.maxChannels), ("map_buckets", nat c.mapBuckets)]

/-- The settings of log output from their record. -/
def LoggingConfig.ofData? (format : Data.Format) (d : Data) : Option LoggingConfig := do
  let m ← d.settings? format ["level", "json", "file_info", "log_spans"]
  return {
    level := ← Data.setting? m "level" standard.level Data.text?
    json := ← Data.setting? m "json" standard.json Data.bool?
    fileInfo := ← Data.setting? m "file_info" standard.fileInfo Data.bool?
    logSpans := ← Data.setting? m "log_spans" standard.logSpans Data.bool? }

/-- The settings of log output as a record. -/
def LoggingConfig.toData (c : LoggingConfig) : Data := .record [
  ("level", .text c.level), ("json", .bool c.json), ("file_info", .bool c.fileInfo),
  ("log_spans", .bool c.logSpans)]

/-- All settings from their record. -/
def Settings.ofData? (format : Data.Format) (d : Data) : Option Settings := do
  let m ← d.settings? format ["registry", "logging"]
  return {
    registry := ← Data.setting? m "registry" standard.registry (RegistryConfig.ofData? format)
    logging := ← Data.setting? m "logging" standard.logging (LoggingConfig.ofData? format) }

/-- All settings as a record. -/
def Settings.toData (s : Settings) : Data :=
  .record [("registry", s.registry.toData), ("logging", s.logging.toData)]

end Lineup
