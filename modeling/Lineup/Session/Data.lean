/-
  Lineup.Session.Data
  ───────────────────
  **SESSIONS AS STRUCTURED DATA.**  Every part of a session as a record, and
  back.
-/
import Lineup.Session.Basic
import Lineup.Data.Basic

namespace Lineup

open Data (nat orNull)

/-! ## §1. The values of single lines. -/

/-- An origin from its record. -/
def Origin.ofData? (d : Data) : Option Origin := do
  let m ← d.members? ["username", "session_id", "session_version", "net_type", "addr_type",
    "unicast_address"]
  return {
    username := ← Data.required? m "username" Data.text?
    sessionId := ← Data.required? m "session_id" Data.text?
    sessionVersion := ← Data.required? m "session_version" Data.text?
    netType := ← Data.required? m "net_type" Data.text?
    addrType := ← Data.required? m "addr_type" Data.text?
    address := ← Data.required? m "unicast_address" Data.text? }

/-- An origin as a record. -/
def Origin.toData (o : Origin) : Data := .record [
  ("username", .text o.username), ("session_id", .text o.sessionId),
  ("session_version", .text o.sessionVersion), ("net_type", .text o.netType),
  ("addr_type", .text o.addrType), ("unicast_address", .text o.address)]

/-- A connection from its record. -/
def Connection.ofData? (d : Data) : Option Connection := do
  let m ← d.members? ["net_type", "addr_type", "address", "ttl"]
  return {
    netType := ← Data.required? m "net_type" Data.text?
    addrType := ← Data.required? m "addr_type" Data.text?
    address := ← Data.required? m "address" Data.text?
    ttl := ← Data.optional? m "ttl" Data.uint8? }

/-- A connection as a record. -/
def Connection.toData (c : Connection) : Data := .record [
  ("net_type", .text c.netType), ("addr_type", .text c.addrType), ("address", .text c.address),
  ("ttl", orNull (nat ·.toNat) c.ttl)]

/-- A timing from its record. -/
def Timing.ofData? (d : Data) : Option Timing := do
  let m ← d.members? ["start", "stop"]
  return {
    start := ← Data.required? m "start" Data.uint64?
    stop := ← Data.required? m "stop" Data.uint64? }

/-- A timing as a record. -/
def Timing.toData (t : Timing) : Data :=
  .record [("start", nat t.start.toNat), ("stop", nat t.stop.toNat)]

/-- A bandwidth from its record. -/
def Bandwidth.ofData? (d : Data) : Option Bandwidth := do
  let m ← d.members? ["bw_type", "value"]
  return {
    kind := ← Data.required? m "bw_type" Data.text?
    value := ← Data.required? m "value" Data.uint64? }

/-- A bandwidth as a record. -/
def Bandwidth.toData (b : Bandwidth) : Data :=
  .record [("bw_type", .text b.kind), ("value", nat b.value.toNat)]

/-- An attribute from its record. -/
def Attribute.ofData? (d : Data) : Option Attribute := do
  let m ← d.members? ["name", "value"]
  return {
    name := ← Data.required? m "name" Data.text?
    value := ← Data.optional? m "value" Data.text? }

/-- An attribute as a record. -/
def Attribute.toData (a : Attribute) : Data :=
  .record [("name", .text a.name), ("value", orNull .text a.value)]

/-- A group as a record. -/
def Group.toData (g : Group) : Data :=
  .record [("semantics", .text g.semantics), ("mids", .ofList .text g.mids)]

/-! ## §2. Media and sessions. -/

/-- A section from the fields of the record that holds it. -/
def Section.ofFields? (m : List (String × Data)) : Option Section := do
  return {
    information := ← Data.optional? m "information" Data.text?
    connection := ← Data.optional? m "connection" Connection.ofData?
    bandwidths := ← Data.required? m "bandwidths" (Data.listOf? Bandwidth.ofData?)
    attributes := ← Data.required? m "attributes" (Data.listOf? Attribute.ofData?) }

/-- The fields of a section. -/
def Section.toFields (s : Section) : List (String × Data) := [
  ("information", orNull .text s.information),
  ("connection", orNull Connection.toData s.connection),
  ("bandwidths", .ofList Bandwidth.toData s.bandwidths),
  ("attributes", .ofList Attribute.toData s.attributes)]

/-- A media stream from its record. -/
def Media.ofData? (d : Data) : Option Media := do
  let m ← d.members? ["media", "port", "port_count", "protocol", "formats", "information",
    "connection", "bandwidths", "attributes"]
  return {
    media := ← Data.required? m "media" Data.text?
    port := ← Data.required? m "port" Data.uint16?
    portCount := ← Data.optional? m "port_count" Data.uint16?
    protocol := ← Data.required? m "protocol" Data.text?
    formats := ← Data.required? m "formats" (Data.listOf? Data.text?)
    body := ← Section.ofFields? m }

/-- A media stream as a record. -/
def Media.toData (m : Media) : Data := .record <| [
  ("media", .text m.media), ("port", nat m.port.toNat),
  ("port_count", orNull (nat ·.toNat) m.portCount), ("protocol", .text m.protocol),
  ("formats", .ofList .text m.formats)] ++ m.body.toFields

/-- A session from its record. -/
def Session.ofData? (d : Data) : Option Session := do
  let m ← d.members? ["version", "origin", "session_name", "information", "connection",
    "bandwidths", "timing", "attributes", "media"]
  return {
    version := ← Data.required? m "version" Data.text?
    origin := ← Data.required? m "origin" Origin.ofData?
    name := ← Data.required? m "session_name" Data.text?
    timing := ← Data.required? m "timing" Timing.ofData?
    body := ← Section.ofFields? m
    media := ← Data.required? m "media" (Data.listOf? Media.ofData?) }

/-- A session as a record. -/
def Session.toData (s : Session) : Data := .record <| [
  ("version", .text s.version), ("origin", s.origin.toData), ("session_name", .text s.name),
  ("timing", s.timing.toData), ("media", .ofList Media.toData s.media)] ++ s.body.toFields

end Lineup
