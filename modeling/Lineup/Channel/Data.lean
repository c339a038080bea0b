/-
  Lineup.Channel.Data
  ───────────────────
  **CHANNELS AS STRUCTURED DATA.**  Every part of a channel as a record, and
  back for the parts that are read as well.
-/
import Lineup.Channel.Identity
import Lineup.Data.Basic

namespace Lineup

open Data (nat orNull)

/-! ## §1. Identity. -/

/-- An address from its text. -/
def Ipv4.ofData? (d : Data) : Option Ipv4 := d.text?.bind ofString?

/-- An address as text. -/
def Ipv4.toData (ip : Ipv4) : Data := .text (toString ip)

/-- A key from its record. -/
def SessionKey.ofData? (d : Data) : Option SessionKey := do
  let m ← d.members? ["username", "session_id", "creator"]
  return {
    username := ← Data.required? m "username" Data.text?
    sessionId := ← Data.required? m "session_id" Data.text?
    creator := ← Data.required? m "creator" Ipv4.ofData? }

/-- A key as a record. -/
def SessionKey.toData (k : SessionKey) : Data := .record [
  ("username", .text k.username), ("session_id", .text k.sessionId),
  ("creator", k.creator.toData)]

/-- An identity as a record. -/
def SessionIdentity.toData (i : SessionIdentity) : Data :=
  .record [("key", i.key.toData), ("version", nat i.version.toNat)]

/-! ## §2. Settings of a stream. -/

/-- Bandwidths from their record. -/
def RtcpBandwidth.ofData? (d : Data) : Option RtcpBandwidth := do
  let m ← d.members? ["sender", "receiver", "per_receiver"]
  return {
    sender := ← Data.optional? m "sender" Data.uint32?
    receiver := ← Data.optional? m "receiver" Data.uint32?
    perReceiver := ← Data.optional? m "per_receiver" Data.uint32? }

/-- Bandwidths as a record. -/
def RtcpBandwidth.toData (b : RtcpBandwidth) : Data := .record [
  ("sender", orNull (nat ·.toNat) b.sender), ("receiver", orNull (nat ·.toNat) b.receiver),
  ("per_receiver", orNull (nat ·.toNat) b.perReceiver)]

/-- A limit from its word, or from a record with the number of bytes. -/
def RunLength.ofData? : Data → Option RunLength
  | .record [("max-bytes", d)] => d.uint16?.map maxBytes
  | d => d.case? .json [("unlimited", unlimited)]

/-- A limit as its word, or as a record with the number of bytes. -/
def RunLength.toData : RunLength → Data
  | unlimited => .text "unlimited"
  | maxBytes bytes => .record [("max-bytes", nat bytes.toNat)]

/-- A summary from its record. -/
def StatSummary.ofData? (d : Data) : Option StatSummary := do
  let m ← d.members? ["loss", "duplicates", "jitter"]
  return {
    loss := ← Data.required? m "loss" Data.bool?
    duplicates := ← Data.required? m "duplicates" Data.bool?
    jitter := ← Data.required? m "jitter" Data.bool? }

/-- A summary as a record. -/
def StatSummary.toData (s : StatSummary) : Data :=
  .record [("loss", .bool s.loss), ("duplicates", .bool s.duplicates), ("jitter", .bool s.jitter)]

/-- Settings from their record. -/
def XrSettings.ofData? (d : Data) : Option XrSettings := do
  let m ← d.members? ["loss_rle", "post_repair_loss_rle", "stat_summary", "multicast_acq",
    "diagnostic_counters", "rtcp_rsize"]
  return {
    lossRle := ← Data.optional? m "loss_rle" RunLength.ofData?
    postRepairLossRle := ← Data.optional? m "post_repair_loss_rle" RunLength.ofData?
    statSummary := ← Data.required? m "stat_summary" StatSummary.ofData?
    multicastAcq := ← Data.required? m "multicast_acq" Data.bool?
    diagnosticCounters := ← Data.required? m "diagnostic_counters" Data.bool?
    rtcpRsize := ← Data.required? m "rtcp_rsize" Data.bool? }

/-- Settings as a record. -/
def XrSettings.toData (x : XrSettings) : Data := .record [
  ("loss_rle", orNull RunLength.toData x.lossRle),
  ("post_repair_loss_rle", orNull RunLength.toData x.postRepairLossRle),
  ("stat_summary", x.statSummary.toData), ("multicast_acq", .bool x.multicastAcq),
  ("diagnostic_counters", .bool x.diagnosticCounters), ("rtcp_rsize", .bool x.rtcpRsize)]

/-! ## §3. Streams. -/

/-- An endpoint from the fields of the record that holds it. -/
def Endpoint.ofFields? (format : Data.Format) (m : List (String × Data)) : Option Endpoint := do
  return {
    addr := ← Data.required? m "addr" Ipv4.ofData?
    ttl := ← Data.optional? m "ttl" Data.uint8?
    srcFilter := ← Data.optional? m "src_filter" Ipv4.ofData?
    transport := ← Data.required? m "transport" (Data.case? format Transport.cases)
    rtpPort := ← Data.required? m "rtp_port" Data.uint16?
    rtcpPort := ← Data.optional? m "rtcp_port" Data.uint16?
    payloadType := ← Data.required? m "payload_type" Data.uint8?
    rtcpBw := ← Data.required? m "rtcp_bw" RtcpBandwidth.ofData?
    direction := ← Data.required? m "direction" (Data.case? format Direction.cases)
    mid := ← Data.optional? m "mid" Data.text? }

/-- The fields of an endpoint. -/
def Endpoint.toFields (e : Endpoint) : List (String × Data) := [
  ("addr", e.addr.toData), ("ttl", orNull (nat ·.toNat) e.ttl),
  ("src_filter", orNull Ipv4.toData e.srcFilter),
  ("transport", .ofCase Transport.cases e.transport), ("rtp_port", nat e.rtpPort.toNat),
  ("rtcp_port", orNull (nat ·.toNat) e.rtcpPort), ("payload_type", nat e.payloadType.toNat),
  ("rtcp_bw", e.rtcpBw.toData), ("direction", .ofCase Direction.cases e.direction),
  ("mid", orNull .text e.mid)]

/-- An endpoint from its record. -/
def Endpoint.ofData? (d : Data) : Option Endpoint := do
  ofFields? .json (← d.members? ["addr", "ttl", "src_filter", "transport", "rtp_port", "rtcp_port",
    "payload_type", "rtcp_bw", "direction", "mid"])

/-- An endpoint as a record. -/
def Endpoint.toData (e : Endpoint) : Data := .record e.toFields

/-- A primary stream from its record. -/
def PrimaryStream.ofData? (d : Data) : Option PrimaryStream := do
  let m ← d.fields?
  return {
    endpoint := ← Endpoint.ofFields? .spread m
    bitRate := ← Data.optional? m "bit_rate" Data.uint32?
    xr := ← Data.required? m "xr" XrSettings.ofData? }

/-- A primary stream as a record. -/
def PrimaryStream.toData (p : PrimaryStream) : Data := .record <| p.endpoint.toFields ++ [
  ("bit_rate", orNull (nat ·.toNat) p.bitRate), ("xr", p.xr.toData)]

/-- A stream for repair from its record. -/
def RtxStream.ofData? (d : Data) : Option RtxStream := do
  let m ← d.fields?
  return {
    endpoint := ← Endpoint.ofFields? .spread m
    apt := ← Data.required? m "apt" Data.uint8?
    rtxTimeMs := ← Data.required? m "rtx_time_ms" Data.uint32?
    xr := ← Data.required? m "xr" XrSettings.ofData? }

/-- A stream for repair as a record. -/
def RtxStream.toData (r : RtxStream) : Data := .record <| r.endpoint.toFields ++ [
  ("apt", nat r.apt.toNat), ("rtx_time_ms", nat r.rtxTimeMs.toNat), ("xr", r.xr.toData)]

/-! ## §4. Channels. -/

/-- A channel as a record. The mark used in comparisons is left out. -/
def Channel.toData (c : Channel) : Data := .record [
  ("key", c.key.toData), ("name", .text c.name), ("version", nat c.version.toNat),
  ("checksum", .text c.checksum), ("channel_type", .ofCase ChannelType.cases c.channelType),
  ("role", .ofCase Role.cases c.role), ("mode", .ofCase Mode.cases c.mode),
  ("feedback_mode", .ofCase FeedbackMode.cases c.feedbackMode),
  ("er_enable", .bool c.erEnable), ("fcc_enable", .bool c.fccEnable),
  ("primary", c.primary.toData), ("resourced", orNull Endpoint.toData c.resourced),
  ("fbt_addr", orNull Ipv4.toData c.fbtAddr), ("rtx", orNull RtxStream.toData c.rtx),
  ("fec_mode", orNull (.ofCase FecMode.cases) c.fecMode),
  ("fec1", orNull Endpoint.toData c.fec1), ("fec2", orNull Endpoint.toData c.fec2),
  ("stop_time", nat c.stopTime.toNat), ("active", .bool c.active),
  ("complete", .bool c.complete)]

end Lineup
