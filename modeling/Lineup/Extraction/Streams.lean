/-
  Lineup.Extraction.Streams
  ─────────────────────────
  **THE STREAMS OF A CHANNEL.**  Beyond what every stream has, the primary
  stream states its bit rate and what receivers may ask for, and the stream for
  repair says what it repairs and for how long.
-/
import Lineup.Extraction.Endpoint
import Lineup.Extraction.Xr

namespace Lineup

open Text

/-! ## §1. The primary stream. -/

/-- The highest bit rate, in kilobits per second. -/
def maxBitRate : UInt64 := 40000

/-- The bit rate of a primary stream: the first `AS` bandwidth, given in
kilobits. -/
def readBitRate (s : Section) : Except ValidationError (Option UInt32) :=
  match s.bandwidth "AS" with
  | none => .ok none
  | some kbps =>
    if 1 ≤ kbps ∧ kbps ≤ maxBitRate then .ok (some (UInt32.ofNat (kbps.toNat * 1000)))
    else .error (.invalidBandwidth .primary "AS" kbps)

/-- What receivers may ask for. -/
structure Requests where
  /-- Lost packets. -/
  er : Bool
  /-- A quick start. -/
  fcc : Bool
  deriving DecidableEq, Repr

/-- The two sides of the first white character; without one, all is on the
left. -/
def cutWhite (cs : List Char) : List Char × List Char := (cut isWhite cs).getD (cs, [])

/-- Adds what an `a=rtcp-fb` attribute allows: `nack` lost packets, `nack pli`
a quick start. It is about one payload type, or with a star about all. -/
def Requests.add (l : MediaLine) (r : Requests) (value : String) :
    Except ValidationError Requests := do
  let (pt, feedback) := cutWhite value.toList
  if pt ≠ ['*'] then checkPayloadType l.index "rtcp-fb" l.payloadType pt
  -- feedback of other kinds is no request
  let asked := words isWhite feedback
  if asked = ["nack".toList] then return { r with er := true }
  else if asked = ["nack".toList, "pli".toList] then return { r with fcc := true }
  else return r

/-- What all `a=rtcp-fb` attributes of a stream allow. -/
def Requests.read (l : MediaLine) : Except ValidationError Requests :=
  (l.media.body.attributeValues "rtcp-fb").foldlM (Requests.add l) ⟨false, false⟩

/-- What is read from the media stream of the primary stream. -/
structure PrimaryParts where
  /-- The stream. -/
  stream : PrimaryStream
  /-- The address feedback is sent to. -/
  fbtAddr : Option Ipv4
  /-- What receivers may ask for. -/
  requests : Requests
  deriving DecidableEq, Repr

/-- Reads the primary stream. -/
def MediaLine.primaryStream (l : MediaLine) : Check PrimaryParts := do
  let (endpoint, fbtAddr) ← l.endpoint .primary
  let bitRate ← readBitRate l.media.body
  let requests ← Requests.read l
  let xr ← XrSettings.read .primary l.media.body
  return ⟨⟨endpoint, bitRate, xr⟩, fbtAddr, requests⟩

/-! ## §2. The stream for repair. -/

/-- How long packets are kept for repair when nothing is said. -/
def defaultRtxTimeMs : UInt32 := 3000

/-- The parameters of an `a=fmtp` attribute that matter here. -/
structure RepairParams where
  /-- The payload type that is repaired. -/
  apt : Option UInt8
  /-- How long packets are kept. -/
  rtxTime : Option UInt32
  deriving DecidableEq, Repr

/-- Adds a parameter `name=value`; of several of one name the last counts, and
unknown ones do not matter. -/
def RepairParams.add (r : RepairParams) (param : List Char) :
    Except ValidationError RepairParams :=
  let invalid := .error (.invalidAttribute .retransmission "fmtp" (.ofList param))
  match cut (· == '=') param with
  | none => .ok r
  | some (name, value) =>
    if name = "apt".toList then
      match uint8? (trim value) with
      | some apt => .ok { r with apt := some apt }
      | none => invalid
    else if name = "rtx-time".toList then
      match uint32? (trim value) with
      | some ms => .ok { r with rtxTime := some ms }
      | none => invalid
    else .ok r

/-- The parameters of a list with semicolons between them. -/
def RepairParams.read (params : List Char) : Except ValidationError RepairParams :=
  (((pieces (· == ';') params).map trim).filter (!·.isEmpty)).foldlM RepairParams.add ⟨none, none⟩

/-- Reads the stream for repair. -/
def MediaLine.rtxStream (l : MediaLine) : Check RtxStream := do
  let endpoint ← l.ownEndpoint .retransmission
  let fmtp ← Check.need .missingApt (l.media.body.attributeValue "fmtp")
  let (pt, params) := cutWhite fmtp.toList
  checkPayloadType l.index "fmtp" l.payloadType pt
  let params ← RepairParams.read params
  let apt ← Check.need .missingApt params.apt
  let rtxTimeMs ← match params.rtxTime with
    | some ms => pure ms
    | none => do
      Check.note (.rtxTimeDefaulted defaultRtxTimeMs)
      pure defaultRtxTimeMs
  let xr ← XrSettings.read .retransmission l.media.body
  return ⟨endpoint, apt, rtxTimeMs, xr⟩

/-! ## §3. All streams. -/

/-- The streams of a channel, each read for itself. -/
structure Streams where
  /-- The primary stream. -/
  primary : PrimaryParts
  /-- Its copy. -/
  resourced : Option Endpoint
  /-- The stream for repair. -/
  rtx : Option RtxStream
  /-- The first error-correction stream. -/
  fec1 : Option Endpoint
  /-- The second error-correction stream. -/
  fec2 : Option Endpoint
  deriving DecidableEq, Repr

/-- A check of what may be missing. -/
def Check.ofOption (f : α → Check β) : Option α → Check (Option β)
  | none => pure none
  | some a => do return some (← f a)

/-- Reads the streams of a channel, in order. -/
def Parts.streams (p : Parts) : Check Streams := do
  let primary ← p.primary.primaryStream
  let resourced ← Check.ofOption (·.ownEndpoint .resourced) p.resourced
  let rtx ← Check.ofOption MediaLine.rtxStream p.rtx
  let fec1 ← Check.ofOption (·.ownEndpoint .fec1) p.fec1
  let fec2 ← Check.ofOption (·.ownEndpoint .fec2) p.fec2
  return ⟨primary, resourced, rtx, fec1, fec2⟩

end Lineup
