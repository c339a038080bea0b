/-
  Lineup.Extraction.MediaLine
  ───────────────────────────
  **WHICH PART A MEDIA STREAM PLAYS.**  Every media stream of a session is
  first checked for its form and sorted by its encoding: transport streams,
  retransmission, error correction.  Among the transport streams one is the
  primary stream, and one more may be its re-sourced copy.
-/
import Lineup.Channel.Error
import Lineup.Session.Basic

namespace Lineup

open Text

/-! ## §1. Form. -/

/-- What a media stream carries. -/
inductive Encoding where
  /-- An MPEG-2 transport stream. -/
  | mp2t
  /-- Packets that are sent again. -/
  | rtx
  /-- Forward error correction. -/
  | fec
  deriving DecidableEq, Repr

/-- A media stream whose form is right. -/
structure MediaLine where
  /-- Its position in the session, from 0. -/
  index : Nat
  /-- Its description. -/
  media : Media
  /-- Its payload type. -/
  payloadType : UInt8
  /-- How its packets are carried. -/
  transport : Transport
  /-- Where they are sent. -/
  addr : Ipv4
  /-- How many hops they may take. -/
  ttl : Option UInt8
  deriving DecidableEq, Repr

/-- The payload type that always means an MPEG-2 transport stream. -/
def mp2tPayloadType : UInt8 := 33

/-- Payload types are the fixed one and the dynamic ones. -/
def isPayloadType (pt : UInt8) : Bool := pt == mp2tPayloadType || (96 ≤ pt && pt ≤ 127)

/-- The only payload type of a media stream. -/
def Media.payloadType (m : Media) (index : Nat) : Except ValidationError UInt8 :=
  match m.formats with
  | [format] =>
    match uint8? format.toList with
    | some pt => if isPayloadType pt then .ok pt else .error (.invalidPayloadType index format)
    | none => .error (.invalidPayloadType index format)
  | formats => .error (.payloadTypeCount index formats.length)

/-- Checks that an attribute is about the payload type of its stream. -/
def checkPayloadType (index : Nat) (name : String) (expected : UInt8) (found : List Char) :
    Except ValidationError Unit :=
  if uint8? (trim found) = some expected then .ok ()
  else .error (.payloadTypeMismatch index name expected (.ofList (trim found)))

/-- The name of the encoding of a media stream, from its first `rtpmap`
attribute. Only the fixed payload type can do without. -/
def Media.encodingName (m : Media) (index : Nat) (pt : UInt8) :
    Except ValidationError (List Char) :=
  match m.body.attributeValue "rtpmap" with
  | none =>
    if pt = mp2tPayloadType then .ok "MP2T".toList else .error (.missingEncoding index pt)
  | some rtpmap =>
    match cut (· == ' ') rtpmap.toList with
    | none => .error (.invalidStream index .malformedRtpmap)
    | some (found, encoding) => do
      checkPayloadType index "rtpmap" pt found
      let name := (trim encoding).takeWhile (· != '/')
      if name.isEmpty then .error (.invalidStream index .malformedRtpmap) else return name

/-- The IPv4 address of a connection. -/
def Connection.ipv4 (c : Connection) : Except ValidationError Ipv4 :=
  if c.netType ≠ "IN" ∨ c.addrType ≠ "IP4" then
    .error (.unsupportedAddressFamily c.netType c.addrType)
  else
    match Ipv4.ofString? c.address with
    | some addr => .ok addr
    | none => .error (.invalidAddress c.address)

/-- The encoding that a name stands for on a stream. -/
def MediaLine.encoding (l : MediaLine) (name : List Char) : Except ValidationError Encoding :=
  let name := String.ofList (name.map Char.toLower)
  if name = "mp2t" then .ok .mp2t
  else if name = "rtx" then
    if l.transport ≠ .rtpFeedback then .error (.invalidStream l.index .rtxNeedsFeedback)
    else if l.addr.isMulticast then .error (.invalidStream l.index .rtxNeedsUnicast)
    else .ok .rtx
  else if name = "parityfec" ∨ name = "2dparityfec" then
    if l.transport.isRtp then .ok .fec else .error (.invalidStream l.index .fecNeedsRtp)
  else .error (.unsupportedEncoding l.index name)

/-- The media stream at a position, if its form is right, and its encoding. -/
def SessionView.mediaLine (v : SessionView) (index : Nat) :
    Except ValidationError (MediaLine × Encoding) :=
  match v.media? index with
  | none => .error (.missingConnection index)
  | some media => do
    -- of several faults the first in this order is the one that is told
    let payloadType ← media.payloadType index
    let transport ← match Transport.ofProtocol? media.protocol with
      | some t => .ok t
      | none => .error (.unsupportedTransport index media.protocol)
    let connection ← match v.mediaConnection index with
      | some c => .ok c
      | none => .error (.missingConnection index)
    let addr ← connection.ipv4
    let line : MediaLine := ⟨index, media, payloadType, transport, addr, connection.ttl⟩
    let name ← media.encodingName index payloadType
    return (line, ← line.encoding name)

/-! ## §2. Parts. -/

/-- The media streams of a session, sorted by encoding and otherwise in
order. -/
structure MediaLines where
  /-- The transport streams. -/
  mp2t : List MediaLine
  /-- The retransmission stream. -/
  rtx : Option MediaLine
  /-- The error-correction streams, two at most. -/
  fec : List MediaLine
  deriving DecidableEq, Repr

namespace MediaLines

/-- No media stream. -/
def empty : MediaLines := ⟨[], none, []⟩

/-- Adds a media stream. A second retransmission stream is refused, and so is
a third one for error correction. -/
def add (ls : MediaLines) (l : MediaLine) : Encoding → Except ValidationError MediaLines
  | .mp2t => .ok { ls with mp2t := ls.mp2t ++ [l] }
  | .rtx =>
    if ls.rtx.isSome then .error (.duplicateStream .retransmission)
    else .ok { ls with rtx := some l }
  | .fec =>
    if ls.fec.length = 2 then .error (.duplicateStream .fec2)
    else .ok { ls with fec := ls.fec ++ [l] }

/-- The media streams of a session. -/
def ofView (v : SessionView) : Except ValidationError MediaLines :=
  (List.range v.mediaCount).foldlM (fun ls index => do
    let (line, encoding) ← v.mediaLine index
    ls.add line encoding) empty

/-- Whether a transport stream states its bit rate. -/
def hasBitRate (l : MediaLine) : Bool := (l.media.body.bandwidth "AS").isSome

/-- The primary stream and its copy: of what is left beside the primary stream
there may be one. -/
def withResourced (primary : MediaLine) :
    List MediaLine → Except ValidationError (MediaLine × Option MediaLine)
  | [] => .ok (primary, none)
  | [resourced] => .ok (primary, some resourced)
  | _ => .error (.duplicateStream .resourced)

/-- Tells the primary stream from its copy: it is the one that states its bit
rate, or else the first. -/
def splitPrimary (mp2t : List MediaLine) :
    Except ValidationError (MediaLine × Option MediaLine) :=
  match mp2t.partition hasBitRate with
  -- one stream states its bit rate: its place among the others does not matter
  | ([primary], rest) => withResourced primary rest
  | (_ :: _ :: _, _) => .error (.duplicateStream .primary)
  -- no stream does: the first one is meant
  | ([], primary :: rest) => withResourced primary rest
  | ([], []) => .error .missingPrimary

end MediaLines

/-- The media streams of a session by the parts they play. -/
structure Parts where
  /-- The stream the channel is about. -/
  primary : MediaLine
  /-- Its copy. -/
  resourced : Option MediaLine
  /-- The stream for repair. -/
  rtx : Option MediaLine
  /-- The first error-correction stream. -/
  fec1 : Option MediaLine
  /-- The second error-correction stream. -/
  fec2 : Option MediaLine
  deriving DecidableEq, Repr

namespace Parts

/-- The streams a broadcast distributes, with their kinds. -/
def distribution (p : Parts) : List (StreamKind × MediaLine) :=
  (.primary, p.primary) :: (p.resourced.map fun l => (StreamKind.resourced, l)).toList
    ++ (p.fec1.map fun l => (StreamKind.fec1, l)).toList
    ++ (p.fec2.map fun l => (StreamKind.fec2, l)).toList

/-- A stream that a broadcast distributes goes to a multicast group. -/
def checkMulticast : StreamKind × MediaLine → Except ValidationError Unit
  | (kind, l) => if l.addr.isMulticast then .ok () else .error (.notMulticast kind l.addr)

/-- What a broadcast asks for beyond what every channel does. -/
def checkLinear (p : Parts) : Except ValidationError Unit := do
  p.distribution.forM checkMulticast
  if p.primary.media.port = 0 then .error (.invalidPort .primary .zero)

/-- The parts of a session of a channel type. -/
def ofView (v : SessionView) (channelType : ChannelType) : Except ValidationError Parts := do
  let lines ← MediaLines.ofView v
  let (primary, resourced) ← MediaLines.splitPrimary lines.mp2t
  -- bare datagrams carry no sequence numbers, so a copy needs RTP
  if let some l := resourced then
    if !l.transport.isRtp then .error (.invalidStream l.index .onlyPrimaryUdp)
  let parts : Parts := ⟨primary, resourced, lines.rtx, lines.fec[0]?, lines.fec[1]?⟩
  if channelType = .linear then parts.checkLinear
  return parts

end Parts

end Lineup
