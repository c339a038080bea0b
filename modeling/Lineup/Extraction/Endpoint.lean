/-
  Lineup.Extraction.Endpoint
  ──────────────────────────
  **WHAT EVERY STREAM HAS.**  Ports, bandwidths, source filter, direction and
  tag of a media stream.  An `a=rtcp` attribute may also name an address: on the
  primary stream that is the feedback target, and on any other stream it has to
  be the stream's own address.
-/
import Lineup.Extraction.Check
import Lineup.Extraction.MediaLine

namespace Lineup

open Text

/-! ## §1. Ports. -/

/-- The value of an `a=rtcp` attribute: a port other than 0, and perhaps an
address. -/
def rtcpValue? (value : List Char) : Option (UInt16 × Option Ipv4) :=
  match words isWhite value with
  | [port] => do return (← port? port, none)
  | [port, net, family, addr] =>
    if net = "IN".toList ∧ family = "IP4".toList then do
      let addr ← Ipv4.ofChars? addr
      return (← port? port, some addr)
    else none
  | _ => none
where
  /-- A port other than 0. -/
  port? (cs : List Char) : Option UInt16 := (uint16? cs).filter (· ≠ 0)

/-- The control port of a stream, and the address named with it. RTP without
an `a=rtcp` attribute uses the port after the data port. -/
def MediaLine.control (l : MediaLine) (stream : StreamKind) :
    Except ValidationError (Option UInt16 × Option Ipv4) :=
  if l.transport.isRtp then
    match l.media.body.attributeValue "rtcp" with
    | some value =>
      match rtcpValue? value.toList with
      | some (port, addr) => .ok (some port, addr)
      | none => .error (.invalidAttribute stream "rtcp" value)
    | none =>
      -- port 0 is no port, and the last one has no successor
      if l.media.port = 0 ∨ l.media.port = 65535 then .error (.invalidPort stream .noSuccessor)
      else .ok (some (l.media.port + 1), none)
  else .ok (none, none)

/-! ## §2. Bandwidths. -/

/-- A bandwidth in bits per second has 32 bits. -/
def bitsPerSecond (stream : StreamKind) (b : Bandwidth) : Except ValidationError UInt32 :=
  if b.value.toNat < UInt32.size then .ok (UInt32.ofNat b.value.toNat)
  else .error (.invalidBandwidth stream b.kind b.value)

/-- Adds a bandwidth line; of several of one kind the last counts. Only the
primary stream may state its bit rate. -/
def RtcpBandwidth.add (stream : StreamKind) (r : RtcpBandwidth) (b : Bandwidth) :
    Except ValidationError RtcpBandwidth :=
  if b.kind = "RS" then do return { r with sender := some (← bitsPerSecond stream b) }
  else if b.kind = "RR" then do return { r with receiver := some (← bitsPerSecond stream b) }
  else if b.kind = "AS" ∧ stream ≠ .primary then .error (.bandwidthNotAllowed stream b.kind)
  else .ok r

/-- The bandwidth for one receiver. -/
def RtcpBandwidth.perReceiver? (stream : StreamKind) (s : Section) :
    Except ValidationError (Option UInt32) :=
  match s.attributeValue "rtcp-per-rcvr-bw" with
  | none => .ok none
  | some value =>
    match uint32? value.toList with
    | some n => .ok (some n)
    | none => .error (.invalidAttribute stream "rtcp-per-rcvr-bw" value)

/-- The bandwidths of the control protocol of a stream. -/
def RtcpBandwidth.read (stream : StreamKind) (s : Section) :
    Except ValidationError RtcpBandwidth := do
  let r ← s.bandwidths.foldlM (RtcpBandwidth.add stream) .empty
  return { r with perReceiver := ← perReceiver? stream s }

/-! ## §3. Source filters. -/

/-- The sender that a source filter for an address names. -/
def readSourceFilter (stream : StreamKind) (dest : Ipv4) (value : String) :
    Except ValidationError Ipv4 :=
  let invalid := .error (.invalidAttribute stream "source-filter" value)
  match words isWhite value.toList with
  -- more sources may follow; only the first is kept
  | mode :: net :: family :: filterDest :: source :: _ =>
    if mode = "excl".toList then .error (.sourceFilterExcluded stream)
    else if mode ≠ "incl".toList then invalid
    else if net ≠ "IN".toList ∨ family ≠ "IP4".toList then invalid
    else
      match Ipv4.ofChars? filterDest with
      | none => invalid
      | some found =>
        if found ≠ dest then .error (.sourceFilterMismatch stream dest found)
        else
          match Ipv4.ofChars? source with
          | some source => .ok source
          | none => invalid
  | _ => invalid

/-- The source filter of a stream. Only a multicast group has one, and that it
has none is noted. -/
def MediaLine.sourceFilter (l : MediaLine) (stream : StreamKind) : Check (Option Ipv4) :=
  if l.addr.isMulticast then
    match l.media.body.attributeValue "source-filter" with
    | some value => do return some (← readSourceFilter stream l.addr value)
    | none => do
      Check.note (.missingSourceFilter stream)
      return none
  else pure none

/-! ## §4. Endpoints. -/

/-- The direction of a stream: what its first direction attribute states. -/
def Direction.ofSection (s : Section) : Direction :=
  (s.attributes.findSome? fun a => ofAttributeName? a.name).getD .unset

/-- What every stream has, and the address of its `a=rtcp` attribute. -/
def MediaLine.endpoint (l : MediaLine) (stream : StreamKind) :
    Check (Endpoint × Option Ipv4) := do
  let (rtcpPort, rtcpAddr) ← l.control stream
  let rtcpBw ← RtcpBandwidth.read stream l.media.body
  let srcFilter ← l.sourceFilter stream
  return ({
    addr := l.addr, ttl := l.ttl, srcFilter, transport := l.transport,
    rtpPort := l.media.port, rtcpPort, payloadType := l.payloadType, rtcpBw,
    direction := .ofSection l.media.body, mid := l.media.body.attributeValue "mid" }, rtcpAddr)

/-- What a stream other than the primary has. -/
def MediaLine.ownEndpoint (l : MediaLine) (stream : StreamKind) : Check Endpoint := do
  let (e, rtcpAddr) ← l.endpoint stream
  match rtcpAddr with
  | some addr =>
    if addr ≠ e.addr then .refused (.rtcpAddressMismatch stream addr e.addr) else return e
  | none => return e

end Lineup
