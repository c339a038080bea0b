/-
  Lineup.Channel.Basic
  ────────────────────
  **CHANNELS.**  A channel is one provisioned video service: its identity, its
  role and mode, and up to five streams.  The primary stream is always there;
  re-sourced, retransmission and two error-correction streams may join it.

  Two lists of (address, port) pairs say what a channel claims for itself:

      primaryKeys   — the primary and the error-correction streams
      feedbackKeys  — the feedback target and the retransmission stream
-/
import Lineup.Channel.Kind
import Lineup.Net.Ipv4

namespace Lineup

open Text

/-! ## §1. Identity. -/

/-- What names a channel: who announces it, and under which number. -/
structure SessionKey where
  /-- The announcing user. -/
  username : String
  /-- The session number, as text. -/
  sessionId : String
  /-- The address of the announcing machine. -/
  creator : Ipv4
  deriving DecidableEq, Repr

namespace SessionKey

/-- The text of a key. -/
def text (k : SessionKey) : String :=
  k.username ++ " " ++ k.sessionId ++ " IN IP4 " ++ toString k.creator

/-- The order of keys: by user, then by session number, both by code point, and
then by the number of the address. -/
def compare (k l : SessionKey) : Ordering :=
  (compareOfLessAndEq k.username l.username).then <|
    (compareOfLessAndEq k.sessionId l.sessionId).then <|
      compareOfLessAndEq k.creator.value l.creator.value

end SessionKey

/-! ## §2. Settings of a stream. -/

/-- Bandwidths of the control protocol, in bits per second. -/
structure RtcpBandwidth where
  /-- For senders. -/
  sender : Option UInt32
  /-- For receivers together. -/
  receiver : Option UInt32
  /-- For one receiver. -/
  perReceiver : Option UInt32
  deriving DecidableEq, Repr

namespace RtcpBandwidth

/-- No bandwidth is given. -/
def empty : RtcpBandwidth := ⟨none, none, none⟩

/-- Whether a bandwidth for senders or receivers is given. -/
def isSignalled (b : RtcpBandwidth) : Bool := b.sender.isSome || b.receiver.isSome

end RtcpBandwidth

/-- How large a run-length report may become. -/
inductive RunLength where
  /-- As large as it gets. -/
  | unlimited
  /-- So many bytes behind the header. -/
  | maxBytes (bytes : UInt16)
  deriving DecidableEq, Repr

/-- What a summary of statistics counts. -/
structure StatSummary where
  /-- Lost packets. -/
  loss : Bool
  /-- Packets received twice. -/
  duplicates : Bool
  /-- The spread of transit times. -/
  jitter : Bool
  deriving DecidableEq, Repr

namespace StatSummary

/-- A summary that counts nothing. -/
def empty : StatSummary := ⟨false, false, false⟩

/-- Whether a summary counts anything. -/
def any (s : StatSummary) : Bool := s.loss || s.duplicates || s.jitter

end StatSummary

/-- Which extended reports receivers send. -/
structure XrSettings where
  /-- Runs of lost packets. -/
  lossRle : Option RunLength
  /-- Runs of packets that stayed lost after repair. -/
  postRepairLossRle : Option RunLength
  /-- A summary of statistics. -/
  statSummary : StatSummary
  /-- How the multicast group was joined. -/
  multicastAcq : Bool
  /-- Counters for diagnosis. -/
  diagnosticCounters : Bool
  /-- Whether reports may be shortened. -/
  rtcpRsize : Bool
  deriving DecidableEq, Repr

/-- No reports. -/
def XrSettings.empty : XrSettings := ⟨none, none, .empty, false, false, false⟩

/-! ## §3. Streams. -/

/-- What every stream has, whatever its kind. -/
structure Endpoint where
  /-- Where packets are sent. -/
  addr : Ipv4
  /-- How many hops they may take. -/
  ttl : Option UInt8
  /-- The only sender that is listened to. -/
  srcFilter : Option Ipv4
  /-- How packets are carried. -/
  transport : Transport
  /-- The port for data. -/
  rtpPort : UInt16
  /-- The port for control packets; none for bare datagrams. -/
  rtcpPort : Option UInt16
  /-- The payload type. -/
  payloadType : UInt8
  /-- Bandwidths of the control protocol. -/
  rtcpBw : RtcpBandwidth
  /-- Which way packets flow. -/
  direction : Direction
  /-- The identification tag of the stream. -/
  mid : Option String
  deriving DecidableEq, Repr

namespace Endpoint

/-- The ports of a stream: for data, then for control. -/
def ports (e : Endpoint) : List UInt16 := e.rtpPort :: e.rtcpPort.toList

/-- The (address, port) pairs of a stream. -/
def keys (e : Endpoint) : List (Ipv4 × UInt16) := e.ports.map fun p => (e.addr, p)

end Endpoint

/-- The stream that the channel is about. -/
structure PrimaryStream where
  /-- Address, ports and so on. -/
  endpoint : Endpoint
  /-- The bit rate, in bits per second. -/
  bitRate : Option UInt32
  /-- Which extended reports receivers send. -/
  xr : XrSettings
  deriving DecidableEq, Repr

/-- The stream on which lost packets are sent again. -/
structure RtxStream where
  /-- Address, ports and so on. -/
  endpoint : Endpoint
  /-- The payload type of the stream that is repaired. -/
  apt : UInt8
  /-- How long packets are kept for repair, in milliseconds. -/
  rtxTimeMs : UInt32
  /-- Which extended reports receivers send. -/
  xr : XrSettings
  deriving DecidableEq, Repr

/-! ## §4. Channels. -/

/-- A provisioned channel. -/
structure Channel where
  /-- What names the channel. -/
  key : SessionKey
  /-- A name for people. -/
  name : String
  /-- The version of its announcement. -/
  version : UInt64
  /-- A fingerprint of its canonical text. -/
  checksum : String
  /-- What it carries. -/
  channelType : ChannelType
  /-- Its place in the distribution tree. -/
  role : Role
  /-- How lost packets are repaired. -/
  mode : Mode
  /-- Where receivers send their feedback. -/
  feedbackMode : FeedbackMode
  /-- Whether receivers may ask for lost packets. -/
  erEnable : Bool
  /-- Whether receivers may ask for a quick start. -/
  fccEnable : Bool
  /-- The stream the channel is about. -/
  primary : PrimaryStream
  /-- A copy of it, sent on from elsewhere. -/
  resourced : Option Endpoint
  /-- The address feedback is sent to. -/
  fbtAddr : Option Ipv4
  /-- The stream for repair. -/
  rtx : Option RtxStream
  /-- The layout of error correction. -/
  fecMode : Option FecMode
  /-- The first error-correction stream. -/
  fec1 : Option Endpoint
  /-- The second error-correction stream. -/
  fec2 : Option Endpoint
  /-- When the channel ends; 0 for never. -/
  stopTime : UInt64
  /-- Whether the channel is in service. -/
  active : Bool
  /-- Whether the key is filled in. -/
  complete : Bool
  /-- A mark set while configurations are compared. -/
  used : Bool
  deriving DecidableEq, Repr

namespace Channel

/-- The stream of a kind. -/
def endpoint? (c : Channel) : StreamKind → Option Endpoint
  | .primary => some c.primary.endpoint
  | .resourced => c.resourced
  | .retransmission => c.rtx.map (·.endpoint)
  | .fec1 => c.fec1
  | .fec2 => c.fec2

/-- The kinds of streams, in the order in which a channel lists them. -/
def streamOrder : List StreamKind := [.primary, .resourced, .retransmission, .fec1, .fec2]

/-- The streams of a channel with their kinds, in order. -/
def endpoints (c : Channel) : List (StreamKind × Endpoint) :=
  streamOrder.filterMap fun kind => (c.endpoint? kind).map fun e => (kind, e)

/-- Address and data port of the primary stream. -/
def primaryDest (c : Channel) : Ipv4 × UInt16 :=
  (c.primary.endpoint.addr, c.primary.endpoint.rtpPort)

/-- Whether two records have the same key, version and fingerprint. -/
def sameContent (c d : Channel) : Bool :=
  c.key == d.key && c.version == d.version && c.checksum == d.checksum

/-- The streams an `FID` group names: the one that is repaired and the one that
repairs it. -/
def fidMembers : Mode → List StreamKind
  | .source => [.resourced, .retransmission]
  | _ => [.primary, .retransmission]

/-- The streams an `FEC` group names. -/
def fecMembers (c : Channel) : List StreamKind :=
  .primary :: (if c.fec1.isSome then [.fec1] else []) ++ if c.fec2.isSome then [.fec2] else []

/-- The pairs claimed by the primary stream and by error correction. -/
def primaryKeys (c : Channel) : List (Ipv4 × UInt16) :=
  c.primary.endpoint.keys ++ (c.fec1.elim [] Endpoint.keys) ++ c.fec2.elim [] Endpoint.keys

/-- The pairs claimed by the feedback target and by the stream for repair. -/
def feedbackKeys (c : Channel) : List (Ipv4 × UInt16) :=
  (match c.fbtAddr, c.primary.endpoint.rtcpPort with
    | some fbt, some port => [(fbt, port)]
    | _, _ => [])
  ++ c.rtx.elim [] (·.endpoint.keys)

end Channel

/-- The written form of a pair. -/
def destText (dest : Ipv4 × UInt16) : String :=
  toString dest.1 ++ ":" ++ decimal dest.2.toNat

end Lineup
