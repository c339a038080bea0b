/-
  Lineup.Channel.Canonical
  ────────────────────────
  **THE CANONICAL SESSION OF A CHANNEL.**  Every channel has one session that
  says all there is to say about it, with streams and attributes in a fixed
  order.  Drawing a channel from that session gives the channel back, and a
  digest of its text is the fingerprint of the channel.
-/
import Lineup.Channel.Xr
import Lineup.Session.Printer
import Lineup.Digest.Md5

namespace Lineup

open Text

/-! ## §1. Groups. -/

/-- The group that names some streams of a channel, if all have a tag. -/
def Channel.groupOf (c : Channel) (semantics : String) (members : List StreamKind) :
    Option Group := do
  let mids ← members.mapM fun kind => (c.endpoint? kind).bind (·.mid)
  return ⟨semantics, mids⟩

/-- The groups of a channel. -/
def Channel.groups (c : Channel) : List Group :=
  (if c.rtx.isSome then (c.groupOf "FID" (fidMembers c.mode)).toList else [])
    ++ if c.fec1.isSome then (c.groupOf "FEC" c.fecMembers).toList else []

/-! ## §2. Media streams. -/

/-- The encoding written for a stream. -/
def StreamKind.encodingName : StreamKind → String
  | primary => "MP2T"
  | resourced => "MP2T"
  | retransmission => "rtx"
  | fec1 => "parityfec"
  | fec2 => "parityfec"

/-- An attribute that stands only if it has a value. -/
def optionalAttribute (name : String) (value : Option String) : List Attribute :=
  (value.map (Attribute.valued name)).toList

namespace Endpoint

/-- The payload type as text. -/
def ptText (e : Endpoint) : String := decimal e.payloadType.toNat

/-- The bandwidths of the control protocol. -/
def bandwidths (e : Endpoint) : List Bandwidth :=
  (e.rtcpBw.sender.map fun n => (⟨"RS", n.toUInt64⟩ : Bandwidth)).toList
    ++ (e.rtcpBw.receiver.map fun n => (⟨"RR", n.toUInt64⟩ : Bandwidth)).toList

/-- The value of the `a=rtcp` attribute, with the feedback target if there is
one. -/
def rtcpText (e : Endpoint) (fbt : Option Ipv4) : Option String :=
  e.rtcpPort.map fun port =>
    decimal port.toNat ++ match fbt with
      | some addr => " IN IP4 " ++ toString addr
      | none => ""

/-- The attributes that every stream has. -/
def attributes (e : Endpoint) (kind : StreamKind) (fbt : Option Ipv4) : List Attribute :=
  (e.direction.attributeName?.map Attribute.flag).toList
    ++ [.valued "rtpmap" (e.ptText ++ " " ++ kind.encodingName ++ "/90000")]
    ++ optionalAttribute "rtcp" (e.rtcpText fbt)
    ++ optionalAttribute "source-filter"
      (e.srcFilter.map fun src => "incl IN IP4 " ++ toString e.addr ++ " " ++ toString src)
    ++ optionalAttribute "rtcp-per-rcvr-bw" (e.rtcpBw.perReceiver.map (decimal ·.toNat))
    ++ optionalAttribute "mid" e.mid

/-- The media stream of an endpoint, with bandwidths before its own and
attributes behind its own. -/
def toMedia (e : Endpoint) (kind : StreamKind) (fbt : Option Ipv4)
    (before : List Bandwidth) (behind : List Attribute) : Media where
  media := "video"
  port := e.rtpPort
  portCount := none
  protocol := e.transport.protocol
  formats := [e.ptText]
  body := {
    information := none
    connection := some (.ip4 (toString e.addr) e.ttl)
    bandwidths := before ++ e.bandwidths
    attributes := e.attributes kind fbt ++ behind }

end Endpoint

/-- The attributes that ask for extended reports. -/
def XrSettings.attributes (x : XrSettings) : List Attribute :=
  optionalAttribute "rtcp-xr" x.toValue?
    ++ if x.rtcpRsize then [.flag "rtcp-rsize"] else []

namespace Channel

/-- The media stream of the primary stream. -/
def primaryMedia (c : Channel) : Media :=
  let e := c.primary.endpoint
  e.toMedia .primary c.fbtAddr
    (c.primary.bitRate.map fun n => (⟨"AS", (n / 1000).toUInt64⟩ : Bandwidth)).toList
    ((if c.erEnable then [.valued "rtcp-fb" (e.ptText ++ " nack")] else [])
      ++ (if c.fccEnable then [.valued "rtcp-fb" (e.ptText ++ " nack pli")] else [])
      ++ c.primary.xr.attributes)

/-- The media stream of the stream for repair. -/
def rtxMedia (r : RtxStream) : Media :=
  let e := r.endpoint
  e.toMedia .retransmission none [] <|
    .valued "fmtp" (e.ptText ++ " apt=" ++ decimal r.apt.toNat ++ ";rtx-time="
      ++ decimal r.rtxTimeMs.toNat) :: r.xr.attributes

/-- The media stream of a stream that has nothing of its own. -/
def plainMedia (kind : StreamKind) (e : Endpoint) : Media := e.toMedia kind none [] []

/-- The media streams of a channel, in order. -/
def toMedia (c : Channel) : List Media :=
  c.primaryMedia :: (c.resourced.map (plainMedia .resourced)).toList
    ++ (c.rtx.map rtxMedia).toList ++ (c.fec1.map (plainMedia .fec1)).toList
    ++ (c.fec2.map (plainMedia .fec2)).toList

/-! ## §3. Sessions. -/

/-- The origin of a channel. -/
def toOrigin (c : Channel) : Origin where
  username := c.key.username
  sessionId := c.key.sessionId
  sessionVersion := decimal c.version.toNat
  netType := "IN"
  addrType := "IP4"
  address := toString c.key.creator

/-- The canonical session of a channel. -/
def toSession (c : Channel) : Session where
  version := "0"
  origin := c.toOrigin
  name := c.name
  timing := ⟨0, c.stopTime⟩
  body := {
    information := none
    connection := none
    bandwidths := []
    attributes :=
      (if c.feedbackMode = .rsi then [.valued "rtcp-unicast" "rsi"] else [])
        ++ c.groups.map Group.toAttribute }
  media := c.toMedia

/-- The canonical text of a channel. -/
def toText (c : Channel) : String := c.toSession.toText

/-- The fingerprint of a channel. -/
def digest (c : Channel) : String := Md5.hex c.toText.toUTF8

end Channel

end Lineup
