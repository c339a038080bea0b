/-
  Lineup.Extraction.Channel
  ─────────────────────────
  **FROM SESSION TO CHANNEL.**  A channel is drawn from a session in stages,
  and the first stage that finds a fault refuses the session:

      identity     — the key and the version from the origin
      header       — timing, feedback mode, number of media streams
      parts        — which media stream plays which part
      streams      — every stream for itself
      role, repair — role and mode, and the repaired payload type
      groups       — tags and groups
      consistency  — the streams side by side

  The fingerprint of the finished channel is taken last.
-/
import Lineup.Channel.Identity
import Lineup.Channel.Canonical
import Lineup.Extraction.Streams
import Lineup.Extraction.Role
import Lineup.Extraction.Grouping
import Lineup.Extraction.Consistency
import Lineup.Session.Reader

namespace Lineup

open Text

/-! ## §1. Header. -/

/-- The feedback mode of a session: what its first `a=rtcp-unicast` attribute
says. -/
def FeedbackMode.read (v : SessionView) : Check FeedbackMode :=
  match Attribute.find "rtcp-unicast" v.attributes with
  | none => pure unspecified
  | some a =>
    if a.value = some "rsi" then pure rsi
    else if a.value = some "reflection" then do
      Check.note .reflectionDowngraded
      pure rsi
    else .refused (.invalidFeedbackMode (a.value.getD ""))

/-- A session has as many media streams as its type allows. -/
def checkMediaCount (channelType : ChannelType) (count : Nat) : Except ValidationError Unit :=
  if count < channelType.minMedia ∨ ChannelType.maxMedia < count then
    .error (.mediaCount count channelType.minMedia ChannelType.maxMedia)
  else .ok ()

/-! ## §2. Repair. -/

/-- The payload type that is repaired. -/
def Streams.repairedType (s : Streams) (mode : Mode) : UInt8 :=
  match mode, s.resourced with
  | .source, some e => e.payloadType
  | _, _ => s.primary.stream.endpoint.payloadType

/-- The stream for repair is about the payload type that is repaired. -/
def Streams.checkApt (s : Streams) (mode : Mode) : Except ValidationError Unit :=
  match s.rtx with
  | none => .ok ()
  | some rtx =>
    if rtx.apt = s.repairedType mode then .ok ()
    else .error (.aptMismatch (s.repairedType mode) rtx.apt)

/-! ## §3. The channel. -/

/-- The channel of an identity with these streams, before its fingerprint. -/
def Streams.channel (s : Streams) (v : SessionView) (channelType : ChannelType)
    (identity : SessionIdentity) (feedbackMode : FeedbackMode) (roleMode : Role × Mode) :
    Channel where
  key := identity.key
  name := v.name
  version := identity.version
  checksum := ""
  channelType := channelType
  role := roleMode.1
  mode := roleMode.2
  feedbackMode := feedbackMode
  erEnable := s.primary.requests.er
  fccEnable := s.primary.requests.fcc
  primary := s.primary.stream
  resourced := s.resourced
  fbtAddr := s.primary.fbtAddr
  rtx := s.rtx
  fecMode := FecMode.ofCount (s.fec1.toList.length + s.fec2.toList.length)
  fec1 := s.fec1
  fec2 := s.fec2
  stopTime := v.timing.stop
  active := v.timing.stop == 0
  complete := identity.key.username != "" && identity.key.sessionId != ""
  used := false

/-- A channel with its fingerprint. -/
def Channel.sealed (c : Channel) : Channel := { c with checksum := c.digest }

/-- The channel of an identity that a session describes. -/
def SessionView.channel (v : SessionView) (channelType : ChannelType)
    (identity : SessionIdentity) : Check Channel := do
  Check.require (v.timing.start == 0) (.nonZeroStartTime v.timing.start)
  let feedbackMode ← FeedbackMode.read v
  checkMediaCount channelType v.mediaCount
  -- every media line is checked by itself before any two are compared
  let parts ← Parts.ofView v channelType
  let streams ← parts.streams
  let roleMode ← resolveRole streams.primary.stream.endpoint.direction
    (streams.resourced.map (·.direction)) (streams.rtx.map (·.endpoint.direction))
  streams.checkApt roleMode.2
  -- the remaining checks compare the parts of the channel with each other
  let channel := streams.channel v channelType identity feedbackMode roleMode
  channel.checkGroups (Group.ofAttributes v.attributes)
  channel.checkConsistency
  return channel.sealed

/-- A channel and what was noticed while it was drawn from its session. -/
structure Extraction where
  /-- The channel. -/
  channel : Channel
  /-- What was noticed, in order. -/
  warnings : List Warning
  deriving DecidableEq, Repr

/-- Draws a channel from a session. -/
def extractChannel (v : SessionView) (channelType : ChannelType) :
    Except ExtractError Extraction :=
  match SessionIdentity.ofOrigin v.origin with
  | .error e => .error (.validation none e)
  | .ok identity =>
    match v.channel channelType identity with
    | .refused e => .error (.validation (some identity.key) e)
    | .passed channel warnings => .ok ⟨channel, warnings⟩

/-- Draws a channel from a text. -/
def extractText (text : String) (channelType : ChannelType) : Except ExtractError Extraction :=
  match Session.ofText text with
  | .error e => .error (.syntaxError e)
  | .ok session => extractChannel session.view channelType

end Lineup
