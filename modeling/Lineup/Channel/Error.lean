/-
  Lineup.Channel.Error
  ────────────────────
  **WHY A SESSION IS NO CHANNEL.**  One constructor per cause; the wording is
  in the `message` functions.  Media streams are counted from 0 here.
-/
import Lineup.Channel.Basic
import Lineup.Session.Error

namespace Lineup

open Text

/-! ## §1. Causes with a fixed wording. -/

/-- What is wrong with the form of a media stream. -/
inductive StreamFault where
  /-- A retransmission stream is carried without feedback. -/
  | rtxNeedsFeedback
  /-- A retransmission stream goes to a multicast group. -/
  | rtxNeedsUnicast
  /-- An error-correction stream is carried in bare datagrams. -/
  | fecNeedsRtp
  /-- A stream other than the primary is carried in bare datagrams. -/
  | onlyPrimaryUdp
  /-- An `rtpmap` attribute has no encoding. -/
  | malformedRtpmap
  deriving DecidableEq, Repr

/-- The wording of a fault of form. -/
def StreamFault.message : StreamFault → String
  | rtxNeedsFeedback => "retransmission requires RTP/AVPF"
  | rtxNeedsUnicast => "retransmission address must be unicast"
  | fecNeedsRtp => "FEC requires an RTP transport"
  | onlyPrimaryUdp => "only the primary stream may use udp"
  | malformedRtpmap => "malformed rtpmap"

/-- What is wrong with a port. -/
inductive PortFault where
  /-- The data port is 0. -/
  | zero
  /-- The control port is not given, and none follows the data port. -/
  | noSuccessor
  deriving DecidableEq, Repr

/-- The wording of a fault of a port. -/
def PortFault.message : PortFault → String
  | zero => "RTP port 0"
  | noSuccessor => "no a=rtcp line and the RTP port has no successor"

/-- What a stream does, as far as its role goes. -/
inductive Activity where
  /-- Nothing, or there is no such stream. -/
  | off
  /-- It sends. -/
  | sending
  /-- It receives. -/
  | receiving
  /-- It does both. -/
  | both
  deriving DecidableEq, Repr

namespace Activity

/-- The word for an activity. -/
def word : Activity → String
  | off => "off"
  | sending => "sendonly"
  | receiving => "recvonly"
  | both => "sendrecv"

/-- What a stream of a direction does. -/
def ofDirection : Direction → Activity
  | .sendOnly => sending
  | .recvOnly => receiving
  | .sendRecv => both
  | .inactive => off
  | .unset => off

/-- What a stream does that may be missing. -/
def ofStream? (direction : Option Direction) : Activity := direction.elim off ofDirection

end Activity

/-! ## §2. Violations of the channel model. -/

/-- Why a session is no channel. -/
inductive ValidationError where
  /-- The version of the session is no number of 64 bits. -/
  | invalidVersion (text : String)
  /-- An address is not an IPv4 address of the internet. -/
  | unsupportedAddressFamily (netType addrType : String)
  /-- An address does not read as an IPv4 address. -/
  | invalidAddress (text : String)
  /-- An identity does not have six words. -/
  | invalidIdentity (text : String)
  /-- The session starts at some time. -/
  | nonZeroStartTime (start : UInt64)
  /-- There are too few or too many media streams. -/
  | mediaCount (count min max : Nat)
  /-- A media stream has no payload type or more than one. -/
  | payloadTypeCount (media count : Nat)
  /-- A payload type is neither 33 nor dynamic. -/
  | invalidPayloadType (media : Nat) (value : String)
  /-- An attribute is about another payload type than the stream's. -/
  | payloadTypeMismatch (media : Nat) (name : String) (expected : UInt8) (found : String)
  /-- The transport is unknown. -/
  | unsupportedTransport (media : Nat) (protocol : String)
  /-- No connection applies to a media stream. -/
  | missingConnection (media : Nat)
  /-- The encoding of a dynamic payload type is not given. -/
  | missingEncoding (media : Nat) (payloadType : UInt8)
  /-- The encoding is unknown. -/
  | unsupportedEncoding (media : Nat) (encoding : String)
  /-- The form of a media stream is wrong. -/
  | invalidStream (media : Nat) (fault : StreamFault)
  /-- Two media streams claim one part. -/
  | duplicateStream (stream : StreamKind)
  /-- No media stream can be the primary stream. -/
  | missingPrimary
  /-- A distribution stream goes to a single receiver. -/
  | notMulticast (stream : StreamKind) (addr : Ipv4)
  /-- A port cannot be used. -/
  | invalidPort (stream : StreamKind) (fault : PortFault)
  /-- The value of an attribute has the wrong form. -/
  | invalidAttribute (stream : StreamKind) (name value : String)
  /-- A bandwidth stands where it may not. -/
  | bandwidthNotAllowed (stream : StreamKind) (kind : String)
  /-- A bandwidth is out of range. -/
  | invalidBandwidth (stream : StreamKind) (kind : String) (value : UInt64)
  /-- A source filter names whom not to listen to. -/
  | sourceFilterExcluded (stream : StreamKind)
  /-- A source filter is about another address than the stream's. -/
  | sourceFilterMismatch (stream : StreamKind) (expected found : Ipv4)
  /-- The feedback mode is unknown. -/
  | invalidFeedbackMode (text : String)
  /-- The repaired payload type is not given. -/
  | missingApt
  /-- The repaired payload type is not that of the repaired stream. -/
  | aptMismatch (expected found : UInt8)
  /-- No role goes with these directions. -/
  | unsupportedDirections (primary resourced retransmission : Activity)
  /-- A group that has to be there is missing. -/
  | missingGroup (semantics : String)
  /-- There are two groups of one meaning. -/
  | duplicateGroup (semantics : String)
  /-- There is a retransmission group without a retransmission stream. -/
  | groupWithoutRetransmission
  /-- There is an error-correction group without error correction. -/
  | groupWithoutFec
  /-- A group names other streams than it should. -/
  | groupMismatch (semantics : String) (expected found : List String)
  /-- A grouped stream has no tag. -/
  | missingMid (stream : StreamKind)
  /-- Two streams have one tag. -/
  | duplicateMid (mid : String)
  /-- Two streams claim one port. -/
  | portConflict (first second : StreamKind) (port : UInt16)
  /-- A stream uses one port for data and control. -/
  | rtpRtcpPortEqual (stream : StreamKind)
  /-- A stream other than the primary names another address for control. -/
  | rtcpAddressMismatch (stream : StreamKind) (rtcp connection : Ipv4)
  /-- Feedback goes to another address than that of retransmission. -/
  | feedbackTargetMismatch (fbt rtx : Ipv4)
  /-- An access node in service does not know a bandwidth. -/
  | missingBandwidth
  deriving DecidableEq, Repr

namespace ValidationError

/-- The opening of a message about a media stream by position. -/
def aboutMedia (media : Nat) (text : String) : String :=
  "Media line " ++ decimal media ++ ": " ++ text

/-- The opening of a message about a stream by kind. -/
def aboutStream (stream : StreamKind) (text : String) : String :=
  stream.word ++ " stream" ++ text

/-- The wording of a violation. -/
def message : ValidationError → String
  | invalidVersion text => "Invalid session version " ++ quote text
  | unsupportedAddressFamily netType addrType =>
    "Unsupported network/address family: " ++ netType ++ " " ++ addrType
  | invalidAddress text => "Invalid IPv4 address " ++ quote text
  | invalidIdentity text => "Invalid session identity " ++ quote text
  | nonZeroStartTime start => "Session start time must be 0, got " ++ decimal start.toNat
  | mediaCount count min max =>
    "Session has " ++ decimal count ++ " media lines; " ++ decimal min ++ " to " ++ decimal max
      ++ " allowed"
  | payloadTypeCount media count =>
    aboutMedia media ("expected exactly one payload type, got " ++ decimal count)
  | invalidPayloadType media value =>
    aboutMedia media ("payload type " ++ quote value ++ " outside 96-127 and not 33")
  | payloadTypeMismatch media name expected found =>
    aboutMedia media (name ++ " names payload type " ++ quote found ++ ", expected "
      ++ decimal expected.toNat)
  | unsupportedTransport media protocol =>
    aboutMedia media ("unsupported transport " ++ quote protocol)
  | missingConnection media => aboutMedia media "no connection address"
  | missingEncoding media payloadType =>
    aboutMedia media ("no rtpmap for payload type " ++ decimal payloadType.toNat)
  | unsupportedEncoding media encoding =>
    aboutMedia media ("unsupported encoding " ++ quote encoding)
  | invalidStream media fault => aboutMedia media fault.message
  | duplicateStream stream => "More than one " ++ stream.word ++ " stream"
  | missingPrimary => "No primary (MP2T) stream"
  | notMulticast stream addr =>
    aboutStream stream (" address " ++ toString addr ++ " is not multicast")
  | invalidPort stream fault => aboutStream stream (": " ++ fault.message)
  | invalidAttribute stream name value =>
    aboutStream stream (": invalid " ++ name ++ " value " ++ quote value)
  | bandwidthNotAllowed stream kind => aboutStream stream (": b=" ++ kind ++ " not allowed")
  | invalidBandwidth stream kind value =>
    aboutStream stream (": b=" ++ kind ++ ":" ++ decimal value.toNat ++ " out of range")
  | sourceFilterExcluded stream =>
    aboutStream stream ": exclusive source filters are not supported"
  | sourceFilterMismatch stream expected found =>
    aboutStream stream (": source filter names " ++ toString found
      ++ ", connection address is " ++ toString expected)
  | invalidFeedbackMode text => "Unsupported rtcp-unicast mode " ++ quote text
  | missingApt => "Retransmission fmtp has no apt parameter"
  | aptMismatch expected found =>
    "Retransmission apt=" ++ decimal found.toNat ++ " does not match repaired payload type "
      ++ decimal expected.toNat
  | unsupportedDirections primary resourced retransmission =>
    "Unsupported direction combination: primary " ++ primary.word ++ ", re-sourced "
      ++ resourced.word ++ ", retransmission " ++ retransmission.word
  | missingGroup semantics => "Missing a=group:" ++ semantics ++ " line"
  | duplicateGroup semantics => "More than one a=group:" ++ semantics ++ " line"
  | groupWithoutRetransmission => "a=group:FID given without a retransmission stream"
  | groupWithoutFec => "a=group:FEC given without FEC streams"
  | groupMismatch semantics expected found =>
    "a=group:" ++ semantics ++ " lists " ++ quoteAll found ++ ", expected " ++ quoteAll expected
  | missingMid stream => aboutStream stream " has no a=mid"
  | duplicateMid mid => "a=mid:" ++ mid ++ " used by more than one stream"
  | portConflict first second port =>
    first.word ++ " and " ++ second.word ++ " streams collide on port " ++ decimal port.toNat
  | rtpRtcpPortEqual stream => aboutStream stream " uses one port for RTP and RTCP"
  | rtcpAddressMismatch stream rtcp connection =>
    aboutStream stream (": a=rtcp address " ++ toString rtcp
      ++ " differs from connection address " ++ toString connection)
  | feedbackTargetMismatch fbt rtx =>
    "Feedback target " ++ toString fbt ++ " differs from retransmission address "
      ++ toString rtx
  | missingBandwidth =>
    "Active video access node channel needs b=AS, b=RS or b=RR on the primary"

end ValidationError

/-! ## §3. Failures of extraction. -/

/-- Why a text did not become a channel. -/
inductive ExtractError where
  /-- The text is no session description. -/
  | syntaxError (cause : SyntaxError)
  /-- The session is no channel. Its key is known once the origin names one. -/
  | validation (key : Option SessionKey) (cause : ValidationError)
  deriving DecidableEq, Repr

namespace ExtractError

/-- The wording of a failure. -/
def message : ExtractError → String
  | syntaxError cause => "Syntax error: " ++ cause.message
  | validation key cause =>
    "Session " ++ key.elim "<unknown>" SessionKey.text ++ ": " ++ cause.message

/-- The wordings of what lies behind a failure. -/
def causes : ExtractError → List String
  | syntaxError cause => [cause.message]
  | validation _ cause => [cause.message]

end ExtractError

end Lineup
