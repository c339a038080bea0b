/-
  Lineup.Channel.Kind
  ───────────────────
  **THE KINDS OF THINGS IN A CHANNEL.**  Enumerations with the words that name
  them in messages, in session text and in structured data.
-/
import Lineup.Data.Basic

namespace Lineup

/-! ## §1. Channels. -/

/-- What a channel carries. -/
inductive ChannelType where
  /-- A broadcast; every distribution stream goes to a multicast group. -/
  | linear
  /-- Content on demand; the primary stream may go to a single receiver. -/
  | vod
  deriving DecidableEq, Repr

namespace ChannelType

/-- The word for a channel type. -/
def word : ChannelType → String
  | linear => "linear"
  | vod => "vod"

/-- The channel types by their words. -/
def cases : List (String × ChannelType) := [linear, vod].map fun t => (t.word, t)

/-- The channel type that a text names, in upper or lower case. -/
def ofText? (s : String) : Option ChannelType :=
  cases.lookup (String.ofList (s.toList.map Char.toLower))

/-- The fewest media streams a session of a type may have. -/
def minMedia : ChannelType → Nat
  | linear => 1
  | vod => 2

/-- The most media streams any session may have. -/
def maxMedia : Nat := 5

end ChannelType

/-- The place in the distribution tree that a channel is meant for. -/
inductive Role where
  /-- The head of the tree, which sends the primary stream. -/
  | distributionSource
  /-- A node that receives the primary stream and repairs it for others. -/
  | videoAccessNode
  /-- A leaf, which only receives. -/
  | setTop
  /-- No place in particular. -/
  | unspecified
  deriving DecidableEq, Repr

namespace Role

/-- The word for a role. -/
def word : Role → String
  | distributionSource => "distribution-source"
  | videoAccessNode => "video-access-node"
  | setTop => "set-top"
  | unspecified => "unspecified"

/-- The roles by their words. -/
def cases : List (String × Role) :=
  [distributionSource, videoAccessNode, setTop, unspecified].map fun r => (r.word, r)

end Role

/-- How lost packets are repaired. -/
inductive Mode where
  /-- The stream is sent out; nothing is repaired here. -/
  | distribution
  /-- From a re-sourced copy of the stream. -/
  | source
  /-- From the stream itself. -/
  | lookaside
  /-- Not at all. -/
  | receiveOnly
  /-- In no way in particular. -/
  | unspecified
  deriving DecidableEq, Repr

namespace Mode

/-- The word for a mode in messages. -/
def word : Mode → String
  | distribution => "distribution"
  | source => "source"
  | lookaside => "lookaside"
  | receiveOnly => "receive-only"
  | unspecified => "unspecified"

/-- The modes by their words in structured data. -/
def cases : List (String × Mode) := [
  ("distribution", distribution), ("source", source), ("lookaside", lookaside),
  ("recv-only", receiveOnly), ("unspecified", unspecified)]

end Mode

/-- Where receivers send their feedback. -/
inductive FeedbackMode where
  /-- Nothing was said. -/
  | unspecified
  /-- To a target that summarises it for all. -/
  | rsi
  deriving DecidableEq, Repr

/-- The feedback modes by their words. -/
def FeedbackMode.cases : List (String × FeedbackMode) :=
  [("unspecified", unspecified), ("rsi", rsi)]

/-- How forward error correction is laid out. -/
inductive FecMode where
  /-- One stream protects columns. -/
  | oneDimensional
  /-- Two streams protect columns and rows. -/
  | twoDimensional
  deriving DecidableEq, Repr

/-- The layouts by their words. -/
def FecMode.cases : List (String × FecMode) := [("1d", oneDimensional), ("2d", twoDimensional)]

/-! ## §2. Streams. -/

/-- The part a stream plays in its channel. -/
inductive StreamKind where
  /-- The stream itself. -/
  | primary
  /-- A copy of it, sent on from elsewhere. -/
  | resourced
  /-- Lost packets, sent again on request. -/
  | retransmission
  /-- The first stream of forward error correction. -/
  | fec1
  /-- The second stream of forward error correction. -/
  | fec2
  deriving DecidableEq, Repr

namespace StreamKind

/-- The words for a stream in messages. -/
def word : StreamKind → String
  | primary => "primary"
  | resourced => "re-sourced"
  | retransmission => "retransmission"
  | fec1 => "fec1"
  | fec2 => "fec2"

/-- The streams by their words in structured data. -/
def cases : List (String × StreamKind) := [
  ("primary", primary), ("resourced", resourced), ("retransmission", retransmission),
  ("fec1", fec1), ("fec2", fec2)]

end StreamKind

/-- How the packets of a stream are carried. -/
inductive Transport where
  /-- Bare datagrams, without any control protocol. -/
  | udp
  /-- RTP. -/
  | rtp
  /-- RTP with feedback from the receivers. -/
  | rtpFeedback
  deriving DecidableEq, Repr

namespace Transport

/-- The transport that a protocol token names. -/
def ofProtocol? (protocol : String) : Option Transport :=
  if protocol = "udp" ∨ protocol = "UDP" then some udp
  else if protocol = "RTP/AVP" then some rtp
  else if protocol = "RTP/AVPF" then some rtpFeedback
  else none

/-- The token that writes a transport. -/
def protocol : Transport → String
  | udp => "udp"
  | rtp => "RTP/AVP"
  | rtpFeedback => "RTP/AVPF"

/-- Whether packets are RTP packets. -/
def isRtp : Transport → Bool
  | udp => false
  | _ => true

/-- The transports by their words. -/
def cases : List (String × Transport) := [("udp", udp), ("rtp", rtp), ("rtp-feedback", rtpFeedback)]

theorem ofProtocol?_protocol (t : Transport) : ofProtocol? t.protocol = some t := by
  cases t <;> decide

end Transport

/-- Which way packets flow. -/
inductive Direction where
  /-- Out. -/
  | sendOnly
  /-- In. -/
  | recvOnly
  /-- Both ways. -/
  | sendRecv
  /-- Neither way. -/
  | inactive
  /-- Nothing was said. -/
  | unset
  deriving DecidableEq, Repr

namespace Direction

/-- Only a stream that flows one way is active. -/
def isActive : Direction → Bool
  | sendOnly | recvOnly => true
  | _ => false

/-- The attribute that states a direction. -/
def attributeName? : Direction → Option String
  | sendOnly => some "sendonly"
  | recvOnly => some "recvonly"
  | sendRecv => some "sendrecv"
  | inactive => some "inactive"
  | unset => none

/-- The direction that an attribute name states. -/
def ofAttributeName? (name : String) : Option Direction :=
  [("sendonly", sendOnly), ("recvonly", recvOnly), ("sendrecv", sendRecv),
    ("inactive", inactive)].lookup name

/-- The directions by their words. -/
def cases : List (String × Direction) := [
  ("sendonly", sendOnly), ("recvonly", recvOnly), ("sendrecv", sendRecv),
  ("inactive", inactive), ("unset", unset)]

end Direction

end Lineup
