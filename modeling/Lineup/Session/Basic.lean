/-
  Lineup.Session.Basic
  ────────────────────
  **SESSION DESCRIPTIONS.**  A session description says who announces a
  session, when it runs, and which media streams it carries.  What may be said
  of the whole session and of one media stream alike (information, connection,
  bandwidths, attributes) is a `Section`; a session has one, and so has each of
  its media descriptions.

  Versions, network types and address types stay text here: whether they make
  sense is decided where a channel is drawn from the session.
-/
import Lineup.Text.White
import Lineup.Text.Split

namespace Lineup

open Text

/-! ## §1. The values of single lines. -/

/-- Who announces a session: the six fields of an `o=` line. -/
structure Origin where
  /-- The announcing user, often a dash. -/
  username : String
  /-- The session number, as text. -/
  sessionId : String
  /-- The version of the announcement, as text. -/
  sessionVersion : String
  /-- The network type, usually `IN`. -/
  netType : String
  /-- The address type, usually `IP4`. -/
  addrType : String
  /-- The address of the announcing machine. -/
  address : String
  deriving DecidableEq, Repr

/-- Where data is received: the value of a `c=` line. -/
structure Connection where
  /-- The network type, usually `IN`. -/
  netType : String
  /-- The address type, usually `IP4`. -/
  addrType : String
  /-- The address, without the time to live. -/
  address : String
  /-- How many hops multicast packets may take. -/
  ttl : Option UInt8
  deriving DecidableEq, Repr

/-- An IPv4 connection in the internet. -/
def Connection.ip4 (address : String) (ttl : Option UInt8) : Connection :=
  ⟨"IN", "IP4", address, ttl⟩

/-- When a session runs: the value of a `t=` line. Zero means unbounded. -/
structure Timing where
  /-- The start time. -/
  start : UInt64
  /-- The stop time. -/
  stop : UInt64
  deriving DecidableEq, Repr

/-- A bandwidth of some kind: the value of a `b=` line. -/
structure Bandwidth where
  /-- Which bandwidth is meant: `AS`, `RS`, `RR` and so on. -/
  kind : String
  /-- The number given. -/
  value : UInt64
  deriving DecidableEq, Repr

/-- An attribute: the value of an `a=` line. -/
structure Attribute where
  /-- The name before the colon. -/
  name : String
  /-- The text after the colon; none for a bare name. -/
  value : Option String
  deriving DecidableEq, Repr

/-- An attribute that is only a name. -/
def Attribute.flag (name : String) : Attribute := ⟨name, none⟩

/-- An attribute with a value. -/
def Attribute.valued (name value : String) : Attribute := ⟨name, some value⟩

/-! ## §2. Sections, media and sessions. -/

/-- What may be said of a whole session or of one of its media streams. -/
structure Section where
  /-- A title for people. -/
  information : Option String
  /-- Where the data is received. -/
  connection : Option Connection
  /-- The bandwidths, in order. -/
  bandwidths : List Bandwidth
  /-- The attributes, in order. -/
  attributes : List Attribute
  deriving DecidableEq, Repr

/-- The section that says nothing. -/
def Section.empty : Section := ⟨none, none, [], []⟩

/-- One media stream: an `m=` line and the section that follows it. -/
structure Media where
  /-- The kind of media, such as `video`. -/
  media : String
  /-- The port data is sent to. -/
  port : UInt16
  /-- How many ports are used, when given. -/
  portCount : Option UInt16
  /-- The transport protocol, such as `RTP/AVP`. -/
  protocol : String
  /-- The formats; payload types for RTP. -/
  formats : List String
  /-- What is said of this stream. -/
  body : Section
  deriving DecidableEq, Repr

/-- A whole session description. -/
structure Session where
  /-- The protocol version, `0` in every session that was read from text. -/
  version : String
  /-- Who announces the session. -/
  origin : Origin
  /-- The name of the session. -/
  name : String
  /-- When the session runs. -/
  timing : Timing
  /-- What is said of the session as a whole. -/
  body : Section
  /-- The media streams, in order. -/
  media : List Media
  deriving DecidableEq, Repr

/-! ## §3. Questions to a section. -/

/-- The first attribute of a name in a list. -/
def Attribute.find (name : String) (attributes : List Attribute) : Option Attribute :=
  attributes.find? (·.name == name)

/-- The values of the attributes of a name, in order; bare names are passed
over. -/
def Attribute.valuesOf (name : String) (attributes : List Attribute) : List String :=
  (attributes.filter (·.name == name)).filterMap (·.value)

namespace Section

/-- The first attribute of a name. -/
def firstAttribute (s : Section) (name : String) : Option Attribute :=
  Attribute.find name s.attributes

/-- The value of the first attribute of a name; none if that one is bare. -/
def attributeValue (s : Section) (name : String) : Option String :=
  (s.firstAttribute name).bind (·.value)

/-- Whether there is an attribute of a name. -/
def hasAttribute (s : Section) (name : String) : Bool := (s.firstAttribute name).isSome

/-- The attributes of a name, in order. -/
def attributesNamed (s : Section) (name : String) : List Attribute :=
  s.attributes.filter (·.name == name)

/-- The values of the attributes of a name, in order. -/
def attributeValues (s : Section) (name : String) : List String :=
  Attribute.valuesOf name s.attributes

/-- The number of the first bandwidth of a kind. -/
def bandwidth (s : Section) (kind : String) : Option UInt64 :=
  (s.bandwidths.find? (·.kind == kind)).map (·.value)

end Section

/-! ## §4. Groups. -/

/-- A grouping of media streams: the value of an `a=group` line. -/
structure Group where
  /-- What the grouping means, such as `FID` or `FEC`. -/
  semantics : String
  /-- The identification tags of the grouped streams, in order. -/
  mids : List String
  deriving DecidableEq, Repr

namespace Group

/-- The group that an attribute value names; none without a first word. -/
def ofValue? (value : String) : Option Group :=
  match (words isWhite value.toList).map String.ofList with
  | [] => none
  | semantics :: mids => some ⟨semantics, mids⟩

/-- The value of the attribute that writes a group. -/
def toValue (g : Group) : String := " ".intercalate (g.semantics :: g.mids)

/-- The attribute that writes a group. -/
def toAttribute (g : Group) : Attribute := .valued "group" g.toValue

/-- The groups that a list of attributes names, in order. -/
def ofAttributes (attributes : List Attribute) : List Group :=
  (Attribute.valuesOf "group" attributes).filterMap ofValue?

end Group

/-! ## §5. What a reader of a session may ask. -/

/-- The answers a session gives to a reader: the lines that stand once, the
session's own attributes, and media streams by position. A view may claim more
streams than it can show. -/
structure SessionView where
  /-- Who announces the session. -/
  origin : Origin
  /-- The name of the session. -/
  name : String
  /-- When the session runs. -/
  timing : Timing
  /-- The connection of the session as a whole. -/
  connection : Option Connection
  /-- The attributes of the session as a whole. -/
  attributes : List Attribute
  /-- How many media streams there are. -/
  mediaCount : Nat
  /-- The media stream at a position, from 0. -/
  media? : Nat → Option Media

/-- The connection that applies to a media stream: its own, or else the
session's. -/
def SessionView.mediaConnection (v : SessionView) (index : Nat) : Option Connection :=
  (v.media? index).bind fun m => m.body.connection <|> v.connection

namespace Session

/-- The view that shows a session as it is. -/
def view (s : Session) : SessionView where
  origin := s.origin
  name := s.name
  timing := s.timing
  connection := s.body.connection
  attributes := s.body.attributes
  mediaCount := s.media.length
  media? i := s.media[i]?

/-- The groups that a session declares, in order. -/
def groups (s : Session) : List Group := Group.ofAttributes s.body.attributes

/-- The first attribute of a name that is said of the whole session. -/
def firstAttribute (s : Session) (name : String) : Option Attribute := s.body.firstAttribute name

end Session

end Lineup
