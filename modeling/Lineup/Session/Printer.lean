/-
  Lineup.Session.Printer
  ──────────────────────
  **WRITING SESSIONS.**  A session is written as lines `key=value`, each ended
  by CR LF, in a fixed order: version, origin, name, information, connection,
  bandwidths, timing, attributes, and then every media stream with its own
  section.
-/
import Lineup.Session.Basic
import Lineup.Text.Decimal

namespace Lineup

open Text

/-! ## §1. Lines. -/

/-- One line of a session description. -/
structure Line where
  /-- The letter before the equals sign. -/
  key : Char
  /-- The text after the equals sign. -/
  value : String
  deriving DecidableEq, Repr

/-- A line without its ending. -/
def Line.text (l : Line) : String := String.ofList (l.key :: '=' :: l.value.toList)

/-- Lines one after another, each ended by CR LF. -/
def Line.join (ls : List Line) : String := String.join (ls.map fun l => l.text ++ "\r\n")

/-! ## §2. The values of single lines. -/

/-- The six fields of an origin with single spaces between them. -/
def Origin.toValue (o : Origin) : String :=
  " ".intercalate
    [o.username, o.sessionId, o.sessionVersion, o.netType, o.addrType, o.address]

/-- The three fields of a connection, the time to live behind a slash. -/
def Connection.toValue (c : Connection) : String :=
  " ".intercalate [c.netType, c.addrType, c.address]
    ++ match c.ttl with
       | some ttl => "/" ++ decimal ttl.toNat
       | none => ""

/-- Start and stop time. -/
def Timing.toValue (t : Timing) : String :=
  decimal t.start.toNat ++ " " ++ decimal t.stop.toNat

/-- Kind and number with a colon between them. -/
def Bandwidth.toValue (b : Bandwidth) : String := b.kind ++ ":" ++ decimal b.value.toNat

/-- The name, and the value behind a colon. -/
def Attribute.toValue (a : Attribute) : String :=
  match a.value with
  | some value => a.name ++ ":" ++ value
  | none => a.name

/-- Media kind, port with the port count behind a slash, protocol, formats. -/
def Media.toValue (m : Media) : String :=
  m.media ++ " " ++ decimal m.port.toNat
    ++ (match m.portCount with
        | some count => "/" ++ decimal count.toNat
        | none => "")
    ++ " " ++ m.protocol ++ " " ++ " ".intercalate m.formats

/-! ## §3. Sections and sessions. -/

namespace Section

/-- The lines of a section that come before the timing. -/
def headLines (s : Section) : List Line :=
  (s.information.map fun i => (⟨'i', i⟩ : Line)).toList
    ++ (s.connection.map fun c => (⟨'c', c.toValue⟩ : Line)).toList
    ++ s.bandwidths.map fun b => ⟨'b', b.toValue⟩

/-- The attribute lines of a section. -/
def attributeLines (s : Section) : List Line := s.attributes.map fun a => ⟨'a', a.toValue⟩

end Section

/-- The lines of one media stream. -/
def Media.toLines (m : Media) : List Line :=
  ⟨'m', m.toValue⟩ :: m.body.headLines ++ m.body.attributeLines

/-- The lines of a session. -/
def Session.toLines (s : Session) : List Line :=
  [⟨'v', s.version⟩, ⟨'o', s.origin.toValue⟩, ⟨'s', s.name⟩]
    ++ s.body.headLines ++ [⟨'t', s.timing.toValue⟩] ++ s.body.attributeLines
    ++ s.media.flatMap Media.toLines

/-- The text of a session. -/
def Session.toText (s : Session) : String := Line.join s.toLines

end Lineup
