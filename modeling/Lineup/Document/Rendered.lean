/-
  Lineup.Document.Rendered
  ────────────────────────
  **A REGISTRY AS A DOCUMENT.**  A comment says when the document was written
  and how many channels it holds; the canonical texts of the channels follow in
  the order of their slots, with a `--` line between every two of them.  Lines
  end at LF.
-/
import Lineup.Registry.Basic

namespace Lineup.Document

open Text

/-- A text in which every CRLF has become LF. -/
def withLf : List Char → List Char
  | '\r' :: '\n' :: cs => '\n' :: withLf cs
  | c :: cs => c :: withLf cs
  | [] => []

/-- The line between two sessions. -/
def boundary : String := "--\n"

/-- The text of a channel as it stands in a document. -/
def channelText (c : Channel) : String := String.ofList (withLf c.toText.toList)

/-- The opening comment; the time is given as text. -/
def heading (generated : String) (count : Nat) : String :=
  "# channel configuration generated " ++ generated ++ " (" ++ decimal count ++ " channels)\n"

/-- The document of a registry; the time is given as text. -/
def ofRegistry (r : Registry) (generated : String) : String :=
  heading generated r.size
    ++ boundary.intercalate (r.channels.map fun (_, c) => channelText c)

/-- The document of a registry at a point in time. -/
def ofRegistryAt (r : Registry) (t : Instant) : String := ofRegistry r t.rfc3339

end Lineup.Document
