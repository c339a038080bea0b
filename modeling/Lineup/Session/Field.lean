/-
  Lineup.Session.Field
  ────────────────────
  **THE VALUES OF LINES.**  The value of a line is a sequence of fields: tokens
  free of white space, with spaces and tabs between them and nothing else.
  Each kind of line says how many fields it takes and what they hold.
-/
import Lineup.Session.Printer

namespace Lineup

open Text

/-! ## §1. Fields. -/

/-- The fields of a value; none if a white character other than a blank stands
anywhere. -/
def fields? (cs : List Char) : Option (List (List Char)) :=
  let ws := words isBlank cs
  if ws.all (·.all (!isWhite ·)) then some ws else none

/-! ## §2. One reader per kind of line. -/

/-- An origin is exactly six fields. -/
def Origin.ofChars? (cs : List Char) : Option Origin :=
  match fields? cs with
  | some [username, sessionId, sessionVersion, netType, addrType, address] =>
    some ⟨.ofList username, .ofList sessionId, .ofList sessionVersion, .ofList netType,
      .ofList addrType, .ofList address⟩
  | _ => none

/-- The address field of a connection: a non-empty address, then perhaps a time
to live, then perhaps the number of addresses, each behind a slash. -/
def Connection.addressField? (cs : List Char) : Option (List Char × Option UInt8) :=
  match pieces (· == '/') cs with
  | [address] => if address.isEmpty then none else some (address, none)
  | [address, ttl] => do
    let ttl ← uint8? ttl
    if address.isEmpty then none else some (address, some ttl)
  -- the number of addresses has to be a number, and is then dropped
  | [address, ttl, count] => do
    let ttl ← uint8? ttl
    let _ ← uint16? count
    if address.isEmpty then none else some (address, some ttl)
  | _ => none

/-- A connection is exactly three fields. -/
def Connection.ofChars? (cs : List Char) : Option Connection :=
  match fields? cs with
  | some [netType, addrType, address] => do
    let (address, ttl) ← addressField? address
    some ⟨.ofList netType, .ofList addrType, .ofList address, ttl⟩
  | _ => none

/-- A timing is two numbers. -/
def Timing.ofChars? (cs : List Char) : Option Timing :=
  match fields? cs with
  | some [start, stop] => do return ⟨← digits64? start, ← digits64? stop⟩
  | _ => none

/-- The characters of a bandwidth kind. -/
def Bandwidth.isKindChar (c : Char) : Bool := c.isAlphanum || c == '-' || c == '_' || c == '.'

/-- A bandwidth is a kind, a colon and a number. -/
def Bandwidth.ofChars? (cs : List Char) : Option Bandwidth := do
  let (kind, value) ← cut (· == ':') cs
  if kind.isEmpty || !kind.all isKindChar then none
  else return ⟨.ofList kind, ← digits64? value⟩

/-- The port field of a media line: a port, then perhaps a count behind a
slash. -/
def Media.portField? (cs : List Char) : Option (UInt16 × Option UInt16) :=
  match cut (· == '/') cs with
  | none => do return (← digits16? cs, none)
  | some (port, count) => do return (← digits16? port, some (← digits16? count))

/-- A media line is four or more fields: kind, port, protocol, formats. -/
def Media.ofChars? (cs : List Char) : Option Media :=
  match fields? cs with
  | some (media :: port :: protocol :: format :: formats) => do
    let (port, portCount) ← portField? port
    some {
      media := .ofList media, port, portCount, protocol := .ofList protocol,
      formats := (format :: formats).map .ofList, body := .empty }
  | _ => none

/-- An attribute is a non-empty name free of white space and colons, and then
either nothing or a colon and its value. -/
def Attribute.ofChars? (cs : List Char) : Option Attribute :=
  let name := cs.takeWhile fun c => c != ':' && !isWhite c
  if name.isEmpty then none
  else match cs.dropWhile fun c => c != ':' && !isWhite c with
  | [] => some (.flag (.ofList name))
  | ':' :: value => some (.valued (.ofList name) (.ofList (trim value)))
  -- the name ended at white space, behind which nothing may stand
  | rest => if rest.all isWhite then some (.flag (.ofList name)) else none

end Lineup
