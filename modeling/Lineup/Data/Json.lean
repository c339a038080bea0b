/-
  Lineup.Data.Json
  ────────────────
  **JSON, LAID OUT FOR PEOPLE.**  Every item and every field stands on a line
  of its own, two spaces deeper than what holds it; an empty list is `[]` and
  an empty record a pair of braces.  Texts are quoted with the escapes JSON
  requires and no others.
-/
import Lineup.Data.Basic
import Lineup.Text.Decimal

namespace Lineup.Data

open Text

/-! ## §1. Texts. -/

/-- A hexadecimal number of four digits. -/
def hex4 (n : Nat) : List Char :=
  let ds := Nat.toDigits 16 n
  List.replicate (4 - ds.length) '0' ++ ds

/-- One character of a JSON text. -/
def jsonChar (c : Char) : List Char :=
  if c = '"' then ['\\', '"']
  else if c = '\\' then ['\\', '\\']
  else if c = '\n' then ['\\', 'n']
  else if c = '\r' then ['\\', 'r']
  else if c = '\t' then ['\\', 't']
  else if c = '\x08' then ['\\', 'b']
  else if c = '\x0c' then ['\\', 'f']
  else if c.toNat < 0x20 then '\\' :: 'u' :: hex4 c.toNat
  else [c]

/-- A JSON text between quotes. -/
def jsonText (s : String) : String :=
  String.ofList ('"' :: s.toList.flatMap jsonChar ++ ['"'])

/-! ## §2. Values. -/

/-- The start of a line at a depth. -/
def indent (depth : Nat) : String := String.ofList ('\n' :: List.replicate (2 * depth) ' ')

/-- Parts between two brackets, each on a line of its own. -/
def bracketed (opening closing : String) (depth : Nat) (parts : List String) : String :=
  if parts.isEmpty then opening ++ closing
  else opening ++ ",".intercalate (parts.map (indent (depth + 1) ++ ·)) ++ indent depth ++ closing

mutual

/-- A value that stands at a depth. -/
def prettyAt (depth : Nat) : Data → String
  | null => "null"
  | bool b => if b then "true" else "false"
  | int n => if n < 0 then "-" ++ decimal n.natAbs else decimal n.natAbs
  | real s => s
  | text s => jsonText s
  | list items => bracketed "[" "]" depth (prettyItems (depth + 1) items)
  | record fields => bracketed "\x7b" "\x7d" depth (prettyFields (depth + 1) fields)

/-- The items of a list. -/
def prettyItems (depth : Nat) : List Data → List String
  | [] => []
  | d :: ds => prettyAt depth d :: prettyItems depth ds

/-- The fields of a record. -/
def prettyFields (depth : Nat) : List (String × Data) → List String
  | [] => []
  | (name, d) :: fs => (jsonText name ++ ": " ++ prettyAt depth d) :: prettyFields depth fs

end

/-- The JSON text of a value. -/
def pretty (d : Data) : String := prettyAt 0 d

end Lineup.Data
