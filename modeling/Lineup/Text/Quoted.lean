/-
  Lineup.Text.Quoted
  ──────────────────
  **QUOTED TEXT.**  How a message quotes a text it complains about: between
  double quotes, with the quote and the backslash escaped, the common controls
  by letter, every other hidden character by its number in braces, and all
  else as it stands.
-/
import Lineup.Text.Hidden

namespace Lineup.Text

/-- The number of a character, in lower-case hexadecimal without padding. -/
def codePoint (c : Char) : List Char :=
  '\\' :: 'u' :: '\x7b' :: Nat.toDigits 16 c.toNat ++ ['\x7d']

/-- One character of a quoted text. -/
def quoteChar (c : Char) : List Char :=
  if c = '"' then ['\\', '"']
  else if c = '\\' then ['\\', '\\']
  else if c = '\n' then ['\\', 'n']
  else if c = '\r' then ['\\', 'r']
  else if c = '\t' then ['\\', 't']
  else if c = '\x00' then ['\\', '0']
  else if isHidden c then codePoint c
  else [c]

/-- A text between double quotes. -/
def quote (s : String) : String :=
  String.ofList ('"' :: s.toList.flatMap quoteChar ++ ['"'])

/-- Quoted texts between square brackets, in order. -/
def quoteAll (ss : List String) : String :=
  "[" ++ ", ".intercalate (ss.map quote) ++ "]"

end Lineup.Text
