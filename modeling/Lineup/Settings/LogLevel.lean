/-
  Lineup.Settings.LogLevel
  ────────────────────────
  **LEVELS OF LOG OUTPUT.**  Five levels, from errors alone to every detail.  A
  level is named by its word in upper or lower case, or by its number from 1,
  for errors, to 5.
-/
import Lineup.Text.Decimal

namespace Lineup

open Text

/-- How much is logged. -/
inductive LogLevel where
  /-- Failures. -/
  | error
  /-- Also what may become one. -/
  | warn
  /-- Also what is done. -/
  | info
  /-- Also how it is done. -/
  | debug
  /-- Everything. -/
  | trace
  deriving DecidableEq, Repr

namespace LogLevel

/-- The word for a level. -/
def word : LogLevel → String
  | error => "ERROR"
  | warn => "WARN"
  | info => "INFO"
  | debug => "DEBUG"
  | trace => "TRACE"

/-- The levels, the quietest first. -/
def all : List LogLevel := [error, warn, info, debug, trace]

/-- The level with a number, counted from 1. -/
def ofNumber? (n : Nat) : Option LogLevel := if n = 0 then none else all[n - 1]?

/-- The level with a word. -/
def ofWord? (cs : List Char) : Option LogLevel :=
  all.find? fun level => level.word.toList == cs.map Char.toUpper

/-- The level that a text names. -/
def ofText? (s : String) : Option LogLevel :=
  ((number? UInt64.size s.toList).bind ofNumber?).or (ofWord? s.toList)

theorem ofText?_word (level : LogLevel) : ofText? level.word = some level := by
  cases level <;> decide +kernel

end LogLevel

end Lineup
