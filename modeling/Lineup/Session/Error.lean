/-
  Lineup.Session.Error
  ────────────────────
  **WHY A TEXT IS NO SESSION DESCRIPTION.**  One constructor per cause; the
  wording is in `SyntaxError.message`.
-/
import Lineup.Text.Quoted
import Lineup.Text.Decimal

namespace Lineup

open Text

/-- The rules on the order of lines. -/
inductive OrderRule where
  /-- The version comes first and only there. -/
  | versionFirst
  /-- The origin follows the version. -/
  | originSecond
  /-- The session name follows the origin. -/
  | nameThird
  /-- Nothing else comes before these three. -/
  | headFirst
  /-- Timings come before the first media stream. -/
  | timingBeforeMedia
  deriving DecidableEq, Repr

/-- The wording of an order rule. -/
def OrderRule.message : OrderRule → String
  | .versionFirst => "v= must be the first line"
  | .originSecond => "o= must directly follow v="
  | .nameThird => "s= must directly follow o="
  | .headFirst => "v=, o= and s= must come first"
  | .timingBeforeMedia => "t= must come before m="

/-- Why a text is no session description. Lines are counted from 1. -/
inductive SyntaxError where
  /-- There is no line at all. -/
  | empty
  /-- A line does not read `key=value`, or its key is unknown. -/
  | malformedLine (line : Nat) (content : String)
  /-- The value of a line does not have the form its key asks for. -/
  | invalidField (key : Char) (line : Nat) (value : String)
  /-- A line that every session has is missing. -/
  | missingField (key : Char)
  /-- A line stands where the order of lines forbids it. -/
  | outOfOrder (key : Char) (line : Nat) (rule : OrderRule)
  /-- The version is not `0`. -/
  | unsupportedVersion (version : String)
  deriving DecidableEq, Repr

namespace SyntaxError

/-- The line a syntax error is about, when it is about one. -/
def line? : SyntaxError → Option Nat
  | malformedLine line _ => some line
  | invalidField _ line _ => some line
  | outOfOrder _ line _ => some line
  | empty => none
  | missingField _ => none
  | unsupportedVersion _ => none

/-- The wording of a syntax error. -/
def message : SyntaxError → String
  | empty => "Empty session description"
  | malformedLine line content =>
    "Malformed SDP line " ++ decimal line ++ ": " ++ quote content
  | invalidField key line value =>
    "Invalid " ++ key.toString ++ "= line " ++ decimal line ++ ": " ++ quote value
  | missingField key => "Missing mandatory " ++ key.toString ++ "= line"
  | outOfOrder key line rule =>
    key.toString ++ "= line " ++ decimal line ++ " out of order: " ++ rule.message
  | unsupportedVersion version => "Unsupported SDP protocol version: " ++ version

end SyntaxError

end Lineup
