/-
  Lineup.Document.Sessions
  ────────────────────────
  **DOCUMENTS OF MANY SESSIONS.**  A document holds sessions one after the
  other:

      a line that starts with `--`  ends one session and starts the next
      a line that starts with `#`   is a comment
      any other line                belongs to its session

  Lines end at LF or CRLF in a document and at LF in the texts taken from it.
  A session with nothing but white space is passed over.
-/
import Lineup.Text.Split
import Lineup.Text.White

namespace Lineup.Document

open Text

/-- Whether a line stands between two sessions. -/
def isBoundary : List Char → Bool
  | '-' :: '-' :: _ => true
  | _ => false

/-- Whether a line is a comment. -/
def isComment : List Char → Bool
  | '#' :: _ => true
  | _ => false

/-- Lines as a text in which each of them ends at LF. -/
def unlines (ls : List (List Char)) : List Char := ls.flatMap (· ++ ['\n'])

/-- The text of a session from its lines. -/
def sessionText (ls : List (List Char)) : List Char := unlines (ls.filter (!isComment ·))

/-- The sessions of a document as texts of characters. -/
def sessionTexts (document : List Char) : List (List Char) :=
  ((pieces isBoundary (lines document)).map sessionText).filter fun cs => !(trim cs).isEmpty

/-- The sessions of a document. -/
def sessions (document : String) : List String :=
  (sessionTexts document.toList).map String.ofList

end Lineup.Document
