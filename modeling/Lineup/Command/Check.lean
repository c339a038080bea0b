/-
  Lineup.Command.Check
  ────────────────────
  **CHECKING A DOCUMENT.**  Every session of a document is taken into an empty
  registry, and a line tells what came of it; the counters of the registry
  follow.  The check succeeds if every session is a channel.
-/
import Lineup.Command.Outcome
import Lineup.Registry.Basic
import Lineup.Document.Sessions

namespace Lineup.Command

open Text

/-- What came of one session. -/
structure CheckedSession where
  /-- Its position in the document, from 0. -/
  index : Nat
  /-- The channel, or why there is none. -/
  result : Except RegistryError Channel

namespace CheckedSession

/-- Whether a session is a channel. -/
def isChannel (s : CheckedSession) : Bool := s.result.isOk

/-- A channel in one line. -/
def channelText (c : Channel) : String :=
  c.key.text ++ " version " ++ decimal c.version.toNat ++ " (" ++ c.role.word ++ " / "
    ++ c.mode.word ++ ")" ++ (if c.active then "" else " inactive")

/-- What came of a session, in one line. -/
def text (s : CheckedSession) : String :=
  match s.result with
  | .ok c => "ok session " ++ decimal s.index ++ ": " ++ channelText c ++ "\n"
  | .error e => "FAIL session " ++ decimal s.index ++ ": " ++ e.message ++ "\n"

end CheckedSession

/-- What came of sessions that are taken into a registry one after the other.
They count from `index`. -/
def checkFrom (index : Nat) (r : Registry) : List String → List CheckedSession × Registry
  | [] => ([], r)
  | text :: texts =>
    match r.addText text with
    | (.ok h, r) =>
      let (rest, last) := checkFrom (index + 1) r texts
      (((r.getAny h).map fun c => (⟨index, .ok c⟩ : CheckedSession)).toList ++ rest, last)
    | (.error e, r) =>
      let (rest, last) := checkFrom (index + 1) r texts
      (⟨index, .error e⟩ :: rest, last)

/-- What came of the sessions of a document. -/
def checkDocument (config : RegistryConfig) (document : String) :
    List CheckedSession × Registry :=
  checkFrom 0 (.empty config) (Document.sessions document)

/-- The counters of a registry, in lines. -/
def countersText (c : Counters) : String :=
  "\nSessions seen:        " ++ decimal c.seen
    ++ "\nParsed:               " ++ decimal c.parsed
    ++ "\nSyntax errors:        " ++ decimal c.syntaxErrors
    ++ "\nValidated:            " ++ decimal c.validated
    ++ "\nValidation errors:    " ++ decimal c.validationErrors
    ++ "\nRegistry conflicts:   " ++ decimal c.conflicts ++ "\n"

/-- Checks a document. -/
def check (config : RegistryConfig) (document : String) : Outcome where
  success := (checkDocument config document).1.all (·.isChannel)
  out := String.join ((checkDocument config document).1.map (·.text))
    ++ countersText (checkDocument config document).2.counters
  complaints := []
  saved := none

end Lineup.Command
