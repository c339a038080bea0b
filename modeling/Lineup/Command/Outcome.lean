/-
  Lineup.Command.Outcome
  ──────────────────────
  **WHAT A COMMAND COMES TO.**  A command reads files through its surroundings
  and comes to an outcome: whether it succeeded, what it prints, and which file
  it writes.
-/

namespace Lineup.Command

/-- What a command finds around it. -/
structure Surroundings where
  /-- The text of a file, or the reason why there is none. -/
  read : String → Except String String
  /-- Where the settings are when nothing is said, if they are there. -/
  defaultConfig : Option String
  /-- The time, as text. -/
  time : String

/-- What a command comes to. -/
structure Outcome where
  /-- Whether it succeeded. -/
  success : Bool
  /-- What it prints. -/
  out : String
  /-- What it prints as complaints, line by line. -/
  complaints : List String
  /-- The file it writes, with its text. -/
  saved : Option (String × String)
  deriving DecidableEq, Repr

namespace Outcome

/-- The exit status. -/
def status (o : Outcome) : Nat := if o.success then 0 else 1

/-- A command that printed what was asked for. -/
def printed (out : String) : Outcome := ⟨true, out, [], none⟩

/-- The line of an error, from its wording and the wordings of what lies behind
it. -/
def errorLine (chain : List String) : String := "error: " ++ ": ".intercalate chain

/-- A command that failed. -/
def failed (chain : List String) : Outcome := ⟨false, "", [errorLine chain], none⟩

/-- The outcome when its file could not be written. -/
def withError (o : Outcome) (chain : List String) : Outcome :=
  { o with success := false, complaints := o.complaints ++ [errorLine chain], saved := none }

end Outcome

end Lineup.Command
