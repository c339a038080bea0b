/-
  Lineup.Main
  ───────────
  **THE PROGRAM.**  Reads the files a command may need, runs the command, and
  prints and writes what it came to.
-/
import Lineup.Command.Run
import Std.Time.DateTime.Timestamp

namespace Lineup

open Command

/-- The wording of a failure of the operating system. -/
def osReason : IO.Error → String
  | .noFileOrDirectory .. => "No such file or directory (os error 2)"
  | .permissionDenied .. => "Permission denied (os error 13)"
  | .inappropriateType .. => "Is a directory (os error 21)"
  | e => toString e

/-- The text of a file, or the reason why there is none. -/
def readText (path : String) : IO (Except String String) := do
  try
    let bytes ← IO.FS.readBinFile path
    return match String.fromUTF8? bytes with
      | some text => .ok text
      | none => .error "stream did not contain valid UTF-8"
  catch e => return .error (osReason e)

/-- The directory of the user's settings. -/
def configDir : IO (Option String) := do
  match ← IO.getEnv "XDG_CONFIG_HOME", ← IO.getEnv "HOME" with
  | some dir, home =>
    return if dir.startsWith "/" then some dir else home.map (· ++ "/.config")
  | none, home => return home.map (· ++ "/.config")

/-- Where the settings are when nothing is said, if there is a file. -/
def defaultConfig : IO (Option String) := do
  match ← configDir with
  | none => return none
  | some dir =>
    let path := dir ++ "/chancfg/config.toml"
    match ← readText path with
    | .error "No such file or directory (os error 2)" => return none
    | _ => return some path

/-- The current time. -/
def currentTime : IO Instant := do
  let nanos := (← Std.Time.Timestamp.now).toNanosecondsSinceUnixEpoch.toInt
  return ⟨Int.fdiv nanos 1000000000, (Int.fmod nanos 1000000000).toNat⟩

/-- Prints an outcome, and gives the exit status. -/
def report (outcome : Outcome) : IO UInt32 := do
  IO.print outcome.out
  for line in outcome.complaints do
    IO.eprintln line
  return UInt32.ofNat outcome.status

/-- Writes the file of an outcome, and prints the outcome. -/
def settle (outcome : Outcome) : IO UInt32 := do
  match outcome.saved with
  | none => report outcome
  | some (path, text) =>
    try
      IO.FS.writeFile path text
      report outcome
    catch e => report (outcome.withError (writeFailure path (osReason e)))

/-- Runs a command. -/
def perform (invocation : Invocation) : IO UInt32 := do
  let named ← IO.getEnv "CHANCFG_CONFIG"
  let invocation := { invocation with config := invocation.config.or named }
  let default ← defaultConfig
  let texts ← (invocation.files default).mapM fun path => do return (path, ← readText path)
  let surroundings : Surroundings := {
    read := fun path => (texts.lookup path).getD (.error "not read")
    defaultConfig := default
    time := (← currentTime).rfc3339 }
  settle (run surroundings invocation)

end Lineup

/-- Runs the program. -/
def main (args : List String) : IO UInt32 := do
  match Lineup.Command.Request.ofArguments args with
  | .run invocation => Lineup.perform invocation
  | .help =>
    IO.print Lineup.Command.helpText
    return 0
  | .version =>
    IO.print Lineup.Command.versionText
    return 0
  | .wrong =>
    IO.eprint ("error: wrong arguments\n\n" ++ Lineup.Command.helpText)
    return 2
