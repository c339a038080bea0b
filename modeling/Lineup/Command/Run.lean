/-
  Lineup.Command.Run
  ──────────────────
  **RUNNING A COMMAND.**  The settings come first: from the file that is named,
  else from the default place if there is a file, else every setting has its
  default.  All commands but `check` load a configuration into an empty manager
  the way an update is applied, so a configuration that is refused there cannot
  be listed, searched or rendered either.
-/
import Lineup.Command.Arguments
import Lineup.Command.Check
import Lineup.Settings.Data
import Lineup.Toml.Document
import Lineup.Update.Manager
import Lineup.Channel.Data
import Lineup.Data.Json
import Lineup.Text.Table

namespace Lineup.Command

open Text

/-- A step of a command: a value, or the wording of its failure and the wordings
of what lies behind it. -/
abbrev Step := Except (List String)

/-! ## §1. Settings. -/

/-- The settings in a document. -/
def settingsOfText? (document : String) : Option Settings :=
  (Toml.read? document).bind (Settings.ofData? .configuration)

/-- The settings in a file. -/
def settingsOfFile (s : Surroundings) (path : String) : Step Settings :=
  match s.read path with
  | .error reason => .error ["Failed to read config file " ++ path, reason]
  | .ok document =>
    match settingsOfText? document with
    | some settings => .ok settings
    | none => .error ["Invalid config file " ++ path, "TOML parse error"]

/-- The settings of an invocation, before they are checked. -/
def chosenSettings (s : Surroundings) (i : Invocation) : Step Settings := do
  let settings ← match i.config.or s.defaultConfig with
    | some path => settingsOfFile s path
    | none => .ok .standard
  return match i.logLevel with
    | some level => { settings with logging := { settings.logging with level := level } }
    | none => settings

/-- The settings of an invocation. -/
def settingsOf (s : Surroundings) (i : Invocation) : Step Settings := do
  let settings ← chosenSettings s i
  match settings.validate with
  | .ok () => return settings
  | .error e => throw [e.message]

/-! ## §2. Loading. -/

/-- A time for updates whose time is never told. -/
def someTime : Instant := ⟨0, 0⟩

/-- The manager of the configuration in a file. -/
def loadManager (s : Surroundings) (config : RegistryConfig) (db : String) : Step Manager :=
  match (Manager.empty config).load db (s.read db) someTime with
  | (.ok _, m) => .ok m
  | (.error e, _) => .error (("Failed to load " ++ db) :: e.message :: e.causes)

/-! ## §3. Commands. -/

/-- The heading of the list of channels. -/
def listHeading : List String :=
  ["Handle", "Session", "Version", "Role", "Mode", "Primary", "Active"]

/-- A channel in the list of channels. -/
def listRow (h : Handle) (c : Channel) : List String :=
  [h.text, c.key.text, decimal c.version.toNat, c.role.word, c.mode.word, destText c.primaryDest,
    if c.active then "true" else "false"]

/-- The channels of a registry as a table. -/
def listText (r : Registry) : String :=
  tableText listHeading (r.channels.map fun (h, c) => listRow h c)
    ++ decimal r.size ++ " channels\n"

/-- The channels of a registry as JSON. -/
def listJson (r : Registry) : String :=
  (Data.ofList (·.toData) (r.channels.map (·.2))).pretty ++ "\n"

/-- A handle as a record. -/
def handleData (h : Handle) : Data :=
  .record [("index", .nat h.index.toNat), ("generation", .nat h.generation.toNat)]

/-- A channel with its handle as JSON. -/
def foundJson (h : Handle) (c : Channel) : String :=
  (Data.append (.record [("handle", handleData h)]) c.toData).pretty ++ "\n"

/-- The channel that is wanted. -/
def find (m : Manager) : Wanted → Step (Option (Handle × Channel))
  | .identity token =>
    match m.findByIdentity token with
    | .ok found => .ok found
    | .error e => .error [e.message]
  | .dest addr port => .ok (m.lookupPrimary addr port)
  | .nothing => .error ["Give either --identity or --addr and --port"]

/-- Prints a channel that was looked up. -/
def printFound : Option (Handle × Channel) → Outcome
  | some (h, c) => .printed (foundJson h c)
  | none => ⟨false, "", ["No matching channel"], none⟩

/-- A session that did not become a channel, in one line. -/
def failureText (f : SessionFailure) : String :=
  "  session " ++ decimal f.index ++ " (" ++ f.key?.elim "no identity" SessionKey.text ++ "): "
    ++ f.reason.message ++ "\n"

/-- Applies a document to a configuration. The result is written to `target`, if
there is one. -/
def update (s : Surroundings) (m : Manager) (document : String) (target : Option String) :
    Step Outcome :=
  match m.apply document someTime with
  | (.ok report, m) =>
    .ok ⟨true, "committed: " ++ report.text ++ "\n", [],
      target.map fun path => (path, m.render s.time)⟩
  | (.error (.rejected report), _) =>
    .ok ⟨false,
      "rejected: " ++ report.text ++ "\n" ++ String.join (report.failures.map failureText), [],
      none⟩
  | (.error e, _) => .error (e.message :: e.causes)

/-- The text of a file that a command works on. -/
def readFile (s : Surroundings) (path : String) : Step String :=
  match s.read path with
  | .ok document => .ok document
  | .error reason => .error ["Failed to read " ++ path, reason]

/-- Runs a command with its settings. -/
def runTask (s : Surroundings) (config : RegistryConfig) : Task → Step Outcome
  | .check file => do return check config (← readFile s file)
  | .list db json => do
    let m ← loadManager s config db
    return .printed (if json then listJson m.live else listText m.live)
  | .lookup db wanted => do
    let m ← loadManager s config db
    return printFound (← find m wanted)
  | .update live candidate write => do
    let m ← loadManager s config live
    update s m (← readFile s candidate) (if write then some live else none)
  | .render db => do
    let m ← loadManager s config db
    return .printed (m.render s.time)

/-- Runs an invocation. -/
def run (s : Surroundings) (i : Invocation) : Outcome :=
  let result : Step Outcome := do
    let settings ← settingsOf s i
    runTask s settings.registry i.task
  match result with
  | .ok outcome => outcome
  | .error chain => .failed chain

/-- The wordings for a file that could not be written. -/
def writeFailure (path reason : String) : List String :=
  let e : PersistError := .io path reason
  ("Failed to write " ++ path) :: e.message :: e.causes

/-! ## §4. The program. -/

/-- The name and version of the program. -/
def versionText : String := "chancfg 0.1.0\n"

/-- Help on the command line. -/
def helpText : String :=
  "Multicast channel configuration tool\n\n"
    ++ "Usage: chancfg [-c PATH] [-l LEVEL] COMMAND\n\n"
    ++ "Commands:\n"
    ++ "  check FILE                                     Validate every session of a document\n"
    ++ "  show DB [--json]                               List the channels of a configuration\n"
    ++ "  lookup DB [--identity TOKEN | --addr IP --port N]   Print one channel\n"
    ++ "  update LIVE CANDIDATE [--write]                Apply a document to a configuration\n"
    ++ "  render DB                                      Print the canonical form\n"

/-- The files that an invocation may read. -/
def Invocation.files (i : Invocation) (defaultConfig : Option String) : List String :=
  (i.config.or defaultConfig).toList ++ match i.task with
    | .check file => [file]
    | .list db _ => [db]
    | .lookup db _ => [db]
    | .update live candidate _ => [live, candidate]
    | .render db => [db]

end Lineup.Command
