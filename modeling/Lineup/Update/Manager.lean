/-
  Lineup.Update.Manager
  ─────────────────────
  **THE LIVE CONFIGURATION.**  A manager holds the live registry and replaces it
  as a whole: an update that is refused leaves the registry as it was, and one
  that is committed puts its successor in its place.  The report on the last
  update is kept.
-/
import Lineup.Update.Coordinator
import Lineup.Document.Rendered

namespace Lineup

/-! ## §1. Failures with files. -/

/-- Why a configuration was not read from a file or written to one. -/
inductive PersistError where
  /-- The file could not be read or written. -/
  | io (path reason : String)
  /-- The document in the file was not taken. -/
  | update (cause : UpdateError)
  deriving DecidableEq, Repr

namespace PersistError

/-- The wording of a failure. -/
def message : PersistError → String
  | io path reason => "I/O error on " ++ path ++ ": " ++ reason
  | update cause => cause.message

/-- The wordings of what lies behind a failure. -/
def causes : PersistError → List String
  | io _ reason => [reason]
  | update cause => cause.causes

end PersistError

/-! ## §2. Managers. -/

/-- The holder of the live configuration. -/
structure Manager where
  /-- What its registries are set up with. -/
  config : RegistryConfig
  /-- The live registry. -/
  live : Registry
  /-- The report on the last update. -/
  lastReport : Option UpdateReport
  deriving DecidableEq, Repr

namespace Manager

/-- A manager without channels. -/
def empty (config : RegistryConfig) : Manager := ⟨config, .empty config, none⟩

/-- Replaces the live configuration with a document. -/
def apply (m : Manager) (document : String) (now : Instant) :
    Except UpdateError UpdateReport × Manager :=
  match Coordinator.run m.live document now with
  | .ok (next, report) => (.ok report, { m with live := next, lastReport := some report })
  | .error e => (.error e, { m with lastReport := e.report?.or m.lastReport })

/-- Replaces the live configuration with what was read from a file: its text,
or the reason why there is none. -/
def load (m : Manager) (path : String) (content : Except String String) (now : Instant) :
    Except PersistError UpdateReport × Manager :=
  match content with
  | .error reason => (.error (.io path reason), m)
  | .ok document =>
    match m.apply document now with
    | (.ok report, m) => (.ok report, m)
    | (.error e, m) => (.error (.update e), m)

/-- The live configuration as a document; the time is given as text. -/
def render (m : Manager) (generated : String) : String := Document.ofRegistry m.live generated

/-- The channel of a handle, if it is in service. -/
def channel (m : Manager) (h : Handle) : Option Channel := m.live.get h

/-- The channel of a handle with the handle, if it is in service. -/
def found (m : Manager) (h : Handle) : Option (Handle × Channel) :=
  (m.channel h).map fun c => (h, c)

/-- The channel that a token names, if it is in service. -/
def findByIdentity (m : Manager) (token : String) :
    Except ValidationError (Option (Handle × Channel)) :=
  (SessionIdentity.ofToken token).map fun identity =>
    (m.live.findByIdentity identity).bind m.found

/-- The channel that claims a pair with its primary stream or with error
correction, if it is in service. -/
def lookupPrimary (m : Manager) (addr : Ipv4) (port : UInt16) : Option (Handle × Channel) :=
  (m.live.lookupPrimary addr port).bind m.found

end Manager

end Lineup
