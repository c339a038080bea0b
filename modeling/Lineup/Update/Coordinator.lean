/-
  Lineup.Update.Coordinator
  ─────────────────────────
  **REPLACING A CONFIGURATION, ALL OR NOTHING.**  An update goes through these
  states:

      idle ──stage──▶ staging ──validate──▶ validating ──commit──▶ committed
                         │                       │
                         └──────▶ rejected ◀─────┘

  Staging takes all sessions of a document into a shadow registry.  Validating
  refuses the update if a session did not become a channel, or if a channel
  would move backwards against the live one on the same primary pair.  Commit
  makes the successor of the live registry from the channels of the shadow that
  are in service.  The live registry itself never changes.
-/
import Lineup.Update.Report
import Lineup.Document.Sessions

namespace Lineup

open Text

/-! ## §1. States and failures. -/

/-- The states of an update, by name. -/
inductive UpdateState where
  /-- Nothing was done. -/
  | idle
  /-- A document was taken into a shadow. -/
  | staging
  /-- The shadow was compared with the live registry. -/
  | validating
  /-- The successor was made. -/
  | committed
  /-- The update was refused. -/
  | rejected
  deriving DecidableEq, Repr

/-- The word for a state. -/
def UpdateState.word : UpdateState → String
  | idle => "idle"
  | staging => "staging"
  | validating => "validating"
  | committed => "committed"
  | rejected => "rejected"

/-- The steps of an update. -/
inductive UpdateStep where
  /-- Taking a document into a shadow. -/
  | stage
  /-- Comparing the shadow with the live registry. -/
  | validate
  /-- Making the successor. -/
  | commit
  deriving DecidableEq, Repr

/-- The word for a step. -/
def UpdateStep.word : UpdateStep → String
  | stage => "stage"
  | validate => "validate"
  | commit => "commit"

/-- Why a step was not done. -/
inductive UpdateError where
  /-- The step does not follow from this state. -/
  | invalidState (step : UpdateStep) (state : UpdateState)
  /-- The update was refused. -/
  | rejected (report : UpdateReport)
  /-- A channel was refused while the successor was made. -/
  | commit (cause : RegistryError)
  deriving DecidableEq, Repr

namespace UpdateError

/-- The wording of a failure. -/
def message : UpdateError → String
  | invalidState step state => "Cannot " ++ step.word ++ " while " ++ state.word
  | rejected report => "Update rejected: " ++ report.text
  | commit cause => "Commit failed: " ++ cause.message

/-- The wordings of what lies behind a failure. -/
def causes : UpdateError → List String
  | commit cause => cause.message :: cause.causes
  | _ => []

/-- The report on an update that was refused. -/
def report? : UpdateError → Option UpdateReport
  | rejected report => some report
  | _ => none

end UpdateError

/-! ## §2. Coordinators. -/

/-- How far an update has got. The shadow is there while it is needed. -/
inductive UpdatePhase where
  /-- Nothing was done. -/
  | idle
  /-- A document was taken into a shadow. -/
  | staging (shadow : Registry)
  /-- The shadow was compared with the live registry. -/
  | validating (shadow : Registry)
  /-- The successor was made. -/
  | committed
  /-- The update was refused. -/
  | rejected
  deriving DecidableEq, Repr

namespace UpdatePhase

/-- The name of a phase. -/
def state : UpdatePhase → UpdateState
  | idle => .idle
  | staging _ => .staging
  | validating _ => .validating
  | committed => .committed
  | rejected => .rejected

/-- The shadow of a phase. -/
def shadow? : UpdatePhase → Option Registry
  | staging shadow => some shadow
  | validating shadow => some shadow
  | _ => none

end UpdatePhase

/-- An update on its way. -/
structure Coordinator where
  /-- How far it has got. -/
  phase : UpdatePhase
  /-- What it has come to so far. -/
  report : UpdateReport
  deriving DecidableEq, Repr

namespace Coordinator

/-- An update of which nothing was done. -/
def fresh : Coordinator := ⟨.idle, .blank⟩

/-- An update that is given up, wherever it has got to. -/
def reset (_ : Coordinator) : Coordinator := fresh

/-- The name of the state of an update. -/
def state (c : Coordinator) : UpdateState := c.phase.state

/-- A step that does not follow from the state, and changes nothing. -/
def refuse (c : Coordinator) (step : UpdateStep) : Except UpdateError α × Coordinator :=
  (.error (.invalidState step c.state), c)

/-- An update that is refused with a report. -/
def reject (report : UpdateReport) : Except UpdateError α × Coordinator :=
  (.error (.rejected report), ⟨.rejected, report⟩)

/-! ## §3. Staging. -/

/-- A shadow that took in the sessions of a document, and the failures among
them. Sessions count from `index`. -/
def takeIn (index : Nat) (shadow : Registry) : List String → Registry × List SessionFailure
  | [] => (shadow, [])
  | text :: texts =>
    match shadow.addText text with
    | (.ok _, shadow) => takeIn (index + 1) shadow texts
    | (.error e, shadow) =>
      let (shadow, failures) := takeIn (index + 1) shadow texts
      (shadow, ⟨index, e⟩ :: failures)

/-- Takes a document into a shadow. -/
def stage (c : Coordinator) (live : Registry) (document : String) :
    Except UpdateError UpdateReport × Coordinator :=
  match c.phase with
  | .idle =>
    let (shadow, failures) := takeIn 0 live.emptyLike (Document.sessions document)
    let report := UpdateReport.ofStaging shadow.counters failures
    (.ok report, ⟨.staging shadow, report⟩)
  | _ => c.refuse .stage

/-! ## §4. Validating. -/

/-- The live channel that has the primary pair of a channel as its own. A live
channel that claims the pair in another way does not count. -/
def liveMatch (live : Registry) (candidate : Channel) : Option (Handle × Channel) := do
  let h ← live.lookupPrimary candidate.primaryDest.1 candidate.primaryDest.2
  let current ← live.getAny h
  -- the pair may lead to a channel that uses it for error correction or control
  if current.primaryDest = candidate.primaryDest then some (h, current) else none

/-- A comparison of a shadow with a live registry, on its way. -/
structure Comparison where
  /-- The shadow; channels that replace a live one are marked. -/
  shadow : Registry
  /-- What it has come to so far. -/
  report : UpdateReport
  /-- The live channels that are replaced. -/
  matched : List Handle
  deriving DecidableEq, Repr

/-- Compares the channel of one handle of the shadow. -/
def Comparison.step (live : Registry) (s : Comparison) (h : Handle) : Comparison :=
  match s.shadow.getAny h with
  | none => s
  | some candidate =>
    match liveMatch live candidate with
    | none => { s with report := s.report.note .added }
    | some (liveHandle, current) =>
      { shadow := s.shadow.mark h
        report := s.report.note (.between current candidate)
        matched := liveHandle :: s.matched }

/-- Compares a shadow with a live registry, slot by slot, and counts the live
channels that are left over. -/
def compare (live shadow : Registry) (report : UpdateReport) : Comparison :=
  let s := shadow.handles.foldl (Comparison.step live) ⟨shadow, report, []⟩
  -- a live channel whose key moved to another pair counts as removed, and as added there
  let removed := (live.handles.filter fun h => !s.matched.contains h).length
  let report := { s.report with removed := removed }
  { s with
    shadow := s.shadow.count fun counters =>
      { counters with oldVersions := report.stale, conflictingVersions := report.conflicting }
    report := report }

/-- Compares the shadow with the live registry. -/
def validate (c : Coordinator) (live : Registry) : Except UpdateError UpdateReport × Coordinator :=
  match c.phase with
  | .staging shadow =>
    -- a document with a bad session is not compared at all
    if c.report.failures.isEmpty then
      let s := compare live shadow c.report
      if s.report.stale = 0 ∧ s.report.conflicting = 0 then
        (.ok s.report, ⟨.validating s.shadow, s.report⟩)
      else reject s.report
    else reject c.report
  | _ => c.refuse .validate

/-! ## §5. Commit. -/

/-- A registry that took in channels, in order, or the first refusal. -/
def insertAll (r : Registry) : List Channel → Except RegistryError Registry
  | [] => .ok r
  | channel :: channels =>
    match r.insert channel with
    | (.ok _, r) => insertAll r channels
    | (.error e, _) => .error e

/-- The successor of a live registry: the channels of the shadow that are in
service, in the order of their slots. No handle of the live registry stands for
a channel of the successor. -/
def successor (live shadow : Registry) (now : Instant) : Except RegistryError Registry := do
  let active := (shadow.channels.map (·.2)).filter (·.active)
  let next ← insertAll live.destroyAll active
  return { next with counters := shadow.counters, lastRefresh := some now }

/-- Makes the successor of the live registry. -/
def commit (c : Coordinator) (live : Registry) (now : Instant) :
    Except UpdateError (Registry × UpdateReport) × Coordinator :=
  match c.phase with
  | .validating shadow =>
    match successor live shadow now with
    | .ok next => (.ok (next, c.report), ⟨.committed, c.report⟩)
    | .error e => (.error (.commit e), ⟨.rejected, c.report⟩)
  | _ => c.refuse .commit

/-- All three steps, from the start. -/
def run (live : Registry) (document : String) (now : Instant) :
    Except UpdateError (Registry × UpdateReport) :=
  match fresh.stage live document with
  | (.error e, _) => .error e
  | (.ok _, c) =>
    match c.validate live with
    | (.error e, _) => .error e
    | (.ok _, c) => (c.commit live now).1

end Coordinator

end Lineup
