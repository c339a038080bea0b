/-
  Lineup.Proofs.Update.Loose
  ──────────────────────────
  **STATE AND SHADOW SIDE BY SIDE.**  The phase of a `Coordinator` holds its shadow, so by its
  type alone there is one exactly while an update is staged or validated.  A coordinator may as
  well keep the name of its state in one field and the place for a shadow in another.  Then
  only the steps tie the two together:

      stage     puts a shadow down
      validate  takes it up, compares it, and puts it down again if nothing speaks against it
      commit    takes it up for good
      reject    clears the place

  and a step that finds the place empty would have to reject the update.

  Each step does the same to a coordinator with phases and to the loose one that it stands for
  (`stage_loosen`, `validate_loosen`, `commit_loosen`), in every state.  So what holds of the
  one after any calls holds of the other, and no step ever finds the place empty.
-/
import Lineup.Update.Coordinator

namespace Lineup

/-! ## §1. Loose coordinators. -/

/-- The state in which a step is done. -/
def UpdateStep.source : UpdateStep → UpdateState
  | stage => .idle
  | validate => .staging
  | commit => .validating

/-- An update on its way, in which nothing ties the shadow to the state. -/
structure LooseCoordinator where
  /-- How far it has got. -/
  state : UpdateState
  /-- The place for its shadow. -/
  shadow : Option Registry
  /-- What it has come to so far. -/
  report : UpdateReport
  deriving DecidableEq, Repr

namespace LooseCoordinator

variable {α : Type}

/-- An update of which nothing was done. -/
def fresh : LooseCoordinator := ⟨.idle, none, .blank⟩

/-- An update that is given up, wherever it has got to. -/
def reset (_ : LooseCoordinator) : LooseCoordinator := fresh

/-- A step goes on in its own state. In another one it fails and changes nothing. -/
def inState (c : LooseCoordinator) (step : UpdateStep)
    (next : Except UpdateError α × LooseCoordinator) : Except UpdateError α × LooseCoordinator :=
  if c.state = step.source then next else (.error (.invalidState step c.state), c)

/-- The update is refused with its report, and the place for a shadow is cleared. -/
def reject (c : LooseCoordinator) : Except UpdateError α × LooseCoordinator :=
  (.error (.rejected c.report), { c with state := .rejected, shadow := none })

/-- Takes a document into a shadow. -/
def stage (c : LooseCoordinator) (live : Registry) (document : String) :
    Except UpdateError UpdateReport × LooseCoordinator :=
  c.inState .stage <|
    let c := { c with state := .staging }
    let (shadow, failures) := Coordinator.takeIn 0 live.emptyLike (Document.sessions document)
    let c := { c with report := .ofStaging shadow.counters failures }
    (.ok c.report, { c with shadow := some shadow })

/-- Compares the shadow with the live registry. -/
def validate (c : LooseCoordinator) (live : Registry) :
    Except UpdateError UpdateReport × LooseCoordinator :=
  c.inState .validate <|
    let c := { c with state := .validating }
    if c.report.failures ≠ [] then c.reject
    else
      match c.shadow with
      | none => c.reject
      | some shadow =>
        let s := Coordinator.compare live shadow c.report
        -- while it is compared, the shadow is not in its place
        let c := { c with shadow := none, report := s.report }
        if 0 < s.report.stale ∨ 0 < s.report.conflicting then c.reject
        else (.ok c.report, { c with shadow := some s.shadow })

/-- Makes the successor of the live registry. -/
def commit (c : LooseCoordinator) (live : Registry) (now : Instant) :
    Except UpdateError (Registry × UpdateReport) × LooseCoordinator :=
  c.inState .commit <|
    match c.shadow with
    | none => c.reject
    | some shadow =>
      let c := { c with shadow := none }
      match Coordinator.successor live shadow now with
      | .ok next => (.ok (next, c.report), { c with state := .committed })
      | .error e => (.error (.commit e), { c with state := .rejected })

end LooseCoordinator

/-! ## §2. Step by step. -/

namespace Coordinator

/-- The loose coordinator that a coordinator stands for. -/
def loosen (c : Coordinator) : LooseCoordinator := ⟨c.state, c.phase.shadow?, c.report⟩

/-- **A loose coordinator stages alike.** -/
theorem stage_loosen (c : Coordinator) (live : Registry) (document : String) :
    c.loosen.stage live document
      = ((c.stage live document).1, (c.stage live document).2.loosen) := by
  obtain ⟨phase, report⟩ := c
  cases phase with
  | _ => rfl

/-- **It validates alike**: the shadow is in its place, and is put back exactly if the phase
keeps it. -/
theorem validate_loosen (c : Coordinator) (live : Registry) :
    c.loosen.validate live = ((c.validate live).1, (c.validate live).2.loosen) := by
  obtain ⟨phase, report⟩ := c
  cases phase with
  | staging shadow =>
    show (if report.failures ≠ [] then _ else _) = _
    unfold validate
    simp only [List.isEmpty_iff]
    by_cases hclean : report.failures = []
    · rw [if_neg fun hne => hne hclean, if_pos hclean]
      show (if 0 < (compare live shadow report).report.stale ∨
        0 < (compare live shadow report).report.conflicting then _ else _) = _
      by_cases hforward : (compare live shadow report).report.stale = 0 ∧
        (compare live shadow report).report.conflicting = 0
      · rw [if_pos hforward, if_neg (by omega)]
        rfl
      · rw [if_neg hforward, if_pos (by omega)]
        rfl
    · rw [if_pos hclean, if_neg hclean]
      rfl
  | _ => rfl

/-- **It commits alike**, and the shadow is not in its place then. -/
theorem commit_loosen (c : Coordinator) (live : Registry) (now : Instant) :
    c.loosen.commit live now = ((c.commit live now).1, (c.commit live now).2.loosen) := by
  obtain ⟨phase, report⟩ := c
  cases phase with
  | validating shadow =>
    show (match successor live shadow now with
      | .ok next => _
      | .error e => _) = _
    unfold commit
    dsimp only
    cases successor live shadow now with
    | ok next => rfl
    | error e => rfl
  | _ => rfl

end Coordinator

end Lineup
