/-
  Lineup.Update.Report
  ────────────────────
  **WHAT AN UPDATE CAME TO.**  A report counts the sessions of a document by
  how far they got, and the channels by how they differ from the live ones:

      added        — no live channel has the primary pair
      updated      — the live channel is older
      unchanged    — the live channel is the same
      stale        — the live channel is newer
      conflicting  — the live channel has the same version and other content
      removed      — live channels that no session replaces
-/
import Lineup.Registry.Basic

namespace Lineup

open Text

/-- A session of a document that did not become a channel. -/
structure SessionFailure where
  /-- Its position in the document, from 0. -/
  index : Nat
  /-- Why it did not become one. -/
  reason : RegistryError
  deriving DecidableEq, Repr

/-- The key of a session that did not become a channel, where it is known. -/
def SessionFailure.key? (f : SessionFailure) : Option SessionKey := f.reason.key?

/-- What an update came to. -/
structure UpdateReport where
  /-- Sessions in the document. -/
  sessions : Nat
  /-- Those that could be read. -/
  parsed : Nat
  /-- Those that could not. -/
  syntaxErrors : Nat
  /-- Those that are channels. -/
  validated : Nat
  /-- Those that were read but are no channels. -/
  validationErrors : Nat
  /-- Channels older than the live one. -/
  stale : Nat
  /-- Channels that differ from the live one in the same version. -/
  conflicting : Nat
  /-- Channels that no live one corresponds to. -/
  added : Nat
  /-- Channels newer than the live one. -/
  updated : Nat
  /-- Channels that are the live one. -/
  unchanged : Nat
  /-- Live channels that are not replaced. -/
  removed : Nat
  /-- The sessions that did not become channels, in order. -/
  failures : List SessionFailure
  deriving DecidableEq, Repr

namespace UpdateReport

/-- The report before anything is done. -/
def blank : UpdateReport := ⟨0, 0, 0, 0, 0, 0, 0, 0, 0, 0, 0, []⟩

/-- The report on sessions that were taken in, with what the registry counted. -/
def ofStaging (c : Counters) (failures : List SessionFailure) : UpdateReport :=
  { blank with
    sessions := c.seen
    parsed := c.parsed
    syntaxErrors := c.syntaxErrors
    validated := c.validated
    validationErrors := c.validationErrors
    failures := failures }

/-- How many sessions did not become channels. -/
def failed (r : UpdateReport) : Nat := r.failures.length

/-- Whether nothing speaks against the update. -/
def isClean (r : UpdateReport) : Bool :=
  r.failures.isEmpty && r.stale == 0 && r.conflicting == 0

/-- The report in one line. -/
def text (r : UpdateReport) : String :=
  decimal r.sessions ++ " sessions (" ++ decimal r.parsed ++ " parsed, "
    ++ decimal r.syntaxErrors ++ " syntax errors, " ++ decimal r.validated ++ " validated, "
    ++ decimal r.validationErrors ++ " validation errors), " ++ decimal r.failed ++ " failed, "
    ++ decimal r.stale ++ " stale, " ++ decimal r.conflicting ++ " conflicting; "
    ++ decimal r.added ++ " added, " ++ decimal r.updated ++ " updated, "
    ++ decimal r.unchanged ++ " unchanged, " ++ decimal r.removed ++ " removed"

end UpdateReport

/-! ## The comparison of a channel with a live one. -/

/-- How a channel differs from the live one that it would replace. -/
inductive Change where
  /-- There is no live one. -/
  | added
  /-- The live one is older. -/
  | updated
  /-- The live one is the same. -/
  | unchanged
  /-- The live one is newer. -/
  | stale
  /-- The live one has the same version and other content. -/
  | conflicting
  deriving DecidableEq, Repr

namespace Change

/-- How a channel differs from a live one: first by version, then by
fingerprint. -/
def between (live candidate : Channel) : Change :=
  if live.version > candidate.version then .stale
  else if live.version = candidate.version then
    if live.checksum = candidate.checksum then .unchanged else .conflicting
  else .updated

variable {live candidate : Channel}

theorem between_eq_stale_iff :
    between live candidate = .stale ↔ candidate.version < live.version := by
  unfold between
  split
  · next hlt => exact iff_of_true rfl hlt
  · next hlt =>
    refine iff_of_false ?_ hlt
    split
    · split <;> simp
    · simp

theorem between_eq_unchanged_iff :
    between live candidate = .unchanged ↔
      live.version = candidate.version ∧ live.checksum = candidate.checksum := by
  unfold between
  split
  · next hlt =>
    refine iff_of_false (by simp) fun h => ?_
    rw [h.1] at hlt
    exact UInt64.lt_irrefl _ hlt
  · split
    · next hversion => split <;> simp [*]
    · next hversion => simp [hversion]

theorem between_eq_conflicting_iff :
    between live candidate = .conflicting ↔
      live.version = candidate.version ∧ live.checksum ≠ candidate.checksum := by
  unfold between
  split
  · next hlt =>
    refine iff_of_false (by simp) fun h => ?_
    rw [h.1] at hlt
    exact UInt64.lt_irrefl _ hlt
  · split
    · next hversion => split <;> simp [*]
    · next hversion => simp [hversion]

end Change

/-- A report with one more channel of a kind. -/
def UpdateReport.note (r : UpdateReport) : Change → UpdateReport
  | .added => { r with added := r.added + 1 }
  | .updated => { r with updated := r.updated + 1 }
  | .unchanged => { r with unchanged := r.unchanged + 1 }
  | .stale => { r with stale := r.stale + 1 }
  | .conflicting => { r with conflicting := r.conflicting + 1 }

end Lineup
