/-
  Lineup.Extraction.Role
  ──────────────────────
  **ROLE AND MODE.**  What the primary stream, its copy and the stream for
  repair do tells which place in the distribution tree a channel is meant for
  and how it repairs losses.  Six combinations make sense; all others are
  refused.
-/
import Lineup.Channel.Error

namespace Lineup

/-- The role and mode that go with the activities of the primary stream, its
copy and the stream for repair. -/
def Activity.roleMode? : Activity → Activity → Activity → Option (Role × Mode)
  | .sending, .off, .off => some (.distributionSource, .distribution)
  | .receiving, .sending, .sending => some (.videoAccessNode, .source)
  | .receiving, .off, .sending => some (.videoAccessNode, .lookaside)
  | .receiving, .receiving, .receiving => some (.setTop, .source)
  | .receiving, .off, .receiving => some (.setTop, .lookaside)
  | .receiving, .off, .off => some (.setTop, .receiveOnly)
  | _, _, _ => none

/-- The role and mode that go with the directions of the primary stream, its
copy and the stream for repair. -/
def resolveRole (primary : Direction) (resourced retransmission : Option Direction) :
    Except ValidationError (Role × Mode) :=
  let p := Activity.ofDirection primary
  let r := Activity.ofStream? resourced
  let x := Activity.ofStream? retransmission
  match Activity.roleMode? p r x with
  | some roleMode => .ok roleMode
  | none => .error (.unsupportedDirections p r x)

end Lineup
