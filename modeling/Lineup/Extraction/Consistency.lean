/-
  Lineup.Extraction.Consistency
  ─────────────────────────────
  **DO THE STREAMS AGREE.**  The last checks look at the streams of a channel
  side by side: no stream uses one port twice, retransmission and feedback go
  together, streams to one address keep their ports apart, and an access node
  in service knows a bandwidth.
-/
import Lineup.Channel.Error

namespace Lineup

namespace Channel

/-- A stream uses two ports. -/
def checkPorts : StreamKind × Endpoint → Except ValidationError Unit
  | (kind, e) => if e.rtcpPort = some e.rtpPort then .error (.rtpRtcpPortEqual kind) else .ok ()

/-- The stream for repair shares its control port with no other use, and
feedback goes to its address. -/
def checkRepair (c : Channel) : Except ValidationError Unit :=
  match c.rtx with
  | none => .ok ()
  | some rtx => do
    let primaryRtcp := c.primary.endpoint.rtcpPort
    -- the two control ports have to differ, wherever feedback is sent
    if let (some port, some primaryPort) := (rtx.endpoint.rtcpPort, primaryRtcp) then
      if port = primaryPort then .error (.portConflict .retransmission .primary port)
    if let some fbt := c.fbtAddr then
      if fbt ≠ rtx.endpoint.addr then
        .error (.feedbackTargetMismatch fbt rtx.endpoint.addr)
      -- feedback and repair packets would arrive on one port
      if primaryRtcp = some rtx.endpoint.rtpPort then
        .error (.portConflict .retransmission .primary rtx.endpoint.rtpPort)

/-- The first port of one stream that another stream to the same address uses
too. -/
def sharedPort? (a b : Endpoint) : Option UInt16 :=
  if a.addr = b.addr then a.ports.find? (· ∈ b.ports) else none

/-- Two streams keep their ports apart. -/
def checkPair (first second : StreamKind × Endpoint) : Except ValidationError Unit :=
  match sharedPort? first.2 second.2 with
  | some port => .error (.portConflict first.1 second.1 port)
  | none => .ok ()

/-- All streams of a list keep their ports apart. -/
def checkApart : List (StreamKind × Endpoint) → Except ValidationError Unit
  | [] => .ok ()
  | e :: es => do
    es.forM (checkPair e)
    checkApart es

/-- The streams that are distributed: all but the one for repair. -/
def distributed (c : Channel) : List (StreamKind × Endpoint) :=
  c.endpoints.filter (·.1 ≠ .retransmission)

/-- An access node in service knows a bandwidth. -/
def checkBandwidth (c : Channel) : Except ValidationError Unit :=
  if c.role = .videoAccessNode ∧ c.active ∧ c.primary.bitRate.isNone
      ∧ !c.primary.endpoint.rtcpBw.isSignalled then
    .error .missingBandwidth
  else .ok ()

/-- Checks the streams of a channel against each other. -/
def checkConsistency (c : Channel) : Except ValidationError Unit := do
  c.endpoints.forM checkPorts
  c.checkRepair
  checkApart c.distributed
  c.checkBandwidth

end Channel

end Lineup
