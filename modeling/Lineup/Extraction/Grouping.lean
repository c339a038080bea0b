/-
  Lineup.Extraction.Grouping
  ──────────────────────────
  **GROUPS OF STREAMS.**  Tags tell the streams of a channel apart, and groups
  name streams by their tags: an `FID` group the repaired stream and the one
  that repairs it, an `FEC` group the primary stream and its error correction.
  The order of tags in a group does not matter.
-/
import Lineup.Channel.Error
import Lineup.Session.Basic

namespace Lineup

/-! ## §1. Tags. -/

/-- The first text of a list that was seen already, or that stands earlier in
the list. -/
def firstRepeated (seen : List String) : List String → Option String
  | [] => none
  | s :: ss => if s ∈ seen then some s else firstRepeated (s :: seen) ss

/-- The tags of the streams of a channel, in order. -/
def Channel.mids (c : Channel) : List String := c.endpoints.filterMap (·.2.mid)

/-- No two streams have one tag. -/
def Channel.checkMids (c : Channel) : Except ValidationError Unit :=
  match firstRepeated [] c.mids with
  | some mid => .error (.duplicateMid mid)
  | none => .ok ()

/-! ## §2. Groups. -/

/-- The only group of a meaning. -/
def Group.single (groups : List Group) (semantics : String) :
    Except ValidationError (Option Group) :=
  match groups.filter (·.semantics == semantics) with
  | [] => .ok none
  | [g] => .ok (some g)
  | _ => .error (.duplicateGroup semantics)

/-- The tags of some streams of a channel; all of them have to have one. -/
def Channel.midsOf (c : Channel) : List StreamKind → Except ValidationError (List String)
  | [] => .ok []
  | kind :: kinds =>
    match (c.endpoint? kind).bind (·.mid) with
    | none => .error (.missingMid kind)
    | some mid => do return mid :: (← c.midsOf kinds)

/-- A group names exactly some streams of a channel. -/
def Channel.checkMembers (c : Channel) (group : Group) (members : List StreamKind) :
    Except ValidationError Unit := do
  let expected ← c.midsOf members
  if group.mids.isPerm expected then .ok ()
  else .error (.groupMismatch group.semantics expected group.mids)

/-- The retransmission group stands where it has to, and names what it should. -/
def Channel.checkFid (c : Channel) (fid : Option Group) : Except ValidationError Unit :=
  match fid, c.rtx with
  | some _, none => .error .groupWithoutRetransmission
  | none, some _ =>
    if c.mode = .source ∨ c.mode = .lookaside then .error (.missingGroup "FID") else .ok ()
  | some group, some _ => c.checkMembers group (Channel.fidMembers c.mode)
  | none, none => .ok ()

/-- How many error-correction streams a channel has. -/
def Channel.fecCount (c : Channel) : Nat := c.fec1.toList.length + c.fec2.toList.length

/-- The error-correction group stands where it has to, and names what it
should. -/
def Channel.checkFec (c : Channel) (fec : Option Group) : Except ValidationError Unit :=
  match fec with
  | some group =>
    if c.fecCount = 0 then .error .groupWithoutFec else c.checkMembers group c.fecMembers
  | none => if c.fecCount = 0 then .ok () else .error (.missingGroup "FEC")

/-- The layout of so many error-correction streams. -/
def FecMode.ofCount : Nat → Option FecMode
  | 0 => none
  | 1 => some oneDimensional
  | _ => some twoDimensional

/-- Checks the tags and groups of a channel. -/
def Channel.checkGroups (c : Channel) (groups : List Group) : Except ValidationError Unit := do
  c.checkMids
  let fid ← Group.single groups "FID"
  let fec ← Group.single groups "FEC"
  c.checkFid fid
  c.checkFec fec

end Lineup
