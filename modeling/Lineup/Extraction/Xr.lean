/-
  Lineup.Extraction.Xr
  ────────────────────
  **READING EXTENDED REPORTS.**  The settings of a stream come from all its
  `a=rtcp-xr` attributes, word by word.  A block that is unknown, or not
  available on the stream, is noted and left out; of two words for one block
  the later counts.
-/
import Lineup.Channel.Xr
import Lineup.Extraction.Check
import Lineup.Session.Basic

namespace Lineup

open Text

/-! ## §1. The arguments of blocks. -/

/-- The size of a run-length block: none is no limit, and the header counts in
a limit. -/
def RunLength.read (stream : StreamKind) (token : String) : Option (List Char) → Check RunLength
  | none => pure .unlimited
  | some arg => do
    let bytes ← Check.need (.invalidAttribute stream "rtcp-xr" token) (uint16? arg)
    -- a limit that the header alone exceeds leaves room for nothing
    if bytes.toNat < xrHeaderBytes then
      Check.note (.runLengthClamped stream token)
      pure (.maxBytes 0)
    else pure (.maxBytes (UInt16.ofNat (bytes.toNat - xrHeaderBytes)))

/-- Adds the flag of a summary. -/
def StatSummary.addFlag (stream : StreamKind) (s : StatSummary) (flag : List Char) :
    Check StatSummary :=
  if flag = "loss".toList then pure { s with loss := true }
  else if flag = "dup".toList then pure { s with duplicates := true }
  else if flag = "jitt".toList then pure { s with jitter := true }
  else do
    Check.note (.statFlagMasked stream (.ofList flag))
    pure s

/-- The summary that a list of flags asks for. -/
def StatSummary.read (stream : StreamKind) (arg : Option (List Char)) : Check StatSummary :=
  (((pieces (· == ',') (arg.getD [])).map trim).filter (!·.isEmpty)).foldlM
    (StatSummary.addFlag stream) .empty

/-! ## §2. Settings. -/

namespace XrSettings

/-- Adds the block that a word asks for. -/
def addToken (stream : StreamKind) (x : XrSettings) (token : List Char) : Check XrSettings :=
  let (name, arg) : List Char × Option (List Char) :=
    match cut (· == '=') token with
    | some (name, arg) => (name, some arg)
    | none => (token, none)
  match XrBlock.ofWord? (.ofList name) with
  | none => do
    Check.note (.xrTokenIgnored stream (.ofList token))
    pure x
  | some block =>
    if block.availableOn stream then
      match block with
      | .lossRle => do
        let limit ← RunLength.read stream (.ofList token) arg
        pure { x with lossRle := some limit }
      | .postRepairLossRle => do
        let limit ← RunLength.read stream (.ofList token) arg
        pure { x with postRepairLossRle := some limit }
      | .statSummary => do
        let summary ← StatSummary.read stream arg
        pure { x with statSummary := summary }
      | .multicastAcq => pure { x with multicastAcq := true }
      | .diagnosticCounters => pure { x with diagnosticCounters := true }
    else do
      Check.note (.xrTokenMasked stream (.ofList token))
      pure x

/-- The words of all `a=rtcp-xr` attributes of a section, in order. -/
def tokensOf (s : Section) : List (List Char) :=
  (s.attributeValues "rtcp-xr").flatMap fun v => words isWhite v.toList

/-- Whether reports may be shortened, which only the primary stream can say. -/
def readRsize (stream : StreamKind) (s : Section) (x : XrSettings) : Check XrSettings :=
  if s.hasAttribute "rtcp-rsize" then
    if stream = .primary then pure { x with rtcpRsize := true }
    else do
      Check.note (.xrTokenMasked stream "rtcp-rsize")
      pure x
  else pure x

/-- The settings that a section asks for. -/
def read (stream : StreamKind) (s : Section) : Check XrSettings := do
  let x ← (tokensOf s).foldlM (addToken stream) .empty
  readRsize stream s x

end XrSettings

end Lineup
