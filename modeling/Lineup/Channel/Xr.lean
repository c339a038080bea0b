/-
  Lineup.Channel.Xr
  ─────────────────
  **EXTENDED REPORTS BY NAME.**  The blocks an `a=rtcp-xr` attribute can ask
  for, and how the settings of a stream are written as such an attribute.
-/
import Lineup.Channel.Basic

namespace Lineup

open Text

/-! ## §1. Blocks. -/

/-- A block of an extended report. -/
inductive XrBlock where
  /-- Runs of lost packets. -/
  | lossRle
  /-- Runs of packets that stayed lost after repair. -/
  | postRepairLossRle
  /-- A summary of statistics. -/
  | statSummary
  /-- How the multicast group was joined. -/
  | multicastAcq
  /-- Counters for diagnosis. -/
  | diagnosticCounters
  deriving DecidableEq, Repr

namespace XrBlock

/-- The word that asks for a block. -/
def word : XrBlock → String
  | lossRle => "pkt-loss-rle"
  | postRepairLossRle => "post-repair-loss-rle"
  | statSummary => "stat-summary"
  | multicastAcq => "multicast-acq"
  | diagnosticCounters => "vqe-diagnostic-counters"

/-- The block that a word asks for. -/
def ofWord? (word : String) : Option XrBlock :=
  [lossRle, postRepairLossRle, statSummary, multicastAcq, diagnosticCounters].find?
    (·.word == word)

/-- Whether a stream can report a block: the primary stream all of them, any
other only the runs of lost packets and the summary of statistics. -/
def availableOn (stream : StreamKind) : XrBlock → Bool
  | lossRle => true
  | statSummary => true
  | _ => stream == .primary

end XrBlock

/-! ## §2. Written form. -/

/-- The bytes of a report header, which count in the size of a run-length
report. -/
def xrHeaderBytes : Nat := 12

/-- A run-length block with its size. -/
def RunLength.toToken (block : XrBlock) : RunLength → String
  | unlimited => block.word
  | maxBytes bytes => block.word ++ "=" ++ decimal (bytes.toNat + xrHeaderBytes)

/-- The flags of a summary, in order. -/
def StatSummary.flags (s : StatSummary) : List String :=
  (if s.loss then ["loss"] else []) ++ (if s.duplicates then ["dup"] else [])
    ++ if s.jitter then ["jitt"] else []

namespace XrSettings

/-- The blocks that settings ask for, in order. -/
def tokens (x : XrSettings) : List String :=
  (x.lossRle.map (·.toToken .lossRle)).toList
    ++ (x.postRepairLossRle.map (·.toToken .postRepairLossRle)).toList
    ++ (if x.statSummary.any then
          [XrBlock.statSummary.word ++ "=" ++ ",".intercalate x.statSummary.flags]
        else [])
    ++ (if x.multicastAcq then [XrBlock.multicastAcq.word] else [])
    ++ if x.diagnosticCounters then [XrBlock.diagnosticCounters.word] else []

/-- The value of the attribute that asks for the blocks; none if there are
none. -/
def toValue? (x : XrSettings) : Option String :=
  if x.tokens.isEmpty then none else some (" ".intercalate x.tokens)

end XrSettings

end Lineup
