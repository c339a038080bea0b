/-
  Lineup.Registry.Error
  ─────────────────────
  **WHY A CHANNEL IS NOT TAKEN IN.**  Either its text is no channel, or it is
  one that cannot stand beside those already there.
-/
import Lineup.Channel.Error
import Lineup.Registry.AddressMap

namespace Lineup

open Text

/-- Why a registry refuses. -/
inductive RegistryError where
  /-- The text is no channel. -/
  | extract (cause : ExtractError)
  /-- A channel has this key already. -/
  | alreadyExists (key : SessionKey)
  /-- There is no room for another channel. -/
  | capacityExceeded (max : Nat)
  /-- A pair of the channel cannot be claimed. -/
  | mapConflict (key : SessionKey) (cause : MapError)
  /-- The handle stands for no channel. -/
  | unknownHandle (handle : Handle)
  deriving DecidableEq, Repr

namespace RegistryError

/-- The wording of a refusal. -/
def message : RegistryError → String
  | extract cause => cause.message
  | alreadyExists key => "Channel " ++ key.text ++ " already exists"
  | capacityExceeded max => "Channel capacity of " ++ decimal max ++ " reached"
  | mapConflict key cause => "Channel " ++ key.text ++ ": " ++ cause.message
  | unknownHandle handle => "Unknown channel handle " ++ handle.text

/-- The wordings of what lies behind a refusal. -/
def causes : RegistryError → List String
  | extract cause => cause.causes
  | mapConflict _ cause => [cause.message]
  | _ => []

/-- The key of the channel that was refused, where the refusal names it. -/
def key? : RegistryError → Option SessionKey
  | extract (.validation key _) => key
  | alreadyExists key => some key
  | mapConflict key _ => some key
  | _ => none

end RegistryError

end Lineup
