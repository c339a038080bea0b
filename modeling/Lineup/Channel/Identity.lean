/-
  Lineup.Channel.Identity
  ───────────────────────
  **IDENTITIES.**  An identity is the key of a channel and the version of its
  announcement.  It is drawn from an origin, or read from a token

      o=<user> <number> <version> IN IP4 <address>

  whose `o=` may be left out.  Two identities match when their keys are equal,
  whatever their versions.
-/
import Lineup.Channel.Error
import Lineup.Session.Basic

namespace Lineup

open Text

/-- A key and a version. -/
structure SessionIdentity where
  /-- What names the channel. -/
  key : SessionKey
  /-- The version of its announcement. -/
  version : UInt64
  deriving DecidableEq, Repr

/-- The most digits a version may have. -/
def maxVersionDigits : Nat := 20

/-- A version: one to twenty digits that fit in 64 bits. -/
def readVersion (text : String) : Except ValidationError UInt64 :=
  if text.toList.length ≤ maxVersionDigits then
    match digits64? text.toList with
    | some version => .ok version
    | none => .error (.invalidVersion text)
  else .error (.invalidVersion text)

namespace SessionIdentity

/-- The identity that an origin gives. -/
def ofOrigin (o : Origin) : Except ValidationError SessionIdentity :=
  if o.netType ≠ "IN" ∨ o.addrType ≠ "IP4" then
    .error (.unsupportedAddressFamily o.netType o.addrType)
  else
    match Ipv4.ofString? o.address with
    | none => .error (.invalidAddress o.address)
    | some creator => do
      let version ← readVersion o.sessionVersion
      return ⟨⟨o.username, o.sessionId, creator⟩, version⟩

/-- A token without white space around it and without its leading `o=`. -/
def stripToken (cs : List Char) : List Char :=
  match trim cs with
  | 'o' :: '=' :: rest => rest
  | rest => rest

/-- The identity that a token names. -/
def ofToken (token : String) : Except ValidationError SessionIdentity :=
  match (words isWhite (stripToken token.toList)).map String.ofList with
  | [username, sessionId, sessionVersion, netType, addrType, address] =>
    ofOrigin ⟨username, sessionId, sessionVersion, netType, addrType, address⟩
  | _ => .error (.invalidIdentity token)

/-- The token that names an identity. -/
def text (i : SessionIdentity) : String :=
  "o=" ++ i.key.username ++ " " ++ i.key.sessionId ++ " " ++ decimal i.version.toNat
    ++ " IN IP4 " ++ toString i.key.creator

/-- Whether two identities name the same channel. -/
def sameChannel (i j : SessionIdentity) : Bool := i.key == j.key

end SessionIdentity

end Lineup
