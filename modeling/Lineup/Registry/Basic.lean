/-
  Lineup.Registry.Basic
  ─────────────────────
  **THE REGISTRY.**  All channels of one configuration, with what finds them:

      slots        — the handles in order; a deleted channel leaves its slot
                     vacant, and the next channel takes the first vacant one
      byKey        — the handle of a key
      primaryMap   — who claims a pair with its primary stream or with error
                     correction
      feedbackMap  — who claims a pair with its feedback target or with its
                     stream for repair

  A channel is taken in only if its key is new, there is room, and all of its
  pairs can be claimed.  A refused channel leaves slots, keys and claims as
  they were; the arena has then given out one handle that nobody knows.
-/
import Lineup.Registry.Error
import Lineup.Settings.Basic
import Lineup.Extraction.Channel
import Lineup.Time.Instant

namespace Lineup

/-! ## §1. Counters. -/

/-- What a registry has seen. -/
structure Counters where
  /-- Texts that were offered. -/
  seen : Nat
  /-- Texts that are sessions. -/
  parsed : Nat
  /-- Texts that are not. -/
  syntaxErrors : Nat
  /-- Sessions that are channels. -/
  validated : Nat
  /-- Sessions that are not. -/
  validationErrors : Nat
  /-- Channels that could not stand beside the others. -/
  conflicts : Nat
  /-- Channels older than the one they would replace. -/
  oldVersions : Nat
  /-- Channels that differ from the one they would replace, in the same
  version. -/
  conflictingVersions : Nat
  deriving DecidableEq, Repr

namespace Counters

/-- Nothing was seen. -/
def zero : Counters := ⟨0, 0, 0, 0, 0, 0, 0, 0⟩

/-- One more text was offered. -/
def offered (c : Counters) : Counters := { c with seen := c.seen + 1 }

/-- One more text is a session. -/
def wasParsed (c : Counters) : Counters := { c with parsed := c.parsed + 1 }

/-- One more text is no session. -/
def wasMalformed (c : Counters) : Counters := { c with syntaxErrors := c.syntaxErrors + 1 }

/-- One more session is a channel. -/
def wasValidated (c : Counters) : Counters := { c with validated := c.validated + 1 }

/-- One more session is no channel. -/
def wasInvalid (c : Counters) : Counters :=
  { c with validationErrors := c.validationErrors + 1 }

/-- One more channel could not stand beside the others. -/
def wasRefused (c : Counters) : Counters := { c with conflicts := c.conflicts + 1 }

end Counters

/-! ## §2. Registries. -/

/-- All channels of one configuration. -/
structure Registry where
  /-- What the channels carry. -/
  channelType : ChannelType
  /-- How many channels there may be. -/
  maxChannels : Nat
  /-- The channels. -/
  arena : Arena Channel
  /-- Their handles in order; a vacant slot holds none. -/
  slots : List (Option Handle)
  /-- Their handles by key. -/
  byKey : List (SessionKey × Handle)
  /-- The pairs of primary streams and error correction. -/
  primaryMap : AddressMap
  /-- The pairs of feedback targets and streams for repair. -/
  feedbackMap : AddressMap
  /-- What was seen. -/
  counters : Counters
  /-- When the configuration was last replaced. -/
  lastRefresh : Option Instant
  deriving DecidableEq, Repr

namespace Registry

/-- A registry without channels. -/
def empty (config : RegistryConfig) : Registry where
  channelType := config.channelType
  maxChannels := config.maxChannels
  arena := .empty
  slots := []
  byKey := []
  primaryMap := .empty config.mapBuckets
  feedbackMap := .empty config.mapBuckets
  counters := .zero
  lastRefresh := none

/-- What a registry was set up with. -/
def config (r : Registry) : RegistryConfig :=
  ⟨r.channelType, r.maxChannels, r.primaryMap.bucketCount⟩

/-- A registry without channels that is set up in the same way. -/
def emptyLike (r : Registry) : Registry := empty r.config

/-- How many channels there are. -/
def size (r : Registry) : Nat := r.arena.size

/-- Whether there is no channel. -/
def isEmpty (r : Registry) : Bool := r.size == 0

/-! ## §3. Finding channels. -/

/-- The channel of a handle, in service or not. -/
def getAny (r : Registry) (h : Handle) : Option Channel := r.arena.resolve h

/-- The channel of a handle, if it is in service. -/
def get (r : Registry) (h : Handle) : Option Channel := (r.getAny h).filter (·.active)

/-- The handle of a key. -/
def findByKey (r : Registry) (key : SessionKey) : Option Handle := r.byKey.lookup key

/-- The handle of an identity, whatever its version. -/
def findByIdentity (r : Registry) (identity : SessionIdentity) : Option Handle :=
  r.findByKey identity.key

/-- Who claims a pair with its primary stream or with error correction. -/
def lookupPrimary (r : Registry) (addr : Ipv4) (port : UInt16) : Option Handle :=
  r.primaryMap.lookup addr port

/-- Who claims a pair with its feedback target or with its stream for repair. -/
def lookupFeedback (r : Registry) (addr : Ipv4) (port : UInt16) : Option Handle :=
  r.feedbackMap.lookup addr port

/-- The handles in the order of their slots. -/
def handles (r : Registry) : List Handle := r.slots.filterMap id

/-- The channels in the order of their slots. -/
def channels (r : Registry) : List (Handle × Channel) :=
  r.handles.filterMap fun h => (r.getAny h).map fun c => (h, c)

/-! ## §4. Adding channels. -/

/-- The slots with a handle in the first vacant one, or behind the last. -/
def occupy (h : Handle) : List (Option Handle) → List (Option Handle)
  | [] => [some h]
  | none :: slots => some h :: slots
  | some k :: slots => some k :: occupy h slots

/-- A registry in which a handle is given up before it got a slot. -/
def withdraw (r : Registry) (h : Handle) : Registry :=
  match r.arena.release h with
  | some (_, arena) => { r with arena := arena }
  | none => r

/-- A registry in which a channel with all its claims gets a slot. -/
def place (r : Registry) (key : SessionKey) (h : Handle) : Registry :=
  { r with byKey := (key, h) :: r.byKey, slots := occupy h r.slots }

/-- Takes in a channel, unmarked. The claims for its feedback come last; when
one of them cannot be made, all claims are given up again. -/
def insert (r : Registry) (c : Channel) : Except RegistryError Handle × Registry :=
  if (r.findByKey c.key).isSome then (.error (.alreadyExists c.key), r)
  else if r.maxChannels ≤ r.size then (.error (.capacityExceeded r.maxChannels), r)
  else
    -- claims need a handle, so one is given out before it is clear that they can be made
    let (h, arena) := r.arena.allocate { c with used := false }
    match r.primaryMap.insertAll c.primaryKeys h with
    -- the failed list gave its own claims up again
    | (.error e, primaryMap) =>
      (.error (.mapConflict c.key e),
        { r with arena := arena, primaryMap := primaryMap }.withdraw h)
    | (.ok (), primaryMap) =>
      match r.feedbackMap.insertAll c.feedbackKeys h with
      -- the claims of the first list still stand and are given up here
      | (.error e, feedbackMap) =>
        (.error (.mapConflict c.key e),
          { r with
            arena := arena
            primaryMap := primaryMap.eraseAll c.primaryKeys
            feedbackMap := feedbackMap }.withdraw h)
      | (.ok (), feedbackMap) =>
        (.ok h,
          { r with
            arena := arena
            primaryMap := primaryMap
            feedbackMap := feedbackMap }.place c.key h)

/-- A registry whose counters have changed. -/
def count (r : Registry) (f : Counters → Counters) : Registry :=
  { r with counters := f r.counters }

/-- Takes in the channel of a session that was counted already. -/
def addCounted (r : Registry) (v : SessionView) : Except RegistryError Handle × Registry :=
  match extractChannel v r.channelType with
  | .error e => (.error (.extract e), r.count .wasInvalid)
  | .ok extraction =>
    match (r.count .wasValidated).insert extraction.channel with
    | (.ok h, r) => (.ok h, r)
    | (.error e, r) => (.error e, r.count .wasRefused)

/-- Takes in the channel of a session. -/
def add (r : Registry) (v : SessionView) : Except RegistryError Handle × Registry :=
  ((r.count .offered).count .wasParsed).addCounted v

/-- Takes in the channel of a text. -/
def addText (r : Registry) (text : String) : Except RegistryError Handle × Registry :=
  match Session.ofText text with
  | .error e => (.error (.extract (.syntaxError e)), (r.count .offered).count .wasMalformed)
  | .ok session => r.add session.view

/-! ## §5. Giving channels up. -/

/-- The slots with the first one of a handle made vacant. -/
def vacate (h : Handle) : List (Option Handle) → List (Option Handle)
  | [] => []
  | slot :: slots => if slot = some h then none :: slots else slot :: vacate h slots

/-- Gives up a channel and its slot. Its key and its pairs still lead to the
handle. -/
def detach (r : Registry) (h : Handle) : Except RegistryError (Channel × Registry) :=
  match r.arena.release h with
  | some (c, arena) => .ok (c, { r with arena := arena, slots := vacate h r.slots })
  | none => .error (.unknownHandle h)

/-- A registry without the key and the pairs of a channel. -/
def unindex (r : Registry) (c : Channel) : Registry :=
  { r with
    primaryMap := r.primaryMap.eraseAll c.primaryKeys
    feedbackMap := r.feedbackMap.eraseAll c.feedbackKeys
    byKey := r.byKey.filter fun entry => entry.1 != c.key }

/-- Gives up a channel with its slot, its key and its pairs. -/
def delete (r : Registry) (h : Handle) : Except RegistryError (Channel × Registry) :=
  (r.detach h).map fun (c, r) => (c, r.unindex c)

/-- Gives up a channel, if its handle stands for one. -/
def detachIfThere (r : Registry) (h : Handle) : Registry :=
  match r.detach h with
  | .ok (_, r) => r
  | .error _ => r

/-- Gives up all channels. The slots stay, all vacant, and no handle that was
given out before stands for a channel again. -/
def destroyAll (r : Registry) : Registry :=
  -- detaching leaves keys and claims behind, also those of channels detached before
  let r := r.handles.foldl detachIfThere r
  { r with primaryMap := r.primaryMap.clear, feedbackMap := r.feedbackMap.clear, byKey := [] }

/-- A registry in which the channel of a handle is marked. -/
def mark (r : Registry) (h : Handle) : Registry :=
  { r with arena := r.arena.modify h fun c => { c with used := true } }

end Registry

end Lineup
