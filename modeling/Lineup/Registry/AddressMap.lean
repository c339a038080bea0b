/-
  Lineup.Registry.AddressMap
  ──────────────────────────
  **WHO CLAIMS AN ADDRESS AND PORT.**  A map from (address, port) pairs to
  handles in which no pair can be claimed twice.  The pairs are spread over
  chains by their address alone, so all ports of one address share a chain.

  Claims for a whole list of pairs succeed together or not at all: when one
  pair cannot be claimed, those before it are given up again.
-/
import Lineup.Registry.Arena
import Lineup.Net.Ipv4

namespace Lineup

open Text

/-! ## §1. Refusals. -/

/-- Why a pair cannot be claimed. -/
inductive MapError where
  /-- The port is 0. -/
  | zeroPort (addr : Ipv4)
  /-- The pair is claimed already. -/
  | duplicate (addr : Ipv4) (port : UInt16)
  deriving DecidableEq, Repr

/-- The wording of a refusal. -/
def MapError.message : MapError → String
  | zeroPort addr => "Port 0 cannot be indexed (" ++ toString addr ++ ")"
  | duplicate addr port => toString addr ++ ":" ++ decimal port.toNat ++ " already in use"

/-! ## §2. Chains. -/

/-- A claimed pair. -/
structure Claim where
  /-- The address. -/
  addr : Ipv4
  /-- The port. -/
  port : UInt16
  /-- Who claims the pair. -/
  handle : Handle
  deriving DecidableEq, Repr

/-- Whether a claim is for a pair. -/
def Claim.isFor (c : Claim) (addr : Ipv4) (port : UInt16) : Bool :=
  c.addr == addr && c.port == port

/-- A list without the item at a position, whose place the last item takes. -/
def swapRemove (l : List α) (i : Nat) : List α :=
  match l.getLast? with
  | some last => (l.set i last).dropLast
  | none => []

/-! ## §3. Maps. -/

/-- The chains of claims. There is at least one chain. -/
structure AddressMap where
  /-- The chains. -/
  buckets : Array (List Claim)
  /-- How many pairs are claimed. -/
  size : Nat
  /-- There is at least one chain. -/
  buckets_pos : 0 < buckets.size
  deriving DecidableEq, Repr

namespace AddressMap

/-- The map without claims, with so many chains, but at least one. -/
def empty (buckets : Nat) : AddressMap where
  buckets := Array.replicate (max buckets 1) []
  size := 0
  buckets_pos := by rw [Array.size_replicate]; omega

/-- The number of chains. -/
def bucketCount (m : AddressMap) : Nat := m.buckets.size

/-- The chain that an address belongs to. -/
def bucketOf (m : AddressMap) (addr : Ipv4) : Nat := addr.value % m.bucketCount

theorem bucketOf_lt (m : AddressMap) (addr : Ipv4) : m.bucketOf addr < m.buckets.size :=
  Nat.mod_lt _ m.buckets_pos

/-- The claims in the chain of an address. -/
def chain (m : AddressMap) (addr : Ipv4) : List Claim :=
  have h := m.bucketOf_lt addr
  m.buckets[m.bucketOf addr]

/-- Puts another chain in the place of that of an address. -/
def withChain (m : AddressMap) (addr : Ipv4) (chain : List Claim) (size : Nat) :
    AddressMap where
  buckets := m.buckets.setIfInBounds (m.bucketOf addr) chain
  size := size
  buckets_pos := by simpa using m.buckets_pos

/-- Who claims a pair. -/
def lookup (m : AddressMap) (addr : Ipv4) (port : UInt16) : Option Handle :=
  ((m.chain addr).find? (·.isFor addr port)).map (·.handle)

/-- Whether a pair is claimed. -/
def contains (m : AddressMap) (addr : Ipv4) (port : UInt16) : Bool := (m.lookup addr port).isSome

/-- Whether no pair is claimed. -/
def isEmpty (m : AddressMap) : Bool := m.size == 0

/-- Claims a pair. -/
def insert (m : AddressMap) (addr : Ipv4) (port : UInt16) (h : Handle) :
    Except MapError AddressMap :=
  if port = 0 then .error (.zeroPort addr)
  else if (m.chain addr).any (·.isFor addr port) then .error (.duplicate addr port)
  else .ok (m.withChain addr (m.chain addr ++ [⟨addr, port, h⟩]) (m.size + 1))

/-- Gives up a pair. A pair that is not claimed is passed over. -/
def erase (m : AddressMap) (addr : Ipv4) (port : UInt16) : AddressMap :=
  match (m.chain addr).findIdx? (·.isFor addr port) with
  | some i => m.withChain addr (swapRemove (m.chain addr) i) (m.size - 1)
  | none => m

/-- Gives up all pairs of a list, in order. -/
def eraseAll (m : AddressMap) (keys : List (Ipv4 × UInt16)) : AddressMap :=
  keys.foldl (fun m key => m.erase key.1 key.2) m

/-- Claims all pairs of a list, in order; `done` are those claimed before. When
one cannot be claimed, the ones before it are given up again. -/
def insertFrom (h : Handle) (done : List (Ipv4 × UInt16)) (m : AddressMap) :
    List (Ipv4 × UInt16) → Except MapError Unit × AddressMap
  | [] => (.ok (), m)
  | key :: keys =>
    match m.insert key.1 key.2 h with
    | .ok m' => insertFrom h (done ++ [key]) m' keys
    -- an earlier pair of the same list counts as claimed as well
    | .error e => (.error e, m.eraseAll done)

/-- Claims all pairs of a list or none. -/
def insertAll (m : AddressMap) (keys : List (Ipv4 × UInt16)) (h : Handle) :
    Except MapError Unit × AddressMap :=
  insertFrom h [] m keys

/-- Gives up all pairs. -/
def clear (m : AddressMap) : AddressMap where
  buckets := m.buckets.map fun _ => []
  size := 0
  buckets_pos := by simpa using m.buckets_pos

end AddressMap

end Lineup
