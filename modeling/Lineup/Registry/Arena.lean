/-
  Lineup.Registry.Arena
  ─────────────────────
  **HANDLES THAT NEVER COME BACK.**  An arena keeps values and hands out a
  handle for each.  A handle names a place and a generation; when a place is
  given to a new value its generation moves on, so a handle that was kept past
  the release of its value resolves to nothing.

  Places that were released are given out again, the last released first.
-/
import Lineup.Text.Decimal

namespace Lineup

open Text

/-! ## §1. Handles. -/

/-- A handle of an arena. -/
structure Handle where
  /-- The place. -/
  index : UInt32
  /-- Which value of that place is meant. -/
  generation : UInt32
  deriving DecidableEq, Repr

namespace Handle

/-- The text of a handle. -/
def text (h : Handle) : String := decimal h.index.toNat ++ "v" ++ decimal h.generation.toNat

/-- The order of handles: by place, then by generation. -/
def compare (h k : Handle) : Ordering :=
  (compareOfLessAndEq h.index k.index).then (compareOfLessAndEq h.generation k.generation)

end Handle

/-! ## §2. Arenas. -/

/-- A place of an arena. -/
structure Place (α : Type) where
  /-- How often the place was given out again. -/
  generation : UInt32
  /-- The value, unless the place is free. -/
  value : Option α
  deriving DecidableEq, Repr

/-- Values that are found by handles. -/
structure Arena (α : Type) where
  /-- All places ever given out. -/
  places : Array (Place α)
  /-- The free places, the last released first. -/
  free : List UInt32
  /-- How many values there are. -/
  size : Nat
  deriving DecidableEq, Repr

namespace Arena

/-- The arena without places. -/
def empty : Arena α := ⟨#[], [], 0⟩

/-- Whether there is no value. -/
def isEmpty (a : Arena α) : Bool := a.size == 0

/-- The generation a place has now; 0 for a place never given out. -/
def generationAt (a : Arena α) (index : UInt32) : UInt32 :=
  (a.places[index.toNat]?.map (·.generation)).getD 0

/-- Keeps a value, and gives its handle. -/
def allocate (a : Arena α) (value : α) : Handle × Arena α :=
  match a.free with
  | index :: free =>
    -- the place was used before: an older handle for it must not fit
    let generation := a.generationAt index + 1
    (⟨index, generation⟩,
      ⟨a.places.setIfInBounds index.toNat ⟨generation, some value⟩, free, a.size + 1⟩)
  | [] =>
    (⟨UInt32.ofNat a.places.size, 0⟩, ⟨a.places.push ⟨0, some value⟩, [], a.size + 1⟩)

/-- The value a handle stands for. -/
def resolve (a : Arena α) (h : Handle) : Option α :=
  match a.places[h.index.toNat]? with
  | some place => if place.generation = h.generation then place.value else none
  | none => none

/-- Changes the value a handle stands for. A handle that stands for nothing
changes nothing. -/
def modify (a : Arena α) (h : Handle) (f : α → α) : Arena α :=
  match a.resolve h with
  | some value =>
    { a with places := a.places.setIfInBounds h.index.toNat ⟨h.generation, some (f value)⟩ }
  | none => a

/-- Gives up the value a handle stands for, and frees its place. -/
def release (a : Arena α) (h : Handle) : Option (α × Arena α) :=
  match a.resolve h with
  | some value =>
    some (value, ⟨a.places.setIfInBounds h.index.toNat ⟨h.generation, none⟩,
      h.index :: a.free, a.size - 1⟩)
  | none => none

/-! ## §3. Small laws. -/

theorem resolve_empty (h : Handle) : (empty : Arena α).resolve h = none := by
  simp [resolve, empty]

theorem release_eq_none_iff (a : Arena α) (h : Handle) :
    a.release h = none ↔ a.resolve h = none := by
  unfold release
  cases a.resolve h <;> simp

end Arena

end Lineup
