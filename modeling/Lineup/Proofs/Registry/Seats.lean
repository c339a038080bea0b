/-
  Lineup.Proofs.Registry.Seats
  ────────────────────────────
  **SLOTS AND ARENA TELL THE SAME STORY.**  The occupied slots of a registry hold
  different handles, they are exactly the handles that stand for a channel, and
  the size counts them (`Seated`).  This much survives every operation, also one
  that leaves keys and pairs of a deleted channel behind; so giving all channels
  up always ends with vacant slots and an empty arena (`destroyAll_vacant`).
-/
import Lineup.Registry.Basic
import Lineup.Proofs.Arena
import Lineup.Proofs.AddressMap
import Mathlib.Data.List.Perm.Basic

namespace Lineup.Registry

/-! ## §1. Slots. -/

section Slots

variable {h : Handle} {slots : List (Option Handle)}

/-- A handle that takes a slot joins the handles. -/
theorem occupy_perm (h : Handle) (slots : List (Option Handle)) :
    ((occupy h slots).filterMap id).Perm (h :: slots.filterMap id) := by
  induction slots with
  | nil => exact List.Perm.refl _
  | cons slot slots ih =>
    cases slot with
    | none => exact List.Perm.refl _
    | some k => exact (ih.cons k).trans (List.Perm.swap h k _)

/-- Where no slot is vacant before an occupied one, the new handle is the
last. -/
theorem occupy_packed (h : Handle) (hs : List Handle) (n : Nat) :
    occupy h (hs.map some ++ List.replicate n none)
      = (hs ++ [h]).map some ++ List.replicate (n - 1) none := by
  induction hs with
  | nil => cases n <;> rfl
  | cons k hs ih =>
    show some k :: occupy h (hs.map some ++ List.replicate n none) = _
    rw [ih]
    rfl

theorem filterMap_vacate (h : Handle) (slots : List (Option Handle)) :
    (vacate h slots).filterMap id = (slots.filterMap id).erase h := by
  induction slots with
  | nil => rfl
  | cons slot slots ih =>
    cases slot with
    | none =>
      show (vacate h slots).filterMap id = _
      rw [ih]
      rfl
    | some k =>
      by_cases hk : k = h
      · subst hk
        simp [vacate]
      · have hne : some k ≠ some h := fun e => hk (Option.some.inj e)
        simpa [vacate, hne, hk] using ih

theorem slots_of_no_handle (hnone : slots.filterMap id = []) :
    slots = List.replicate slots.length none := by
  rw [List.eq_replicate_iff]
  refine ⟨rfl, fun slot hslot => ?_⟩
  exact List.filterMap_eq_nil_iff.1 hnone slot hslot

end Slots

/-! ## §2. The invariant. -/

/-- The occupied slots of a registry are its channels. -/
structure Seated (r : Registry) : Prop where
  /-- The arena is in order. -/
  arena : r.arena.Sound
  /-- No handle has two slots. -/
  nodup : r.handles.Nodup
  /-- The handles with a slot are those that stand for a channel. -/
  resident : ∀ h, h ∈ r.handles ↔ (r.getAny h).isSome
  /-- The size counts them. -/
  size_eq : r.size = r.handles.length

/-- A channel is listed with each handle in a slot that stands for it. -/
theorem mem_channels_iff {r : Registry} {h : Handle} {c : Channel} :
    (h, c) ∈ r.channels ↔ h ∈ r.handles ∧ r.getAny h = some c := by
  unfold channels
  rw [List.mem_filterMap]
  constructor
  · rintro ⟨k, hk, heq⟩
    obtain ⟨d, hd, heq⟩ := Option.map_eq_some_iff.1 heq
    cases heq
    exact ⟨hk, hd⟩
  · rintro ⟨hh, hc⟩
    exact ⟨h, hh, by rw [hc]; rfl⟩

theorem seated_empty (config : RegistryConfig) : (empty config).Seated where
  arena := Arena.sound_empty
  nodup := List.nodup_nil
  resident := by
    intro h
    simp [handles, empty, getAny, Arena.resolve_empty]
  size_eq := rfl

namespace Seated

variable {r : Registry}

/-- Only arena and slots matter. -/
theorem congr (hr : r.Seated) {r' : Registry} (harena : r'.arena = r.arena)
    (hslots : r'.slots = r.slots) : r'.Seated := by
  have hhandles : r'.handles = r.handles := congrArg (List.filterMap id) hslots
  have hget : ∀ h, r'.getAny h = r.getAny h := fun h => congrArg (Arena.resolve · h) harena
  refine ⟨harena ▸ hr.arena, hhandles ▸ hr.nodup, fun h => ?_, ?_⟩
  · rw [hhandles, hget]
    exact hr.resident h
  · show r'.arena.size = _
    rw [harena, hhandles]
    exact hr.size_eq

/-- An arena that stands for the same changes nothing. -/
theorem alike (hr : r.Seated) {a : Arena Channel} (ha : r.arena.Alike a) :
    ({ r with arena := a } : Registry).Seated := by
  refine ⟨ha.sound, hr.nodup, fun h => ?_, ha.size.trans hr.size_eq⟩
  rw [show ({ r with arena := a } : Registry).getAny h = r.getAny h from ha.resolve h]
  exact hr.resident h

theorem mem_handles (hr : r.Seated) {h : Handle} {c : Channel} (hc : r.getAny h = some c) :
    h ∈ r.handles :=
  (hr.resident h).2 (by rw [hc]; rfl)

theorem exists_channel (hr : r.Seated) {h : Handle} (hh : h ∈ r.handles) :
    ∃ c, r.getAny h = some c :=
  Option.isSome_iff_exists.1 ((hr.resident h).1 hh)

/-- The channels list each handle once. -/
theorem map_channels (hr : r.Seated) : r.channels.map (·.1) = r.handles := by
  -- over any list of handles that all stand for a channel
  have key : ∀ hs : List Handle, (∀ h ∈ hs, h ∈ r.handles) →
      (hs.filterMap fun h => (r.getAny h).map fun c => (h, c)).map (·.1) = hs := by
    intro hs
    induction hs with
    | nil => intro _; rfl
    | cons h hs ih =>
      intro hall
      obtain ⟨c, hc⟩ := hr.exists_channel (hall h List.mem_cons_self)
      simp [hc, ih fun k hk => hall k (List.mem_cons_of_mem _ hk)]
  exact key r.handles fun _ h => h

theorem mem_channels (hr : r.Seated) {h : Handle} {c : Channel} :
    (h, c) ∈ r.channels ↔ r.getAny h = some c :=
  mem_channels_iff.trans (and_iff_right_of_imp hr.mem_handles)

end Seated

/-! ## §3. Taking a slot. -/

/-- A channel that is given a handle and a slot has joined the others. -/
theorem Seated.occupy {r r' : Registry} (hr : r.Seated) (hroom : r.size < UInt32.size)
    (c : Channel) (harena : r'.arena = (r.arena.allocate c).2)
    (hslots : r'.slots = Registry.occupy (r.arena.allocate c).1 r.slots) : r'.Seated := by
  have hnew := hr.arena.resolve_new hroom c
  have hres := hr.arena.resolve_allocate hroom c
  have hperm : r'.handles.Perm ((r.arena.allocate c).1 :: r.handles) := by
    unfold handles
    rw [hslots]
    exact occupy_perm _ _
  -- a new handle stands for nothing yet, so it has no slot
  have hfresh : (r.arena.allocate c).1 ∉ r.handles := by
    rw [hr.resident]
    show ¬(r.arena.resolve (r.arena.allocate c).1).isSome
    rw [hnew]
    simp
  refine ⟨?_, ?_, ?_, ?_⟩
  · rw [harena]
    exact hr.arena.allocate hroom c
  · rw [hperm.nodup_iff]
    exact List.nodup_cons.2 ⟨hfresh, hr.nodup⟩
  · intro k
    rw [hperm.mem_iff, List.mem_cons, hr.resident]
    show _ ↔ (r'.arena.resolve k).isSome
    rw [harena, hres]
    by_cases hk : k = (r.arena.allocate c).1
    · simp [hk]
    · simp [hk, getAny]
  · show r'.arena.size = _
    rw [harena, Arena.size_allocate, hperm.length_eq, List.length_cons, ← hr.size_eq]
    rfl

/-! ## §4. Giving slots up. -/

/-- What giving up the channel of a handle does to a registry, as far as slots
and arena go. -/
structure Detached (r r' : Registry) (h : Handle) : Prop where
  /-- The other channels have their slots. -/
  seated : r'.Seated
  /-- The handle stands for nothing; all others stand for what they stood for. -/
  getAny : ∀ k, r'.getAny k = if k = h then none else r.getAny k
  /-- The slots are as many as before. -/
  length : r'.slots.length = r.slots.length
  /-- The indices and the counters stay. -/
  frame : r' = { r with arena := r'.arena, slots := r'.slots }

/-- No channel is added. -/
theorem Detached.size_le {r r' : Registry} {h : Handle} (hd : Detached r r' h)
    (hr : r.Seated) : r'.size ≤ r.size := by
  rw [hd.seated.size_eq, hr.size_eq]
  apply hd.seated.nodup.length_le_of_subset
  intro k hk
  rw [hd.seated.resident, hd.getAny] at hk
  rw [hr.resident]
  split at hk
  · cases hk
  · exact hk

theorem length_vacate (h : Handle) (slots : List (Option Handle)) :
    (vacate h slots).length = slots.length := by
  induction slots with
  | nil => rfl
  | cons slot slots ih =>
    unfold vacate
    split
    · rfl
    · rw [List.length_cons, ih, List.length_cons]

/-- A channel is given up exactly where there is one. -/
theorem detach_eq_ok_iff {r : Registry} {h : Handle} {c : Channel} {r' : Registry} :
    r.detach h = .ok (c, r') ↔
      ∃ a, r.arena.release h = some (c, a) ∧
        r' = { r with arena := a, slots := vacate h r.slots } := by
  unfold detach
  cases hrel : r.arena.release h with
  | none => simp
  | some p =>
    obtain ⟨d, a⟩ := p
    simp only [Except.ok.injEq, Prod.mk.injEq, Option.some.injEq]
    constructor
    · rintro ⟨rfl, rfl⟩
      exact ⟨a, ⟨rfl, rfl⟩, rfl⟩
    · rintro ⟨a', ⟨rfl, rfl⟩, rfl⟩
      exact ⟨rfl, rfl⟩

theorem Seated.detach {r : Registry} (hr : r.Seated) {h : Handle} {c : Channel} {r' : Registry}
    (hd : r.detach h = .ok (c, r')) : r.getAny h = some c ∧ Detached r r' h := by
  obtain ⟨a, hrel, rfl⟩ := detach_eq_ok_iff.1 hd
  have hc : r.getAny h = some c := Arena.resolve_of_release hrel
  have hres := Arena.resolve_release hrel
  have hmem := hr.mem_handles hc
  have hhandles : ({ r with arena := a, slots := vacate h r.slots } : Registry).handles
      = r.handles.erase h := filterMap_vacate h r.slots
  refine ⟨hc, ⟨⟨hr.arena.release hrel, ?_, ?_, ?_⟩, hres, length_vacate h r.slots, rfl⟩⟩
  · rw [hhandles]
    exact hr.nodup.erase h
  · intro k
    rw [hhandles, hr.nodup.mem_erase_iff, hr.resident]
    show _ ↔ (a.resolve k).isSome
    rw [hres]
    by_cases hk : k = h
    · simp [hk]
    · simp [hk, Registry.getAny]
  · rw [hhandles, List.length_erase_of_mem hmem, ← hr.size_eq]
    exact Arena.size_release hrel

/-- A handle that is given up stands for nothing, and all others stand for what they stood
for; keys and pairs stay. -/
theorem detachIfThere_outcome (r : Registry) (h : Handle) :
    (∀ k, (r.detachIfThere h).getAny k = if k = h then none else r.getAny k) ∧
      r.detachIfThere h = { r with
        arena := (r.detachIfThere h).arena
        slots := (r.detachIfThere h).slots } := by
  unfold Registry.detachIfThere
  cases hd : r.detach h with
  | ok p =>
    obtain ⟨c, r'⟩ := p
    obtain ⟨a, hrel, rfl⟩ := detach_eq_ok_iff.1 hd
    exact ⟨Arena.resolve_release hrel, rfl⟩
  | error e =>
    -- a handle that cannot be detached stood for nothing
    have hnone : r.getAny h = none := by
      cases hc : r.getAny h with
      | none => rfl
      | some c =>
        have : r.detach h = .ok (c, _) :=
          detach_eq_ok_iff.2 ⟨_, Arena.release_eq_some hc, rfl⟩
        rw [hd] at this
        cases this
    refine ⟨fun k => ?_, rfl⟩
    by_cases hk : k = h
    · simp [hk, hnone]
    · simp [hk]

/-- Giving up a list of handles one by one. -/
theorem detachEach_outcome (r : Registry) (hs : List Handle) :
    (∀ k, (hs.foldl Registry.detachIfThere r).getAny k = if k ∈ hs then none else r.getAny k) ∧
      hs.foldl Registry.detachIfThere r = { r with
        arena := (hs.foldl Registry.detachIfThere r).arena
        slots := (hs.foldl Registry.detachIfThere r).slots } := by
  induction hs generalizing r with
  | nil => exact ⟨by simp, rfl⟩
  -- by induction on the handles; what stays of one step stays of all
  | cons h hs ih =>
    obtain ⟨hget, hframe⟩ := r.detachIfThere_outcome h
    obtain ⟨hget', hframe'⟩ := ih (r.detachIfThere h)
    refine ⟨fun k => ?_, ?_⟩
    · rw [List.foldl_cons, hget', hget]
      by_cases hk : k = h
      · simp [hk]
      · simp [hk]
    · rw [List.foldl_cons, hframe', hframe]

/-- What survives every single handle that is given up survives all. -/
theorem detachEach_preserves {P : Registry → Prop}
    (hdetach : ∀ r h, P r → P (Registry.detachIfThere r h)) {r : Registry} (hr : P r)
    (hs : List Handle) : P (hs.foldl Registry.detachIfThere r) := by
  induction hs generalizing r with
  | nil => exact hr
  | cons h hs ih => exact ih (hdetach r h hr)

/-- The place of a handle that is given up stays. -/
theorem places_detachIfThere (r : Registry) (h : Handle) :
    (r.detachIfThere h).arena.places.size = r.arena.places.size := by
  unfold Registry.detachIfThere
  split
  · next c r' hd =>
    obtain ⟨a, hrel, rfl⟩ := detach_eq_ok_iff.1 hd
    exact Arena.places_release hrel
  · rfl

theorem places_destroyAll (r : Registry) :
    r.destroyAll.arena.places.size = r.arena.places.size :=
  detachEach_preserves (P := fun q => q.arena.places.size = r.arena.places.size)
    (fun q h hq => (q.places_detachIfThere h).trans hq) rfl r.handles

theorem Seated.detachIfThere {r : Registry} (hr : r.Seated) (h : Handle) :
    (r.detachIfThere h).Seated := by
  unfold Registry.detachIfThere
  split
  · next c r' hd => exact (hr.detach hd).2.seated
  · exact hr

/-! ## §5. Giving everything up. -/

/-- The slots of a registry before its last channel are all occupied. -/
def Packed (r : Registry) : Prop :=
  ∃ n, r.slots = r.handles.map some ++ List.replicate n none

theorem packed_empty (config : RegistryConfig) : (empty config).Packed := ⟨0, rfl⟩

/-- A registry that holds no channel and no index, but may have vacant slots. -/
structure Vacant (r : Registry) : Prop where
  /-- Slots and arena are in order. -/
  seated : r.Seated
  /-- No slot is occupied. -/
  handles : r.handles = []
  /-- No key is known. -/
  byKey : r.byKey = []
  /-- No pair is claimed for primary streams. -/
  primary : ∃ m : AddressMap, r.primaryMap = m.clear
  /-- No pair is claimed for feedback. -/
  feedback : ∃ m : AddressMap, r.feedbackMap = m.clear

/-- **Giving all channels up leaves nothing behind.**  It is enough that slots
and arena agree: keys and pairs may lead to channels that are gone. -/
theorem Seated.destroyAll_vacant {r : Registry} (hr : r.Seated) : r.destroyAll.Vacant := by
  have hseated : (r.handles.foldl Registry.detachIfThere r).Seated :=
    detachEach_preserves (fun _ h hr => hr.detachIfThere h) hr r.handles
  obtain ⟨hget, -⟩ := r.detachEach_outcome r.handles
  -- every channel has a handle with a slot, and all of these were detached
  have hnone : ∀ k, r.destroyAll.getAny k = none := by
    intro k
    show (r.handles.foldl Registry.detachIfThere r).getAny k = none
    rw [hget]
    split
    · rfl
    · next hk =>
      cases hc : r.getAny k with
      | none => rfl
      | some c => exact absurd (hr.mem_handles hc) hk
  refine ⟨⟨hseated.arena, hseated.nodup, hseated.resident, hseated.size_eq⟩, ?_, rfl,
    ⟨_, rfl⟩, ⟨_, rfl⟩⟩
  rw [List.eq_nil_iff_forall_not_mem]
  intro k hk
  have : (r.destroyAll.getAny k).isSome := (hseated.resident k).1 hk
  rw [hnone] at this
  cases this

theorem Vacant.packed {r : Registry} (hr : r.Vacant) : r.Packed := by
  refine ⟨r.slots.length, ?_⟩
  rw [hr.handles]
  exact slots_of_no_handle hr.handles

theorem config_destroyAll (r : Registry) : r.destroyAll.config = r.config := by
  obtain ⟨-, hframe⟩ := r.detachEach_outcome r.handles
  -- detaching changes neither the settings nor the number of chains
  have key : ∀ q : Registry, q = { r with arena := q.arena, slots := q.slots } →
      ({ q with primaryMap := q.primaryMap.clear, feedbackMap := q.feedbackMap.clear, byKey := [] }
        : Registry).config = r.config := by
    intro q hq
    rw [hq]
    simp [config]
  exact key _ hframe

end Lineup.Registry
