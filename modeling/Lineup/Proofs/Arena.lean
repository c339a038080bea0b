/-
  Lineup.Proofs.Arena
  ───────────────────
  **AN ARENA IS A MAP FROM HANDLES TO VALUES.**  Seen through `resolve`, giving
  out a handle adds one entry, giving a value up removes one, and changing a
  value changes one; every other handle stands for what it stood for.

  The invariant `Counted` ties the free list to the places: the free places are
  exactly the listed ones, and none is listed twice.  Every operation keeps it.
  In a `Sound` arena every place has a number of 32 bits as well.  A new place
  needs such a number, so `allocate` asks for room; no other operation asks for
  anything.
-/
import Lineup.Registry.Arena
import Mathlib.Data.List.Nodup

namespace Lineup.Arena

variable {α : Type}

/-! ## §1. The invariant. -/

/-- The free list of an arena is right. -/
structure Counted (a : Arena α) : Prop where
  /-- No place is listed twice. -/
  free_nodup : a.free.Nodup
  /-- The free places are the listed ones. -/
  mem_free : ∀ i, i ∈ a.free ↔ ∃ p, a.places[i.toNat]? = some p ∧ p.value = none
  /-- A place holds a value or is free. -/
  size_add : a.size + a.free.length = a.places.size

/-- The free list of an arena is right, and its places can be numbered. -/
structure Sound (a : Arena α) : Prop extends Counted a where
  /-- Every place has a number. -/
  places_le : a.places.size ≤ UInt32.size

theorem sound_empty : (empty : Arena α).Sound where
  free_nodup := List.nodup_nil
  mem_free := by intro i; simp [empty]
  places_le := by simp [empty]
  size_add := rfl

/-- What a handle stands for is what its place holds under its generation. -/
theorem resolve_eq_some_iff {a : Arena α} {h : Handle} {v : α} :
    a.resolve h = some v ↔ a.places[h.index.toNat]? = some ⟨h.generation, some v⟩ := by
  unfold resolve
  cases hp : a.places[h.index.toNat]? with
  | none => simp
  | some p =>
    obtain ⟨g, w⟩ := p
    by_cases hg : g = h.generation
    · simp [hg]
    · simp [hg]

theorem lt_size_of_resolve {a : Arena α} {h : Handle} {v : α} (hv : a.resolve h = some v) :
    h.index.toNat < a.places.size :=
  (Array.getElem?_eq_some_iff.1 (resolve_eq_some_iff.1 hv)).1

/-- Where no handle stands for a value, no place that has a number holds one. -/
theorem value_eq_none {a : Arena α} (hnone : ∀ h, a.resolve h = none) {i : Nat}
    (hi : i < UInt32.size) {p : Place α} (hp : a.places[i]? = some p) : p.value = none := by
  cases hv : p.value with
  | none => rfl
  | some v =>
    -- the handle of that place would stand for its value
    have hresolve : a.resolve ⟨UInt32.ofNat i, p.generation⟩ = some v := by
      rw [resolve_eq_some_iff, UInt32.toNat_ofNat_of_lt' hi, hp, ← hv]
    rw [hnone] at hresolve
    cases hresolve

namespace Counted

variable {a : Arena α}

theorem lt_size_of_mem_free (ha : a.Counted) {i : UInt32} (hi : i ∈ a.free) :
    i.toNat < a.places.size := by
  obtain ⟨p, hp, -⟩ := (ha.mem_free i).1 hi
  exact (Array.getElem?_eq_some_iff.1 hp).1

theorem not_mem_free (ha : a.Counted) {h : Handle} {v : α} (hv : a.resolve h = some v) :
    h.index ∉ a.free := by
  intro hmem
  obtain ⟨p, hp, hnone⟩ := (ha.mem_free h.index).1 hmem
  rw [resolve_eq_some_iff.1 hv] at hp
  cases hp
  simp at hnone

theorem resolve_of_mem_free (ha : a.Counted) {h : Handle} (hi : h.index ∈ a.free) :
    a.resolve h = none := by
  cases hv : a.resolve h with
  | none => rfl
  | some v => exact absurd hi (ha.not_mem_free hv)

/-- Where a handle stands for a value, there is a value: the listed places are
too few to be all. -/
theorem size_pos (ha : a.Counted) {h : Handle} {v : α} (hv : a.resolve h = some v) :
    0 < a.size := by
  -- the place of the handle and the free places are different places of the arena
  have hnodup : ((h.index :: a.free).map UInt32.toNat).Nodup :=
    (List.nodup_cons.2 ⟨ha.not_mem_free hv, ha.free_nodup⟩).map fun _ _ => UInt32.toNat_inj.1
  have hsub : (h.index :: a.free).map UInt32.toNat ⊆ List.range a.places.size := by
    intro n hn
    obtain ⟨i, hi, rfl⟩ := List.mem_map.1 hn
    rw [List.mem_range]
    rcases List.mem_cons.1 hi with rfl | hi
    · exact lt_size_of_resolve hv
    · exact ha.lt_size_of_mem_free hi
  have hle := hnodup.length_le_of_subset hsub
  have hadd := ha.size_add
  simp only [List.length_map, List.length_cons, List.length_range] at hle
  omega

/-- Where no handle stands for a value, every place that has a number is free. -/
theorem le_length_free (ha : a.Counted) (hnone : ∀ h, a.resolve h = none) :
    min a.places.size UInt32.size ≤ a.free.length := by
  have hsub : List.range (min a.places.size UInt32.size) ⊆ a.free.map UInt32.toNat := by
    intro n hn
    have hlt := List.mem_range.1 hn
    have hlt' : n < UInt32.size := Nat.lt_of_lt_of_le hlt (Nat.min_le_right _ _)
    have hnum : (UInt32.ofNat n).toNat = n := UInt32.toNat_ofNat_of_lt' hlt'
    have hplace : a.places[n]? = some a.places[n] := Array.getElem?_eq_getElem _
    refine List.mem_map.2 ⟨UInt32.ofNat n, (ha.mem_free _).2 ⟨a.places[n], ?_, ?_⟩, hnum⟩
    · rw [hnum]
      exact hplace
    · exact value_eq_none hnone hlt' hplace
  have hle := List.nodup_range.length_le_of_subset hsub
  rwa [List.length_range, List.length_map] at hle

end Counted

/-! ## §2. Giving out a handle. -/

section Allocate

variable {a : Arena α}

theorem size_allocate (a : Arena α) (v : α) : (a.allocate v).2.size = a.size + 1 := by
  unfold allocate
  split <;> rfl

/-- The place that is given out next has a number: one is free, or there are numbers left. -/
def Open (a : Arena α) : Prop := a.free = [] → a.places.size < UInt32.size

theorem Open.room (hroom : a.Open) (hf : a.free = []) :
    (UInt32.ofNat a.places.size).toNat = a.places.size :=
  UInt32.toNat_ofNat_of_lt' (hroom hf)

theorem Counted.isOpen (ha : a.Counted) (hroom : a.size < UInt32.size) : a.Open := by
  intro hf
  have hadd := ha.size_add
  rw [hf, List.length_nil] at hadd
  omega

/-- **A new handle stands for its value, and no other handle is affected.** -/
theorem Counted.resolve_allocate (ha : a.Counted) (hroom : a.Open) (v : α) (k : Handle) :
    (a.allocate v).2.resolve k = if k = (a.allocate v).1 then some v else a.resolve k := by
  obtain ⟨ki, kg⟩ := k
  unfold allocate
  split
  · -- a free place is given out again, one generation later
    next i free hf =>
    have hlt : i.toNat < a.places.size := ha.lt_size_of_mem_free (by rw [hf]; simp)
    have hold : ∀ g, a.resolve ⟨i, g⟩ = none := fun g =>
      ha.resolve_of_mem_free (by rw [hf]; simp)
    by_cases hi : ki = i
    · subst hi
      by_cases hg : kg = a.generationAt ki + 1
      · simp [resolve, hlt, hg]
      · rw [hold kg]
        simp [resolve, hlt, hg, Ne.symm hg]
    · have hne : i.toNat ≠ ki.toNat := fun h => hi (UInt32.toNat_inj.1 h).symm
      simp [resolve, hi, hne]
  · -- no place is free, so there is a new one, in generation 0
    next hf =>
    have hnum := hroom.room hf
    by_cases hi : ki = UInt32.ofNat a.places.size
    · subst hi
      by_cases hg : kg = 0
      · simp [resolve, hnum, hg]
      · simp [resolve, hnum, hg, Ne.symm hg]
    · have hne : ki.toNat ≠ a.places.size := by
        intro h
        exact hi (UInt32.toNat_inj.1 (h.trans hnum.symm))
      simp [resolve, hi, Array.getElem?_push, hne]

theorem Sound.resolve_allocate (ha : a.Sound) (hroom : a.size < UInt32.size) (v : α)
    (k : Handle) :
    (a.allocate v).2.resolve k = if k = (a.allocate v).1 then some v else a.resolve k :=
  ha.toCounted.resolve_allocate (ha.isOpen hroom) v k

/-- A new handle stood for nothing before. -/
theorem Counted.resolve_new (ha : a.Counted) (hroom : a.Open) (v : α) :
    a.resolve (a.allocate v).1 = none := by
  unfold allocate
  split
  · next i free hf => exact ha.resolve_of_mem_free (by rw [hf]; simp)
  · next hf => simp [resolve, hroom.room hf]

theorem Sound.resolve_new (ha : a.Sound) (hroom : a.size < UInt32.size) (v : α) :
    a.resolve (a.allocate v).1 = none :=
  ha.toCounted.resolve_new (ha.isOpen hroom) v

/-- Whatever stands for a value once one was added stood for it before, or is the new
handle, which stood for nothing. A new place may lie beyond all numbers; then no handle
stands for its value. -/
theorem Counted.resolve_allocate_cases (ha : a.Counted) {v w : α} {k : Handle}
    (hw : (a.allocate v).2.resolve k = some w) :
    a.resolve k = some w ∨ k = (a.allocate v).1 ∧ w = v ∧ a.resolve k = none := by
  obtain ⟨ki, kg⟩ := k
  rw [resolve_eq_some_iff] at hw
  unfold allocate at hw ⊢
  split at hw
  · -- a free place is given out again
    next i free hf =>
    have hmem : i ∈ a.free := by rw [hf]; simp
    dsimp only at hw
    rw [Array.getElem?_setIfInBounds] at hw
    split at hw
    · next hi =>
      obtain rfl := UInt32.toNat_inj.1 hi
      rw [if_pos (ha.lt_size_of_mem_free hmem)] at hw
      cases hw
      exact Or.inr ⟨rfl, rfl, ha.resolve_of_mem_free hmem⟩
    · exact Or.inl (resolve_eq_some_iff.2 hw)
  · -- a new place stands behind the others
    dsimp only at hw
    rw [Array.getElem?_push] at hw
    split at hw
    · next hi =>
      cases hw
      refine Or.inr ⟨?_, rfl, ?_⟩
      · rw [← hi, UInt32.ofNat_toNat]
      · simp [resolve, hi]
    · exact Or.inl (resolve_eq_some_iff.2 hw)

theorem Counted.allocate (ha : a.Counted) (v : α) : (a.allocate v).2.Counted := by
  have hadd := ha.size_add
  unfold Arena.allocate
  split
  · -- the place that is taken leaves the free list
    next i free hf =>
    have hlt : i.toNat < a.places.size := ha.lt_size_of_mem_free (by rw [hf]; simp)
    have hnodup : i ∉ free ∧ free.Nodup := List.nodup_cons.1 (hf ▸ ha.free_nodup)
    rw [hf] at hadd
    refine ⟨hnodup.2, ?_, ?_⟩
    · intro j
      by_cases hj : j = i
      · subst hj
        simp [hlt, hnodup.1]
      · have hne : i.toNat ≠ j.toNat := fun h => hj (UInt32.toNat_inj.1 h).symm
        have := ha.mem_free j
        simpa [hf, hj, hne] using this
    · simp only [List.length_cons, Array.size_setIfInBounds] at hadd ⊢
      omega
  · -- the free list stays empty, and the new place holds a value
    next hf =>
    rw [hf] at hadd
    simp only [List.length_nil] at hadd
    refine ⟨List.nodup_nil, ?_, ?_⟩
    · intro j
      have := ha.mem_free j
      rw [hf] at this
      simp only [List.not_mem_nil, false_iff] at this ⊢
      rintro ⟨p, hp, hnone⟩
      rw [Array.getElem?_push] at hp
      split at hp
      · cases hp
        simp at hnone
      · exact this ⟨p, hp, hnone⟩
    · simp only [Array.size_push, List.length_nil]
      omega

/-- A new place is added only where all others hold values. -/
theorem Counted.places_allocate_le (ha : a.Counted) (v : α) {n : Nat}
    (hplaces : a.places.size ≤ n) (hsize : a.size < n) : (a.allocate v).2.places.size ≤ n := by
  have hadd := ha.size_add
  unfold Arena.allocate
  split
  · rw [Array.size_setIfInBounds]
    exact hplaces
  · next hf =>
    rw [hf, List.length_nil] at hadd
    rw [Array.size_push]
    omega

/-- No place is ever lost. -/
theorem places_le_allocate (a : Arena α) (v : α) :
    a.places.size ≤ (a.allocate v).2.places.size := by
  unfold Arena.allocate
  split
  · exact Nat.le_of_eq Array.size_setIfInBounds.symm
  · rw [Array.size_push]
    exact Nat.le_succ _

theorem Counted.size_lt_places_allocate (ha : a.Counted) (v : α) :
    a.size < (a.allocate v).2.places.size := by
  have hadd := (ha.allocate v).size_add
  rw [size_allocate] at hadd
  omega

theorem Sound.allocate (ha : a.Sound) (hroom : a.size < UInt32.size) (v : α) :
    (a.allocate v).2.Sound :=
  ⟨ha.toCounted.allocate v, ha.places_allocate_le v ha.places_le hroom⟩

/-- There are numbers for the places of some more values: as many places are free, or as many
numbers are left for places that are not. -/
def RoomFor (a : Arena α) (n : Nat) : Prop :=
  n ≤ a.free.length ∨ a.places.size + n ≤ UInt32.size + a.free.length

theorem RoomFor.isOpen {n : Nat} (h : a.RoomFor (n + 1)) : a.Open := by
  intro hf
  unfold RoomFor at h
  rw [hf, List.length_nil] at h
  omega

theorem RoomFor.allocate {n : Nat} (h : a.RoomFor (n + 1)) (v : α) :
    (a.allocate v).2.RoomFor n := by
  unfold RoomFor Arena.allocate at *
  split
  · next i free hf =>
    rw [hf, List.length_cons] at h
    simp only [Array.size_setIfInBounds]
    omega
  · next hf =>
    rw [hf, List.length_nil] at h
    simp only [Array.size_push, List.length_nil]
    omega

/-- **Where no handle stands for a value, there is room for as many as there are numbers**, also
where values without a number stay for ever. -/
theorem Counted.roomFor (ha : a.Counted) (hnone : ∀ h, a.resolve h = none) {n : Nat}
    (hn : n ≤ UInt32.size) : a.RoomFor n := by
  have hfree := ha.le_length_free hnone
  unfold RoomFor
  omega

end Allocate

/-! ## §3. Giving a value up. -/

section Release

variable {a : Arena α} {h : Handle} {v : α}

/-- A value is given up exactly where there is one. -/
theorem release_eq_some (hv : a.resolve h = some v) :
    a.release h = some (v, ⟨a.places.setIfInBounds h.index.toNat ⟨h.generation, none⟩,
      h.index :: a.free, a.size - 1⟩) := by
  unfold release
  rw [hv]

theorem resolve_of_release {a' : Arena α} (hr : a.release h = some (v, a')) :
    a.resolve h = some v := by
  cases hw : a.resolve h with
  | none => rw [(release_eq_none_iff a h).2 hw] at hr; cases hr
  | some w => rw [release_eq_some hw] at hr; cases hr; rfl

/-- **A handle that was given up stands for nothing, and no other handle is
affected.** -/
theorem resolve_release {a' : Arena α} (hr : a.release h = some (v, a')) (k : Handle) :
    a'.resolve k = if k = h then none else a.resolve k := by
  have hv := resolve_of_release hr
  have hlt := lt_size_of_resolve hv
  rw [release_eq_some hv] at hr
  cases hr
  obtain ⟨ki, kg⟩ := k
  obtain ⟨hi, hg⟩ := h
  have hplace := resolve_eq_some_iff.1 hv
  -- a handle for the same place in another generation stood for nothing before
  by_cases hk : ki = hi
  · subst hk
    by_cases hkg : kg = hg
    · simp [resolve, hlt, hkg]
    · simp only [resolve, hplace]
      simp [hlt, hkg, Ne.symm hkg]
  · have hne : hi.toNat ≠ ki.toNat := fun h => hk (UInt32.toNat_inj.1 h).symm
    simp [resolve, hk, hne]

theorem size_release {a' : Arena α} (hr : a.release h = some (v, a')) :
    a'.size = a.size - 1 := by
  rw [release_eq_some (resolve_of_release hr)] at hr
  cases hr
  rfl

theorem places_release {a' : Arena α} (hr : a.release h = some (v, a')) :
    a'.places.size = a.places.size := by
  rw [release_eq_some (resolve_of_release hr)] at hr
  cases hr
  exact Array.size_setIfInBounds

theorem Counted.release (ha : a.Counted) {a' : Arena α} (hr : a.release h = some (v, a')) :
    a'.Counted := by
  have hv := resolve_of_release hr
  have hlt := lt_size_of_resolve hv
  have hpos := ha.size_pos hv
  have hadd := ha.size_add
  rw [release_eq_some hv] at hr
  cases hr
  refine ⟨List.nodup_cons.2 ⟨ha.not_mem_free hv, ha.free_nodup⟩, ?_, ?_⟩
  · -- only the place of the handle has become free
    intro j
    by_cases hj : j = h.index
    · subst hj
      simp [hlt]
    · have hne : h.index.toNat ≠ j.toNat := fun e => hj (UInt32.toNat_inj.1 e).symm
      simpa [hj, hne] using ha.mem_free j
  · simp only [List.length_cons, Array.size_setIfInBounds]
    omega

theorem Sound.release (ha : a.Sound) {a' : Arena α} (hr : a.release h = some (v, a')) :
    a'.Sound :=
  ⟨ha.toCounted.release hr, places_release hr ▸ ha.places_le⟩

/-- An arena whose handles stand for what they stand for in another one. -/
structure Alike (a b : Arena α) : Prop where
  sound : b.Sound
  size : b.size = a.size
  resolve : ∀ k, b.resolve k = a.resolve k

theorem Sound.alike_self (ha : a.Sound) : a.Alike a := ⟨ha, rfl, fun _ => rfl⟩

/-- **A handle that is given up at once leaves all handles as they were.** -/
theorem Counted.release_allocate (ha : a.Counted) (hroom : a.Open) (v : α) :
    ∃ b, (a.allocate v).2.release (a.allocate v).1 = some (v, b) ∧ b.size = a.size ∧
      ∀ k, b.resolve k = a.resolve k := by
  have hv : (a.allocate v).2.resolve (a.allocate v).1 = some v := by
    rw [ha.resolve_allocate hroom, if_pos rfl]
  have hrel := release_eq_some hv
  refine ⟨_, hrel, ?_, fun k => ?_⟩
  · rw [size_release hrel, size_allocate, Nat.add_sub_cancel]
  · rw [resolve_release hrel, ha.resolve_allocate hroom]
    by_cases hk : k = (a.allocate v).1
    · rw [if_pos hk, hk, ha.resolve_new hroom]
    · rw [if_neg hk, if_neg hk]

theorem Sound.release_allocate (ha : a.Sound) (hroom : a.size < UInt32.size) (v : α) :
    ∃ b, (a.allocate v).2.release (a.allocate v).1 = some (v, b) ∧ a.Alike b := by
  obtain ⟨b, hrel, hsize, hresolve⟩ := ha.toCounted.release_allocate (ha.isOpen hroom) v
  exact ⟨b, hrel, (ha.allocate hroom v).release hrel, hsize, hresolve⟩

end Release

/-! ## §4. Changing a value. -/

/-- **A value that is changed stays behind its handle, and no other handle is
affected.** -/
theorem resolve_modify (a : Arena α) (h k : Handle) (f : α → α) :
    (a.modify h f).resolve k = if k = h then (a.resolve h).map f else a.resolve k := by
  unfold modify
  cases hv : a.resolve h with
  | none =>
    by_cases hk : k = h
    · simp [hk, hv]
    · simp [hk]
  | some v =>
    have hlt := lt_size_of_resolve hv
    have hplace := resolve_eq_some_iff.1 hv
    obtain ⟨ki, kg⟩ := k
    obtain ⟨hi, hg⟩ := h
    by_cases hk : ki = hi
    · subst hk
      by_cases hkg : kg = hg
      · simp [resolve, hlt, hkg]
      · simp only [resolve, hplace]
        simp [hlt, hkg, Ne.symm hkg]
    · have hne : hi.toNat ≠ ki.toNat := fun h => hk (UInt32.toNat_inj.1 h).symm
      simp [resolve, hk, hne]

/-! ## §5. Generations. -/

/-- Each place was given out fewer than so many times before it was given out last. -/
def Young (n : Nat) (a : Arena α) : Prop :=
  ∀ (i : Nat) (p : Place α), a.places[i]? = some p → p.generation.toNat < n

/-- A generation that is not the last one goes up. -/
theorem toNat_add_one {g : UInt32} {n : Nat} (hg : g.toNat < n) (hn : n < UInt32.size) :
    (g + 1).toNat = g.toNat + 1 := by
  rw [UInt32.toNat_add, UInt32.toNat_one]
  exact Nat.mod_eq_of_lt (Nat.lt_of_le_of_lt hg hn)

/-- Giving a value up leaves all generations. -/
theorem generation_release {a b : Arena α} {k : Handle} {v : α}
    (hrel : a.release k = some (v, b)) (i : Nat) :
    (b.places[i]?).map (·.generation) = (a.places[i]?).map (·.generation) := by
  have hv := resolve_of_release hrel
  have hplace := resolve_eq_some_iff.1 hv
  rw [release_eq_some hv] at hrel
  cases hrel
  dsimp only
  rw [Array.getElem?_setIfInBounds]
  split
  · next hi =>
    subst hi
    rw [if_pos (lt_size_of_resolve hv), hplace]
    rfl
  · rfl

end Lineup.Arena
