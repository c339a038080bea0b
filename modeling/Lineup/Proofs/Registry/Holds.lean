/-
  Lineup.Proofs.Registry.Holds
  ────────────────────────────
  **WHAT HOLDS OF EVERY CHANNEL, HOWEVER MANY THERE ARE.**  A handle numbers its
  place with 32 bits, and a registry may be allowed more channels than that.  Then
  the invariant of small registries breaks, but not all is lost: what holds of each
  channel that was taken in holds of each channel that is found, no more channels
  can be told apart than there are numbers, and no list with one key twice is taken
  in.
-/
import Lineup.Proofs.Registry.Fits

namespace Lineup

/-! ## §1. Arenas. -/

namespace Arena

variable {α : Type} {P : α → Prop} {a : Arena α}

/-- Every value of an arena has a property. -/
def Holds (P : α → Prop) (a : Arena α) : Prop := ∀ p ∈ a.places, ∀ v, p.value = some v → P v

theorem holds_empty : (empty : Arena α).Holds P := by
  intro p hp
  cases Array.not_mem_empty p hp

theorem Holds.resolve (ha : a.Holds P) {h : Handle} {v : α} (hv : a.resolve h = some v) : P v :=
  ha _ (Array.mem_of_getElem? (resolve_eq_some_iff.1 hv)) v rfl

theorem Holds.allocate (ha : a.Holds P) {v : α} (hv : P v) : (a.allocate v).2.Holds P := by
  unfold Arena.allocate
  split
  · -- one place has changed, or one has been added
    intro p hp w hw
    rcases Array.mem_or_eq_of_mem_setIfInBounds hp with hp | rfl
    · exact ha p hp w hw
    · obtain rfl := Option.some.inj hw
      exact hv
  · intro p hp w hw
    rcases Array.mem_push.1 hp with hp | rfl
    · exact ha p hp w hw
    · obtain rfl := Option.some.inj hw
      exact hv

theorem Holds.release (ha : a.Holds P) {h : Handle} {v : α} {b : Arena α}
    (hrel : a.release h = some (v, b)) : b.Holds P := by
  unfold Arena.release at hrel
  split at hrel
  · cases hrel
    intro p hp w hw
    rcases Array.mem_or_eq_of_mem_setIfInBounds hp with hp | rfl
    · exact ha p hp w hw
    · cases hw
  · cases hrel

/-- Handles tell no more values apart than there are numbers for places. -/
theorem exists_resolvable (a : Arena α) :
    ∃ vs : List α, vs.length ≤ UInt32.size ∧ ∀ h v, a.resolve h = some v → v ∈ vs := by
  refine ⟨(a.places.toList.take UInt32.size).filterMap (·.value), ?_, fun h v hv => ?_⟩
  · exact Nat.le_trans (List.length_filterMap_le _ _) (List.length_take_le _ _)
  · -- a handle cannot number a place beyond those
    have hplace := resolve_eq_some_iff.1 hv
    rw [← Array.getElem?_toList] at hplace
    have htake : (a.places.toList.take UInt32.size)[h.index.toNat]? = some ⟨h.generation, some v⟩ := by
      rw [List.getElem?_take, if_pos h.index.toNat_lt]
      exact hplace
    exact List.mem_filterMap.2 ⟨_, List.mem_of_getElem? htake, rfl⟩

end Arena

/-! ## §2. Taking one channel in. -/

namespace Registry

variable {r r' : Registry} {c : Channel} {P : Channel → Prop}

/-- Every channel that a registry keeps has a property. -/
def Holds (P : Channel → Prop) (r : Registry) : Prop := r.arena.Holds P

theorem holds_empty (config : RegistryConfig) : (empty config).Holds P := Arena.holds_empty

/-- What is known of a registry that took a channel in, if nothing is known of it
before. -/
theorem insert_eq_ok {h : Handle} (hok : r.insert c = (.ok h, r')) :
    r.findByKey c.key = none ∧ ∃ p f, r' = r.grownBy c p f := by
  rcases r.insert_outcome c with ⟨-, e, he⟩ | ⟨-, -, e, he⟩ | ⟨ha, p, f, -, -, hgrown⟩
  · rw [hok] at he
    cases he
  · rw [hok] at he
    cases he
  · rw [hok] at hgrown
    cases hgrown
    exact ⟨ha.key, p, f, rfl⟩

theorem Holds.withdraw (hr : r.Holds P) (h : Handle) : (r.withdraw h).Holds P := by
  unfold Registry.withdraw
  split
  · next v a hrel => exact Arena.Holds.release hr hrel
  · exact hr

/-- A channel that is refused was in the arena for a while. -/
theorem Holds.insert (hr : r.Holds P) (hc : P (unmarked c)) : (r.insert c).2.Holds P := by
  rcases r.insert_outcome c with ⟨-, e, he⟩ | ⟨-, -, e, he⟩ | ⟨-, p, f, -, -, hok⟩
  · rw [he]
    exact hr
  · have hgiven : ({ r with arena := (r.arena.allocate (unmarked c)).2 } : Registry).Holds P :=
      Arena.Holds.allocate hr hc
    rw [he]
    exact hgiven.withdraw _
  · rw [hok]
    exact Arena.Holds.allocate hr hc

/-! ## §3. Giving channels up. -/

theorem Holds.detachIfThere (hr : r.Holds P) (h : Handle) : (r.detachIfThere h).Holds P := by
  unfold Registry.detachIfThere
  split
  · next c r' hd =>
    obtain ⟨a, hrel, rfl⟩ := detach_eq_ok_iff.1 hd
    exact Arena.Holds.release hr hrel
  · exact hr

theorem Holds.deleteIfThere (hr : r.Holds P) (h : Handle) : (r.deleteIfThere h).Holds P := by
  unfold Registry.deleteIfThere
  split
  · next c r' hd =>
    obtain ⟨r₁, hdet, rfl⟩ := delete_eq_ok_iff.1 hd
    obtain ⟨a, hrel, rfl⟩ := detach_eq_ok_iff.1 hdet
    exact Arena.Holds.release hr hrel
  · exact hr

theorem Holds.destroyAll (hr : r.Holds P) : r.destroyAll.Holds P :=
  detachEach_preserves (P := fun r => r.Holds P) (fun _ h hr => hr.detachIfThere h) hr r.handles

/-- No more channels with different keys are listed than there are numbers. -/
theorem length_le_of_nodup_keys {cs : List Channel} (hsub : ∀ c ∈ cs, c ∈ r.records)
    (hkeys : (cs.map (·.key)).Nodup) : cs.length ≤ UInt32.size := by
  obtain ⟨vs, hlen, hvs⟩ := r.arena.exists_resolvable
  -- channels with different keys are different values, and each of them is found
  have hmem : cs.map (·.key) ⊆ vs.map (·.key) := by
    intro k hk
    obtain ⟨c, hc, rfl⟩ := List.mem_map.1 hk
    obtain ⟨h, hget⟩ := exists_of_mem_records (hsub c hc)
    exact List.mem_map_of_mem (hvs h c hget)
  have hle := hkeys.length_le_of_subset hmem
  rw [List.length_map, List.length_map] at hle
  exact Nat.le_trans hle hlen

/-! ## §4. Taking a list in. -/

theorem Holds.insertAll {cs : List Channel} (hr : r.Holds P) (hcs : ∀ c ∈ cs, P (unmarked c))
    (hok : Coordinator.insertAll r cs = .ok r') : r'.Holds P := by
  induction cs generalizing r with
  | nil =>
    obtain rfl := Except.ok.inj hok
    exact hr
  | cons c cs ih =>
    rw [List.forall_mem_cons] at hcs
    obtain ⟨h, r₁, hins, hrest⟩ := insertAll_cons_eq_ok hok
    have hnext := hr.insert hcs.1
    rw [hins] at hnext
    exact ih hnext hcs.2 hrest

/-- **A list that is taken in has no key twice.** -/
theorem nodup_keys_of_insertAll {cs : List Channel} (hok : Coordinator.insertAll r cs = .ok r') :
    (cs.map (·.key)).Nodup ∧ ∀ c ∈ cs, r.findByKey c.key = none := by
  induction cs generalizing r with
  | nil => exact ⟨List.nodup_nil, by simp⟩
  | cons c cs ih =>
    obtain ⟨h, r₁, hins, hrest⟩ := insertAll_cons_eq_ok hok
    obtain ⟨hkey, p, f, rfl⟩ := insert_eq_ok hins
    obtain ⟨hnodup, hnew⟩ := ih hrest
    -- what is new behind the channel has another key, and was new before
    have hstep : ∀ d ∈ cs, d.key ≠ c.key ∧ r.findByKey d.key = none := by
      intro d hd
      have hnone : ((c.key, r.nextHandle c) :: r.byKey).lookup d.key = none := hnew d hd
      rw [List.lookup_cons] at hnone
      split at hnone
      · cases hnone
      · next hne => exact ⟨by simpa using hne, hnone⟩
    rw [List.map_cons]
    refine ⟨List.nodup_cons.2 ⟨?_, hnodup⟩, ?_⟩
    · intro hmem
      obtain ⟨d, hd, heq⟩ := List.mem_map.1 hmem
      exact (hstep d hd).1 heq
    · rw [List.forall_mem_cons]
      exact ⟨hkey, fun d hd => (hstep d hd).2⟩

/-- **A list that is taken in stands behind the channels that are there**, as long as
there are numbers for all. -/
theorem Indexed.appended_insertAll (hr : r.Indexed) (hp : r.Packed) {cs : List Channel}
    (hle : r.size + cs.length ≤ UInt32.size) (hok : Coordinator.insertAll r cs = .ok r') :
    Appended r r' (cs.map unmarked) := by
  induction cs generalizing r with
  | nil =>
    obtain rfl := Except.ok.inj hok
    exact Appended.refl hr hp
  | cons c cs ih =>
    rw [List.length_cons] at hle
    obtain ⟨h, r₁, hins, hrest⟩ := insertAll_cons_eq_ok hok
    have happ := hr.appended_insert hp (fun _ => by omega) hins
    have hsize := happ.size hr.toSeated
    rw [List.length_singleton] at hsize
    exact happ.trans (ih happ.indexed happ.packed (by omega) hrest)

/-- **A registry that gave all its channels up and took a list in holds the list.** -/
theorem Seated.insertAll_destroyAll (hr : r.Seated) {cs : List Channel}
    (hlen : cs.length ≤ UInt32.size) (hok : Coordinator.insertAll r.destroyAll cs = .ok r') :
    r'.Indexed ∧ r'.config = r.config ∧ r'.records = cs.map unmarked := by
  have hvacant := hr.destroyAll_vacant
  have hnone : r.destroyAll.records = [] := records_of_no_handle hvacant.handles
  have hsize : r.destroyAll.size = 0 := by
    rw [← hvacant.seated.length_records, hnone]
    rfl
  have happ := hvacant.indexed.appended_insertAll hvacant.packed (by omega) hok
  have hrecords := happ.records
  rw [hnone, List.nil_append] at hrecords
  exact ⟨happ.indexed, happ.config.trans r.config_destroyAll, hrecords⟩

end Registry

end Lineup
