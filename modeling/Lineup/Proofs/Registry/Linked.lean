/-
  Lineup.Proofs.Registry.Linked
  ─────────────────────────────
  **FROM A PAIR TO ITS CHANNEL, HOWEVER MANY THERE ARE.**  A registry may be allowed
  more channels than there are numbers for places.  Then two channels may get one
  handle, and a scan can miss one of them.  Still each channel that is found has a
  slot, and its primary pairs lead to its handle (`Linked`).

  A registry that gave all channels up is linked again, and where that many are
  allowed it has room for as many channels as there are numbers, also when channels
  without a handle of their own stay in the arena for ever
  (`Linked.size_destroyAll_add_le`).
-/
import Lineup.Proofs.Registry.Fits

namespace Lineup.Registry

/-! ## §1. The invariant. -/

/-- What is found has a slot, and its primary pairs lead to it. -/
structure Findable (r : Registry) : Prop where
  /-- Whatever is found has a slot. -/
  seated : ∀ h c, r.getAny h = some c → h ∈ r.handles
  /-- A pair leads to the channel that claims it. -/
  leads : ∀ h c, r.getAny h = some c → ∀ x ∈ c.primaryKeys, r.lookupPrimary x.1 x.2 = some h

theorem Findable.mem_channels {r : Registry} (hr : r.Findable) {h : Handle} {c : Channel} :
    (h, c) ∈ r.channels ↔ r.getAny h = some c :=
  mem_channels_iff.trans (and_iff_right_of_imp (hr.seated h c))

theorem Findable.of_vacant {r : Registry} (hnone : ∀ h, r.getAny h = none) : r.Findable := by
  refine ⟨fun h c hc => ?_, fun h c hc => ?_⟩
  · rw [hnone] at hc
    cases hc
  · rw [hnone] at hc
    cases hc

theorem Indexed.findable {r : Registry} (hr : r.Indexed) : r.Findable where
  seated := fun _ _ hc => hr.mem_handles hc
  leads := fun h c hc x hx => (hr.primary.lookup_iff x.1 x.2 h).2 ⟨c, hc, hx⟩

/-- A registry in which channels can be found, taken in and given up. -/
structure Linked (r : Registry) : Prop extends Findable r where
  /-- The free list is right. -/
  arena : r.arena.Counted
  /-- There are no more places than channels are allowed. -/
  places_le : r.arena.places.size ≤ r.maxChannels
  /-- No pair stands twice in a chain. -/
  sound : r.primaryMap.Sound

theorem linked_empty (config : RegistryConfig) : (empty config).Linked where
  toFindable := .of_vacant Arena.resolve_empty
  arena := Arena.sound_empty.toCounted
  places_le := Nat.zero_le _
  sound := AddressMap.sound_empty _

namespace Linked

variable {r r' : Registry}

/-- Only arena, slots and primary pairs matter. -/
theorem congr (hr : r.Linked) (h : r' = { r with
    byKey := r'.byKey, feedbackMap := r'.feedbackMap, counters := r'.counters,
    lastRefresh := r'.lastRefresh }) : r'.Linked := by
  rw [h]
  exact ⟨⟨hr.seated, hr.leads⟩, hr.arena, hr.places_le, hr.sound⟩

/-! ## §2. The invariant survives every operation. -/

/-- An arena in which nothing new is found changes nothing else. -/
theorem withArena (hr : r.Linked) {a : Arena Channel} (ha : a.Counted)
    (hle : a.places.size ≤ r.maxChannels) (hsub : ∀ h c, a.resolve h = some c → r.getAny h = some c) :
    ({ r with arena := a } : Registry).Linked where
  seated := fun h c hc => hr.seated h c (hsub h c hc)
  leads := fun h c hc => hr.leads h c (hsub h c hc)
  arena := ha
  places_le := hle
  sound := hr.sound

/-- A handle that is given out and withdrawn leaves nothing new to be found. -/
theorem withdraw (hr : r.Linked) (hlt : r.size < r.maxChannels) (c : Channel) :
    (({ r with arena := (r.arena.allocate (unmarked c)).2 } : Registry).withdraw
      (r.nextHandle c)).Linked := by
  have hcounted := hr.arena.allocate (unmarked c)
  have hplaces := hr.arena.places_allocate_le (unmarked c) hr.places_le hlt
  unfold Registry.withdraw
  split
  · next v a hrel =>
    refine hr.withArena (hcounted.release hrel) (Arena.places_release hrel ▸ hplaces)
      fun h d hd => ?_
    rw [Arena.resolve_release hrel] at hd
    split at hd
    · cases hd
    · next hne =>
      rcases hr.arena.resolve_allocate_cases hd with hold | ⟨hnew, -⟩
      · exact hold
      · exact absurd hnew hne
  · next hrel =>
    -- a handle whose place has no number stood for nothing from the start
    refine hr.withArena hcounted hplaces fun h d hd => ?_
    rcases hr.arena.resolve_allocate_cases hd with hold | ⟨rfl, -⟩
    · exact hold
    · have hnone := (Arena.release_eq_none_iff _ _).1 hrel
      rw [show (r.arena.allocate (unmarked c)).2.resolve (r.nextHandle c) = some d from hd] at hnone
      cases hnone

theorem insert (hr : r.Linked) (c : Channel) : (r.insert c).2.Linked := by
  rcases r.insert_outcome c with ⟨-, e, he⟩ | ⟨-, hlt, e, he⟩ | ⟨ha, p, f, hp, hf, hok⟩
  · rw [he]
    exact hr
  · rw [he]
    exact hr.withdraw hlt c
  rw [hok]
  have hmem : ∀ h, h ∈ (r.grownBy c p f).handles ↔ h = r.nextHandle c ∨ h ∈ r.handles := by
    intro h
    rw [show (r.grownBy c p f).handles = (occupy (r.nextHandle c) r.slots).filterMap id from rfl,
      (occupy_perm _ _).mem_iff, List.mem_cons]
    rfl
  have hlookup : ∀ x : Ipv4 × UInt16, (r.grownBy c p f).lookupPrimary x.1 x.2
      = if x ∈ c.primaryKeys then some (r.nextHandle c) else r.lookupPrimary x.1 x.2 :=
    fun x => AddressMap.lookup_insertAll hp x.1 x.2
  refine ⟨⟨fun h d hd => ?_, fun h d hd x hx => ?_⟩, hr.arena.allocate _,
    hr.arena.places_allocate_le _ hr.places_le ha.room, hr.sound.insertAll hp⟩
  · rw [hmem]
    rcases hr.arena.resolve_allocate_cases hd with hold | ⟨hnew, -⟩
    · exact Or.inr (hr.seated h d hold)
    · exact Or.inl hnew
  · rw [hlookup]
    rcases hr.arena.resolve_allocate_cases hd with hold | ⟨rfl, rfl, -⟩
    · -- the pairs of an old channel were claimed, so the new one does not claim them
      have hleads := hr.leads h d hold x hx
      rw [if_neg, hleads]
      intro hx'
      rw [(ha.primary x hx').2] at hleads
      cases hleads
    · rw [if_pos (show x ∈ c.primaryKeys from hx)]
      rfl

/-- A channel that is given up is not found any more; its key and its pairs may stay behind. -/
theorem detach (hr : r.Linked) {h : Handle} {c : Channel} (hd : r.detach h = .ok (c, r')) :
    r'.Linked ∧ ∀ k, r'.getAny k = if k = h then none else r.getAny k := by
  obtain ⟨a, hrel, rfl⟩ := detach_eq_ok_iff.1 hd
  have hget := Arena.resolve_release hrel
  -- what is still found has another handle and was found before
  have hstill : ∀ k d, a.resolve k = some d → k ≠ h ∧ r.getAny k = some d := by
    intro k d hk
    rw [hget] at hk
    split at hk
    · cases hk
    · next hne => exact ⟨hne, hk⟩
  refine ⟨⟨⟨fun k d hk => ?_, fun k d hk => hr.leads k d (hstill k d hk).2⟩,
    hr.arena.release hrel, Arena.places_release hrel ▸ hr.places_le, hr.sound⟩, hget⟩
  obtain ⟨hne, hold⟩ := hstill k d hk
  show k ∈ (vacate h r.slots).filterMap id
  rw [filterMap_vacate]
  exact (List.mem_erase_of_ne hne).2 (hr.seated k d hold)

theorem detachIfThere (hr : r.Linked) (h : Handle) : (r.detachIfThere h).Linked := by
  unfold Registry.detachIfThere
  split
  · next c r' hd => exact (hr.detach hd).1
  · exact hr

theorem delete (hr : r.Linked) {h : Handle} {c : Channel} (hd : r.delete h = .ok (c, r')) :
    r'.Linked := by
  obtain ⟨r₁, hdet, rfl⟩ := delete_eq_ok_iff.1 hd
  obtain ⟨hr₁, hget⟩ := hr.detach hdet
  obtain ⟨a, hrel, rfl⟩ := detach_eq_ok_iff.1 hdet
  have hc : r.getAny h = some c := Arena.resolve_of_release hrel
  refine ⟨⟨hr₁.seated, fun k d hk x hx => ?_⟩, hr₁.arena, hr₁.places_le, hr.sound.eraseAll _⟩
  have hleads : r.lookupPrimary x.1 x.2 = some k := hr₁.leads k d hk x hx
  show (r.primaryMap.eraseAll c.primaryKeys).lookup x.1 x.2 = some k
  rw [hr.sound.lookup_eraseAll, if_neg]
  · exact hleads
  · -- a pair of the deleted channel leads to its handle only
    intro hx'
    have hgone := hget k
    rw [if_pos (Option.some.inj (hleads.symm.trans (hr.leads h c hc x hx')))] at hgone
    exact absurd (hgone.symm.trans hk) (by simp)

theorem counted_detachIfThere (h : Handle) (hr : r.arena.Counted) :
    (r.detachIfThere h).arena.Counted := by
  unfold Registry.detachIfThere
  split
  · next c r' hd =>
    obtain ⟨a, hrel, rfl⟩ := detach_eq_ok_iff.1 hd
    exact hr.release hrel
  · exact hr

/-- No channel is found once all were given up. -/
theorem getAny_destroyAll (hr : r.Linked) (h : Handle) : r.destroyAll.getAny h = none := by
  show (r.handles.foldl Registry.detachIfThere r).getAny h = none
  rw [(r.detachEach_outcome r.handles).1]
  split
  · rfl
  · next hh =>
    cases hc : r.getAny h with
    | none => rfl
    | some c => exact absurd (hr.seated h c hc) hh

theorem destroyAll (hr : r.Linked) : r.destroyAll.Linked where
  toFindable := .of_vacant hr.getAny_destroyAll
  arena := detachEach_preserves (P := fun r => r.arena.Counted)
    (fun _ h hr => counted_detachIfThere h hr) hr.arena r.handles
  places_le := by
    rw [places_destroyAll, show r.destroyAll.maxChannels = r.maxChannels from
      congrArg RegistryConfig.maxChannels r.config_destroyAll]
    exact hr.places_le
  sound := AddressMap.sound_clear _

/-! ## §3. Beginning anew. -/

/-- **A registry that gave all channels up has room for as many as there are numbers**, if
that many are allowed. -/
theorem size_destroyAll_add_le (hr : r.Linked) {n : Nat} (hn : n ≤ UInt32.size)
    (hmax : n ≤ r.maxChannels) : r.destroyAll.size + n ≤ r.maxChannels := by
  have hnext := hr.destroyAll
  have hmax' : r.destroyAll.maxChannels = r.maxChannels :=
    congrArg RegistryConfig.maxChannels r.config_destroyAll
  -- what stays in the arena has a place without a number
  have hfree := hnext.arena.le_length_free hr.getAny_destroyAll
  have hadd : r.destroyAll.size + _ = _ := hnext.arena.size_add
  have hle := hnext.places_le
  omega

end Linked

/-- **A list that fits is taken in where nothing of it is claimed**, as far as there is
room, whatever else is known of the registry. -/
theorem exists_insertAll {r : Registry} {cs : List Channel} (hf : Fits cs)
    (hkey : ∀ c ∈ cs, r.findByKey c.key = none)
    (hprimary : ∀ c ∈ cs, ∀ x ∈ c.primaryKeys, r.lookupPrimary x.1 x.2 = none)
    (hfeedback : ∀ c ∈ cs, ∀ x ∈ c.feedbackKeys, r.lookupFeedback x.1 x.2 = none)
    (hroom : r.size + cs.length ≤ r.maxChannels) :
    ∃ r', Coordinator.insertAll r cs = .ok r' := by
  induction cs generalizing r with
  | nil => exact ⟨r, rfl⟩
  | cons c cs ih =>
    rw [List.length_cons] at hroom
    have hclaim := hf.claimable c List.mem_cons_self
    have hadmits : r.Admits c := ⟨hkey c List.mem_cons_self, by omega, hclaim.primary_nodup,
      fun x hx => ⟨hclaim.primary_port x hx, hprimary c List.mem_cons_self x hx⟩,
      hclaim.feedback_nodup,
      fun x hx => ⟨hclaim.feedback_port x hx, hfeedback c List.mem_cons_self x hx⟩⟩
    rcases r.insert_outcome c with ⟨hno, -⟩ | ⟨hno, -⟩ | ⟨-, p, f, hp, hf', hok⟩
    · exact absurd hadmits hno
    · exact absurd hadmits hno
    -- the channels behind it have other keys and other pairs
    have hkeys := List.nodup_cons.1 hf.keys
    have hpairs := List.nodup_append.1 (List.flatMap_cons ▸ hf.primary)
    have hrepair := List.nodup_append.1 (List.flatMap_cons ▸ hf.feedback)
    have hkey' : ∀ d ∈ cs, (r.grownBy c p f).findByKey d.key = none := by
      intro d hd
      have hne : (d.key == c.key) = false :=
        beq_false_of_ne fun heq => hkeys.1 (List.mem_map.2 ⟨d, hd, heq⟩)
      show ((c.key, r.nextHandle c) :: r.byKey).lookup d.key = none
      rw [List.lookup_cons, hne]
      exact hkey d (List.mem_cons_of_mem _ hd)
    have hprimary' : ∀ d ∈ cs, ∀ x ∈ d.primaryKeys,
        (r.grownBy c p f).lookupPrimary x.1 x.2 = none := by
      intro d hd x hx
      have hnot : x ∉ c.primaryKeys := fun hx' =>
        hpairs.2.2 x hx' x (List.mem_flatMap.2 ⟨d, hd, hx⟩) rfl
      show p.lookup x.1 x.2 = none
      rw [AddressMap.lookup_insertAll hp, if_neg hnot]
      exact hprimary d (List.mem_cons_of_mem _ hd) x hx
    have hfeedback' : ∀ d ∈ cs, ∀ x ∈ d.feedbackKeys,
        (r.grownBy c p f).lookupFeedback x.1 x.2 = none := by
      intro d hd x hx
      have hnot : x ∉ c.feedbackKeys := fun hx' =>
        hrepair.2.2 x hx' x (List.mem_flatMap.2 ⟨d, hd, hx⟩) rfl
      show f.lookup x.1 x.2 = none
      rw [AddressMap.lookup_insertAll hf', if_neg hnot]
      exact hfeedback d (List.mem_cons_of_mem _ hd) x hx
    have hsize : (r.grownBy c p f).size = r.size + 1 := Arena.size_allocate _ _
    obtain ⟨r', hall⟩ := ih (hf.sublist (List.sublist_cons_self c cs)) hkey' hprimary' hfeedback'
      (by rw [hsize, show (r.grownBy c p f).maxChannels = r.maxChannels from rfl]; omega)
    refine ⟨r', ?_⟩
    unfold Coordinator.insertAll
    rw [hok]
    exact hall

end Lineup.Registry
