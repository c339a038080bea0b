/-
  Lineup.Proofs.Registry.Indexed
  ──────────────────────────────
  **THE INDICES FIND WHAT A SCAN FINDS.**  A key leads to a handle exactly if the
  channel of that handle has the key, and a pair leads to a handle exactly if the
  channel of that handle claims the pair (`Indexed`).  So no two channels share a
  key or a pair.

  What taking a channel in can do is said once, in `insert_outcome`: it is refused,
  and then only the arena has changed, behind what its handles stand for (where slots
  and arena agree: `Seated.insert_cases`); or all of `Admits` holds, and slots, keys
  and pairs have grown by the channel.
-/
import Lineup.Proofs.Registry.Seats

namespace Lineup

open Registry

/-! ## §1. One address map. -/

/-- An address map that leads from the pairs of channels to their handles. -/
structure AddressMap.Indexes (m : AddressMap) (pairs : Channel → List (Ipv4 × UInt16))
    (find : Handle → Option Channel) : Prop where
  sound : m.Sound
  lookup_iff : ∀ a p h, m.lookup a p = some h ↔ ∃ c, find h = some c ∧ (a, p) ∈ pairs c

namespace AddressMap.Indexes

variable {m m' : AddressMap} {pairs : Channel → List (Ipv4 × UInt16)}
  {find find' : Handle → Option Channel} {h : Handle} {c : Channel}

theorem congr (hm : m.Indexes pairs find) (hfind : ∀ k, find' k = find k) :
    m.Indexes pairs find' where
  sound := hm.sound
  lookup_iff := by
    intro a p k
    rw [hfind]
    exact hm.lookup_iff a p k

theorem of_vacant (hs : m.Sound) (hm : ∀ a p, m.lookup a p = none) (hfind : ∀ k, find k = none) :
    m.Indexes pairs find where
  sound := hs
  lookup_iff := by
    intro a p k
    simp [hm, hfind]

/-- Two channels that claim one pair are one. -/
theorem eq_of_mem (hm : m.Indexes pairs find) {k : Handle} {d : Channel} {x : Ipv4 × UInt16}
    (hh : find h = some c) (hk : find k = some d) (hx : x ∈ pairs c) (hx' : x ∈ pairs d) :
    h = k := by
  have h1 := (hm.lookup_iff x.1 x.2 h).2 ⟨c, hh, hx⟩
  have h2 := (hm.lookup_iff x.1 x.2 k).2 ⟨d, hk, hx'⟩
  rw [h1] at h2
  exact Option.some.inj h2

/-- A pair leads nowhere exactly if no channel claims it. -/
theorem lookup_eq_none (hm : m.Indexes pairs find) {x : Ipv4 × UInt16}
    (hnone : ∀ k d, find k = some d → x ∉ pairs d) : m.lookup x.1 x.2 = none := by
  cases hl : m.lookup x.1 x.2 with
  | none => rfl
  | some k =>
    obtain ⟨d, hd, hx⟩ := (hm.lookup_iff x.1 x.2 k).1 hl
    exact absurd hx (hnone k d hd)

theorem insertAll (hm : m.Indexes pairs find) (hfresh : find h = none)
    (hfind : ∀ k, find' k = if k = h then some c else find k)
    (hok : m.insertAll (pairs c) h = (.ok (), m')) : m'.Indexes pairs find' where
  sound := hm.sound.insertAll hok
  lookup_iff := by
    have hfree := ((insertAll_succeeds_iff m (pairs c)).1 (by rw [hok])).2
    intro a p k
    rw [lookup_insertAll hok, hfind]
    by_cases hmem : (a, p) ∈ pairs c
    · have hnone := (hfree _ hmem).2
      rw [if_pos hmem, Option.some.injEq]
      by_cases hk : k = h
      · simp [hk, hmem]
      · -- whoever claimed the pair before would be found
        have hno : ¬∃ d, find k = some d ∧ (a, p) ∈ pairs d := by
          rw [← hm.lookup_iff, hnone]
          simp
        simp only [if_neg hk, hno, iff_false]
        exact Ne.symm hk
    · rw [if_neg hmem, hm.lookup_iff]
      by_cases hk : k = h
      · simp [hk, hfresh, hmem]
      · simp [hk]

theorem eraseAll (hm : m.Indexes pairs find) (hh : find h = some c)
    (hfind : ∀ k, find' k = if k = h then none else find k) :
    (m.eraseAll (pairs c)).Indexes pairs find' where
  sound := hm.sound.eraseAll _
  lookup_iff := by
    intro a p k
    rw [hm.sound.lookup_eraseAll, hfind]
    by_cases hmem : (a, p) ∈ pairs c
    · rw [if_pos hmem]
      by_cases hk : k = h
      · simp [hk]
      · simp only [if_neg hk, reduceCtorEq, false_iff]
        rintro ⟨d, hd, hx⟩
        exact hk (hm.eq_of_mem hd hh hx hmem)
    · rw [if_neg hmem, hm.lookup_iff]
      by_cases hk : k = h
      · simp [hk, hh, hmem]
      · simp [hk]

end AddressMap.Indexes

/-! ## §2. Taking a channel in. -/

namespace Registry

/-- A channel before it is marked. -/
def unmarked (c : Channel) : Channel := { c with used := false }

/-- What a registry asks of a channel before it takes it in. -/
structure Admits (r : Registry) (c : Channel) : Prop where
  key : r.findByKey c.key = none
  room : r.size < r.maxChannels
  primary_nodup : c.primaryKeys.Nodup
  primary : ∀ k ∈ c.primaryKeys, k.2 ≠ 0 ∧ r.lookupPrimary k.1 k.2 = none
  feedback_nodup : c.feedbackKeys.Nodup
  feedback : ∀ k ∈ c.feedbackKeys, k.2 ≠ 0 ∧ r.lookupFeedback k.1 k.2 = none

/-- The handle that the next channel gets. -/
def nextHandle (r : Registry) (c : Channel) : Handle := (r.arena.allocate (unmarked c)).1

/-- A registry that took a channel in, with these maps. -/
def grownBy (r : Registry) (c : Channel) (primary feedback : AddressMap) : Registry :=
  { r with
    arena := (r.arena.allocate (unmarked c)).2
    primaryMap := primary
    feedbackMap := feedback
    byKey := (c.key, r.nextHandle c) :: r.byKey
    slots := occupy (r.nextHandle c) r.slots }

/-- A channel with a new key, for which there is room, is taken in if its pairs
can be claimed. -/
theorem insert_of_room {r : Registry} {c : Channel} (hkey : r.findByKey c.key = none)
    (hlt : r.size < r.maxChannels) : r.insert c =
      match r.primaryMap.insertAll c.primaryKeys (r.nextHandle c) with
      | (.error e, p) => (.error (.mapConflict c.key e),
          { r with arena := (r.arena.allocate (unmarked c)).2, primaryMap := p }.withdraw
            (r.nextHandle c))
      | (.ok (), p) =>
        match r.feedbackMap.insertAll c.feedbackKeys (r.nextHandle c) with
        | (.error e, f) => (.error (.mapConflict c.key e),
            { r with
              arena := (r.arena.allocate (unmarked c)).2
              primaryMap := p.eraseAll c.primaryKeys
              feedbackMap := f }.withdraw (r.nextHandle c))
        | (.ok (), f) => (.ok (r.nextHandle c), r.grownBy c p f) := by
  unfold insert
  rw [hkey, if_neg (by simp), if_neg (Nat.not_le.2 hlt)]
  rfl

/-- **What taking a channel in can do**, whatever is known of the registry: nothing at all,
give a handle out and withdraw it, or add the channel. -/
theorem insert_outcome (r : Registry) (c : Channel) :
    (¬r.Admits c ∧ ∃ e, r.insert c = (.error e, r)) ∨
    (¬r.Admits c ∧ r.size < r.maxChannels ∧ ∃ e, r.insert c = (.error e,
      ({ r with arena := (r.arena.allocate (unmarked c)).2 } : Registry).withdraw
        (r.nextHandle c))) ∨
    (r.Admits c ∧ ∃ p f,
      r.primaryMap.insertAll c.primaryKeys (r.nextHandle c) = (.ok (), p)
      ∧ r.feedbackMap.insertAll c.feedbackKeys (r.nextHandle c) = (.ok (), f)
      ∧ r.insert c = (.ok (r.nextHandle c), r.grownBy c p f)) := by
  by_cases hkey : r.findByKey c.key = none
  swap
  · refine Or.inl ⟨fun ha => hkey ha.key, .alreadyExists c.key, ?_⟩
    unfold insert
    rw [if_pos (Option.isSome_iff_ne_none.2 hkey)]
  by_cases hlt : r.size < r.maxChannels
  swap
  · refine Or.inl ⟨fun ha => hlt ha.room, .capacityExceeded r.maxChannels, ?_⟩
    unfold insert
    rw [hkey, if_neg (by simp), if_pos (Nat.le_of_not_lt hlt)]
  -- from here on a handle is given out; a refusal gives it back
  have hprimary := AddressMap.insertAll_succeeds_iff (h := r.nextHandle c) r.primaryMap
    c.primaryKeys
  have hfeedback := AddressMap.insertAll_succeeds_iff (h := r.nextHandle c) r.feedbackMap
    c.feedbackKeys
  rcases r.primaryMap.insertAll_outcome c.primaryKeys (r.nextHandle c) with
    ⟨e, he⟩ | ⟨p, hp, hpback, -⟩
  · -- the first list was refused: the map is as it was
    refine Or.inr (Or.inl ⟨fun ha => ?_, hlt, .mapConflict c.key e, ?_⟩)
    · rw [he] at hprimary
      exact absurd (hprimary.2 ⟨ha.primary_nodup, ha.primary⟩) (by simp)
    · rw [insert_of_room hkey hlt, he]
  rcases r.feedbackMap.insertAll_outcome c.feedbackKeys (r.nextHandle c) with
    ⟨e, he⟩ | ⟨f, hf, -, -⟩
  · -- the second list was refused: the claims of the first are given up
    refine Or.inr (Or.inl ⟨fun ha => ?_, hlt, .mapConflict c.key e, ?_⟩)
    · rw [he] at hfeedback
      exact absurd (hfeedback.2 ⟨ha.feedback_nodup, ha.feedback⟩) (by simp)
    · rw [insert_of_room hkey hlt, hp, he]
      simp only [hpback]
  -- both lists were claimed: this is all that is asked of a channel
  have h1 := hprimary.1 (by rw [hp])
  have h2 := hfeedback.1 (by rw [hf])
  refine Or.inr (Or.inr ⟨⟨hkey, hlt, h1.1, h1.2, h2.1, h2.2⟩, p, f, hp, hf, ?_⟩)
  rw [insert_of_room hkey hlt, hp, hf]

/-- **Where slots and arena agree, a refusal is seen in the arena only**, behind what its
handles stand for. -/
theorem Seated.insert_cases {r : Registry} (hr : r.Seated)
    (hroom : r.size < r.maxChannels → r.size < UInt32.size) (c : Channel) :
    (¬r.Admits c ∧ ∃ e a, r.insert c = (.error e, { r with arena := a }) ∧ r.arena.Alike a) ∨
    (r.Admits c ∧ ∃ p f,
      r.primaryMap.insertAll c.primaryKeys (r.nextHandle c) = (.ok (), p)
      ∧ r.feedbackMap.insertAll c.feedbackKeys (r.nextHandle c) = (.ok (), f)
      ∧ r.insert c = (.ok (r.nextHandle c), r.grownBy c p f)) := by
  rcases r.insert_outcome c with ⟨hno, e, he⟩ | ⟨hno, hlt, e, he⟩ | hok
  · exact Or.inl ⟨hno, e, r.arena, he, hr.arena.alike_self⟩
  · obtain ⟨b, hrel, hb⟩ := hr.arena.release_allocate (hroom hlt) (unmarked c)
    refine Or.inl ⟨hno, e, b, ?_, hb⟩
    rw [he]
    simp only [withdraw, nextHandle, hrel]
  · exact Or.inr hok

/-! ## §3. The invariant. -/

/-- The pairs of a channel can be claimed side by side. -/
structure Claimable (c : Channel) : Prop where
  primary_nodup : c.primaryKeys.Nodup
  primary_port : ∀ k ∈ c.primaryKeys, k.2 ≠ 0
  feedback_nodup : c.feedbackKeys.Nodup
  feedback_port : ∀ k ∈ c.feedbackKeys, k.2 ≠ 0

instance (c : Channel) : Decidable (Claimable c) :=
  decidable_of_iff (c.primaryKeys.Nodup ∧ (∀ k ∈ c.primaryKeys, k.2 ≠ 0) ∧
      c.feedbackKeys.Nodup ∧ ∀ k ∈ c.feedbackKeys, k.2 ≠ 0)
    ⟨fun h => ⟨h.1, h.2.1, h.2.2.1, h.2.2.2⟩,
      fun h => ⟨h.primary_nodup, h.primary_port, h.feedback_nodup, h.feedback_port⟩⟩

/-- Slots and arena agree, and each index leads exactly where a scan of the
channels leads. -/
structure Indexed (r : Registry) : Prop extends Seated r where
  byKey : ∀ k h, r.findByKey k = some h ↔ ∃ c, r.getAny h = some c ∧ c.key = k
  primary : r.primaryMap.Indexes Channel.primaryKeys r.getAny
  feedback : r.feedbackMap.Indexes Channel.feedbackKeys r.getAny
  claimable : ∀ h c, r.getAny h = some c → Claimable c
  size_le : r.size ≤ r.maxChannels

theorem indexed_empty (config : RegistryConfig) : (empty config).Indexed where
  toSeated := seated_empty config
  byKey := by
    intro k h
    simp [findByKey, getAny, empty, Arena.resolve_empty]
  primary := .of_vacant (AddressMap.sound_empty _) (AddressMap.lookup_empty _)
    Arena.resolve_empty
  feedback := .of_vacant (AddressMap.sound_empty _) (AddressMap.lookup_empty _)
    Arena.resolve_empty
  claimable := by
    intro h c hc
    rw [show (empty config).getAny h = none from Arena.resolve_empty h] at hc
    cases hc
  size_le := Nat.zero_le _

theorem Seated.getAny_of_no_handle {r : Registry} (hr : r.Seated) (hnone : r.handles = [])
    (h : Handle) : r.getAny h = none := by
  cases hc : r.getAny h with
  | none => rfl
  | some c =>
    have := hr.mem_handles hc
    rw [hnone] at this
    cases this

theorem Vacant.indexed {r : Registry} (hr : r.Vacant) : r.Indexed := by
  have hget := hr.seated.getAny_of_no_handle hr.handles
  obtain ⟨p, hp⟩ := hr.primary
  obtain ⟨f, hf⟩ := hr.feedback
  refine ⟨hr.seated, fun k h => ?_, ?_, ?_, fun h c hc => ?_, ?_⟩
  · simp [findByKey, hr.byKey, hget]
  · rw [hp]
    exact .of_vacant p.sound_clear p.lookup_clear hget
  · rw [hf]
    exact .of_vacant f.sound_clear f.lookup_clear hget
  · rw [hget] at hc
    cases hc
  · rw [hr.seated.size_eq, hr.handles]
    exact Nat.zero_le _

namespace Indexed

variable {r : Registry}

/-- Two channels with one key are one. -/
theorem eq_of_key (hr : r.Indexed) {h k : Handle} {c d : Channel} (hc : r.getAny h = some c)
    (hd : r.getAny k = some d) (hkey : c.key = d.key) : h = k := by
  have h1 := (hr.byKey c.key h).2 ⟨c, hc, rfl⟩
  have h2 := (hr.byKey c.key k).2 ⟨d, hd, hkey.symm⟩
  rw [h1] at h2
  exact Option.some.inj h2

/-- Only the counters and the time of the last change may differ. -/
theorem congr (hr : r.Indexed) {r' : Registry}
    (h : r' = { r with counters := r'.counters, lastRefresh := r'.lastRefresh }) : r'.Indexed := by
  rw [h]
  exact ⟨hr.toSeated.congr rfl rfl, hr.byKey, hr.primary, hr.feedback, hr.claimable, hr.size_le⟩

theorem count (hr : r.Indexed) (f : Counters → Counters) : (r.count f).Indexed := hr.congr rfl

/-- An arena that stands for the same changes nothing. -/
theorem alike (hr : r.Indexed) {a : Arena Channel} (ha : r.arena.Alike a) :
    ({ r with arena := a } : Registry).Indexed := by
  have hget : ∀ h, ({ r with arena := a } : Registry).getAny h = r.getAny h := ha.resolve
  refine ⟨hr.toSeated.alike ha, fun k h => ?_, hr.primary.congr hget, hr.feedback.congr hget,
    fun h c hc => ?_, ?_⟩
  · rw [hget]
    exact hr.byKey k h
  · rw [hget] at hc
    exact hr.claimable h c hc
  · show a.size ≤ r.maxChannels
    rw [ha.size]
    exact hr.size_le

end Indexed

/-! ## §4. The invariant survives every operation. -/

section Grown

variable {r : Registry} {c : Channel} {p f : AddressMap}

theorem Seated.getAny_grownBy (hr : r.Seated) (hroom : r.size < UInt32.size) (k : Handle) :
    (r.grownBy c p f).getAny k
      = if k = r.nextHandle c then some (unmarked c) else r.getAny k :=
  hr.arena.resolve_allocate hroom (unmarked c) k

theorem Seated.getAny_nextHandle (hr : r.Seated) (hroom : r.size < UInt32.size) (c : Channel) :
    r.getAny (r.nextHandle c) = none :=
  hr.arena.resolve_new hroom (unmarked c)

theorem Seated.grownBy (hr : r.Seated) (hroom : r.size < UInt32.size) :
    (r.grownBy c p f).Seated :=
  hr.occupy hroom (unmarked c) rfl rfl

/-- A registry that took a channel in finds it, and all others as before. -/
theorem Indexed.grownBy (hr : r.Indexed) (hroom : r.size < UInt32.size) (ha : r.Admits c)
    (hp : r.primaryMap.insertAll c.primaryKeys (r.nextHandle c) = (.ok (), p))
    (hf : r.feedbackMap.insertAll c.feedbackKeys (r.nextHandle c) = (.ok (), f)) :
    (r.grownBy c p f).Indexed := by
  have hnew := hr.getAny_nextHandle hroom c
  have hget := fun k => hr.toSeated.getAny_grownBy (c := c) (p := p) (f := f) hroom k
  -- slots, keys, both maps, the claims of each channel and the size
  refine ⟨hr.toSeated.grownBy hroom, fun k h => ?_, ?_, ?_, fun h d hd => ?_, ?_⟩
  · -- the new key stands before all others in the index
    show ((c.key, r.nextHandle c) :: r.byKey).lookup k = some h ↔ _
    rw [List.lookup_cons, hget]
    by_cases hk : k = c.key
    · have hno : ¬∃ d, r.getAny h = some d ∧ d.key = c.key := by
        rw [← hr.byKey, ha.key]
        simp
      subst hk
      by_cases hh : h = r.nextHandle c
      · simp [hh, unmarked]
      · simp only [beq_self_eq_true, Option.some.injEq, if_neg hh, hno, iff_false]
        exact Ne.symm hh
    · have hbeq : (k == c.key) = false := by simpa using hk
      rw [hbeq]
      show r.findByKey k = some h ↔ _
      rw [hr.byKey]
      by_cases hh : h = r.nextHandle c
      · simp [hh, hnew, unmarked, Ne.symm hk]
      · simp [hh]
  · exact hr.primary.insertAll (c := unmarked c) hnew hget hp
  · exact hr.feedback.insertAll (c := unmarked c) hnew hget hf
  · rw [hget] at hd
    split at hd
    · cases hd
      exact ⟨ha.primary_nodup, fun k hk => (ha.primary k hk).1, ha.feedback_nodup,
        fun k hk => (ha.feedback k hk).1⟩
    · exact hr.claimable h d hd
  · show (r.arena.allocate (unmarked c)).2.size ≤ r.maxChannels
    rw [Arena.size_allocate]
    exact ha.room

end Grown

/-- A registry whose places can all be numbered. -/
def HasRoom (r : Registry) : Prop := r.size < r.maxChannels → r.size < UInt32.size

theorem hasRoom_of_le {r : Registry} (h : r.maxChannels ≤ UInt32.size) : r.HasRoom := by
  intro hlt
  omega

section Steps

variable {r : Registry}

theorem Seated.insert (hr : r.Seated) (hroom : r.HasRoom) (c : Channel) :
    (r.insert c).2.Seated := by
  rcases hr.insert_cases hroom c with ⟨-, e, a, he, ha⟩ | ⟨ha, p, f, -, -, hok⟩
  · rw [he]
    exact hr.alike ha
  · rw [hok]
    exact hr.grownBy (hroom ha.room)

theorem places_withdraw (r : Registry) (h : Handle) :
    (r.withdraw h).arena.places.size = r.arena.places.size := by
  unfold withdraw
  split
  · next v a hrel => exact Arena.places_release hrel
  · rfl

/-- What survives a channel that is taken in where places have numbers is known as soon as all
places have numbers afterwards. -/
theorem insert_of_places {P : Registry → Prop} {c : Channel} (hseated : P r → r.Seated)
    (hinsert : P r → r.HasRoom → P (r.insert c).2) (hr : r.arena.places.size ≤ UInt32.size → P r)
    (hle : (r.insert c).2.arena.places.size ≤ UInt32.size) : P (r.insert c).2 := by
  -- where a handle is given out, the new place or the old one has a number
  have key : (r.arena.allocate (unmarked c)).2.places.size ≤ UInt32.size → P (r.insert c).2 := by
    intro hplaces
    have hp := hr (Nat.le_trans (r.arena.places_le_allocate _) hplaces)
    have hlt := (hseated hp).arena.size_lt_places_allocate (unmarked c)
    exact hinsert hp fun _ => Nat.lt_of_lt_of_le hlt hplaces
  rcases r.insert_outcome c with ⟨-, e, he⟩ | ⟨-, -, e, he⟩ | ⟨-, p, f, -, -, hok⟩
  · rw [he] at hle ⊢
    exact hr hle
  · rw [he, places_withdraw] at hle
    exact key hle
  · rw [hok] at hle
    exact key hle

theorem Indexed.insert (hr : r.Indexed) (hroom : r.HasRoom) (c : Channel) :
    (r.insert c).2.Indexed := by
  rcases hr.insert_cases hroom c with ⟨-, e, a, he, ha⟩ | ⟨ha, p, f, hp, hf, hok⟩
  · rw [he]
    exact hr.alike ha
  · rw [hok]
    exact hr.grownBy (hroom ha.room) ha hp hf

/-- An index without a key leads from all other keys as before. -/
theorem lookup_without_key (entries : List (SessionKey × Handle)) (a k : SessionKey) :
    (entries.filter fun entry => entry.1 != a).lookup k
      = if k = a then none else entries.lookup k := by
  induction entries with
  | nil => simp
  | cons entry entries ih =>
    obtain ⟨b, h⟩ := entry
    -- entries of the key are passed over; the first other one decides
    by_cases hb : b = a
    · subst hb
      rw [List.filter_cons_of_neg (by simp), ih, List.lookup_cons]
      by_cases hk : k = b
      · simp [hk]
      · have hbeq : (k == b) = false := by simpa using hk
        simp [hk, hbeq]
    · rw [List.filter_cons_of_pos (by simpa using hb), List.lookup_cons, ih, List.lookup_cons]
      by_cases hk : k = b
      · subst hk
        simp [hb]
      · have hbeq : (k == b) = false := by simpa using hk
        simp [hbeq]

/-- A channel whose slot was given up takes its key and its pairs with it. -/
theorem Indexed.unindex (hr : r.Indexed) {h : Handle} {c : Channel} {r' : Registry}
    (hc : r.getAny h = some c) (hdet : Detached r r' h) : (r'.unindex c).Indexed := by
  have hget := hdet.getAny
  have hframe := hdet.frame
  -- slots, keys, both maps, the claims of each channel and the size
  refine ⟨?_, fun k j => ?_, ?_, ?_, fun j x hx => ?_, ?_⟩
  · exact hdet.seated.congr rfl rfl
  · have hkeys : r'.byKey = r.byKey := by rw [hframe]
    show (r'.byKey.filter fun entry => entry.1 != c.key).lookup k = some j
      ↔ ∃ x, r'.getAny j = some x ∧ x.key = k
    rw [hkeys, lookup_without_key, hget]
    by_cases hk : k = c.key
    · subst hk
      by_cases hj : j = h
      · simp [hj]
      · simp only [if_pos, if_neg hj, reduceCtorEq, false_iff]
        rintro ⟨x, hx, hkey⟩
        exact hj (hr.eq_of_key hx hc hkey)
    · rw [if_neg hk]
      show r.findByKey k = some j ↔ _
      rw [hr.byKey]
      by_cases hj : j = h
      · simp [hj, hc, Ne.symm hk]
      · simp [hj]
  · have hmap : r'.primaryMap = r.primaryMap := by rw [hframe]
    show (r'.primaryMap.eraseAll c.primaryKeys).Indexes _ _
    rw [hmap]
    exact hr.primary.eraseAll hc hget
  · have hmap : r'.feedbackMap = r.feedbackMap := by rw [hframe]
    show (r'.feedbackMap.eraseAll c.feedbackKeys).Indexes _ _
    rw [hmap]
    exact hr.feedback.eraseAll hc hget
  · have hx' : r'.getAny j = some x := hx
    rw [hget] at hx'
    split at hx'
    · cases hx'
    · exact hr.claimable j x hx'
  · have hmax : r'.maxChannels = r.maxChannels := by rw [hframe]
    show r'.size ≤ r'.maxChannels
    rw [hmax]
    exact Nat.le_trans (hdet.size_le hr.toSeated) hr.size_le

theorem delete_eq_ok_iff {h : Handle} {c : Channel} {r' : Registry} :
    r.delete h = .ok (c, r') ↔ ∃ r₁, r.detach h = .ok (c, r₁) ∧ r' = r₁.unindex c := by
  unfold Registry.delete
  cases hdet : r.detach h with
  | error e => simp [Except.map]
  | ok q =>
    obtain ⟨d, r₁⟩ := q
    simp only [Except.map, Except.ok.injEq, Prod.mk.injEq]
    constructor
    · rintro ⟨rfl, rfl⟩
      exact ⟨r₁, ⟨rfl, rfl⟩, rfl⟩
    · rintro ⟨r₂, ⟨rfl, rfl⟩, rfl⟩
      exact ⟨rfl, rfl⟩

theorem Seated.delete (hr : r.Seated) {h : Handle} {c : Channel} {r' : Registry}
    (hd : r.delete h = .ok (c, r')) : r'.Seated := by
  obtain ⟨r₁, hdet, rfl⟩ := delete_eq_ok_iff.1 hd
  exact (hr.detach hdet).2.seated.congr rfl rfl

theorem Indexed.delete (hr : r.Indexed) {h : Handle} {c : Channel} {r' : Registry}
    (hd : r.delete h = .ok (c, r')) : r'.Indexed := by
  obtain ⟨r₁, hdet, rfl⟩ := delete_eq_ok_iff.1 hd
  obtain ⟨hc, hdet⟩ := hr.toSeated.detach hdet
  exact hr.unindex hc hdet

theorem Indexed.destroyAll (hr : r.Indexed) : r.destroyAll.Indexed :=
  hr.toSeated.destroyAll_vacant.indexed

end Steps

end Registry

end Lineup
