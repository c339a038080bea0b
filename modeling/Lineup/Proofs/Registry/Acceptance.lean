/-
  Lineup.Proofs.Registry.Acceptance
  ─────────────────────────────────
  **WHICH CHANNEL A REGISTRY TAKES IN, AND WHERE.**  A registry decides by looking into a
  list of keys and into the chains of two maps.  Seen from outside it decides by rules about
  the channels it holds: the key of the new one is none of theirs, there is room, no pair of
  the new one has port 0, stands twice or is claimed by one of them (`Suits`).

  A channel that is taken in gets the first vacant slot, or a new one behind all others; all
  it claims leads to its handle.  Slots, records and lookups of all other channels stay
  (`Joined`, `Undisturbed`), although chains and arena are shared with them.

  Main results:
    * `getElem?_occupy` — which slot a new handle takes;
    * `Indexed.admits_iff` — what the indices decide is what the rules decide;
    * `insert_verdict` — which rule a refusal names;
    * `Reached.insert_decides` — both for every registry that steps lead to;
    * `Reached.exists_refused_beyond` — why places are asked to have numbers there.
-/
import Lineup.Proofs.Registry.Refusal

namespace Lineup

open Text

/-! ## §1. What is there stays. -/

namespace Arena

variable {α : Type} {a : Arena α}

/-- Where all numbers are taken, no handle leads to a new place. -/
theorem resolve_allocate_of_full (hfull : ¬a.Open) (v : α) (k : Handle) :
    (a.allocate v).2.resolve k = a.resolve k := by
  obtain ⟨hfree, hle⟩ := Classical.not_imp.1 hfull
  have hlt : k.index.toNat < a.places.size :=
    Nat.lt_of_lt_of_le k.index.toNat_lt (Nat.not_lt.1 hle)
  unfold allocate resolve
  rw [hfree]
  dsimp only
  rw [Array.getElem?_push, if_neg (Nat.ne_of_lt hlt)]

/-- A new value is seen through its own handle only. -/
theorem Counted.resolve_allocate_of_ne (ha : a.Counted) (v : α) {k : Handle}
    (hk : k ≠ (a.allocate v).1) : (a.allocate v).2.resolve k = a.resolve k := by
  by_cases hroom : a.Open
  · rw [ha.resolve_allocate hroom, if_neg hk]
  · exact resolve_allocate_of_full hroom v k

/-- What stood for a value stands for it, whatever the new handle is. -/
theorem Counted.resolve_allocate_of_some (ha : a.Counted) (v : α) {k : Handle} {w : α}
    (hw : a.resolve k = some w) : (a.allocate v).2.resolve k = some w := by
  by_cases hroom : a.Open
  · rw [ha.resolve_allocate hroom, if_neg]
    · exact hw
    · rintro rfl
      rw [ha.resolve_new hroom] at hw
      cases hw
  · rw [resolve_allocate_of_full hroom, hw]

end Arena

namespace Registry

variable {r r' : Registry} {c : Channel} {h : Handle}

/-! ## §2. The slot of a new handle. -/

/-- **A new handle takes the first vacant slot**, or a new one where none is vacant. All other
slots stay. -/
theorem getElem?_occupy (h : Handle) (slots : List (Option Handle)) (i : Nat) :
    (occupy h slots)[i]? = if i = slots.findIdx (·.isNone) then some (some h) else slots[i]? := by
  induction slots generalizing i with
  | nil =>
    cases i with
    | zero => rfl
    | succ i => rfl
  | cons slot slots ih =>
    cases slot with
    | none =>
      rw [List.findIdx_cons]
      cases i with
      | zero => rfl
      | succ i => rfl
    | some k =>
      -- an occupied slot in front moves all others by one
      rw [List.findIdx_cons]
      cases i with
      | zero => rfl
      | succ i =>
        show (occupy h slots)[i]? = if i + 1 = slots.findIdx (·.isNone) + 1 then _ else slots[i]?
        rw [ih]
        simp only [Nat.add_right_cancel_iff]

/-- So an occupied slot stays occupied by the same handle. -/
theorem getElem?_occupy_of_some {slots : List (Option Handle)} {i : Nat} {k : Handle}
    (hk : slots[i]? = some (some k)) : (occupy h slots)[i]? = some (some k) := by
  rw [getElem?_occupy, if_neg]
  · exact hk
  · -- the first vacant slot is vacant, or there is no such slot
    rintro rfl
    obtain ⟨hlt, hget⟩ := List.getElem?_eq_some_iff.1 hk
    have hvacant := List.findIdx_getElem (w := hlt)
    rw [hget] at hvacant
    cases hvacant

/-! ## §3. The rules. -/

/-- The pairs of a channel can be claimed beside those of others. -/
structure Unclaimed (pairs : Channel → List (Ipv4 × UInt16)) (cs : List Channel) (c : Channel) :
    Prop where
  /-- No port is 0. -/
  port : ∀ x ∈ pairs c, x.2 ≠ 0
  /-- No pair stands twice. -/
  nodup : (pairs c).Nodup
  /-- No other channel has one of the pairs. -/
  apart : ∀ x ∈ pairs c, ∀ d ∈ cs, x ∉ pairs d

/-- What the channels of a registry ask of a new one. -/
structure Suits (r : Registry) (c : Channel) : Prop where
  /-- None of them has its key. -/
  key : ∀ d ∈ r.records, d.key ≠ c.key
  /-- There is room for it. -/
  room : r.size < r.maxChannels
  /-- Its primary stream and error correction are apart from theirs. -/
  primary : Unclaimed Channel.primaryKeys r.records c
  /-- So are its feedback target and its stream for repair. -/
  feedback : Unclaimed Channel.feedbackKeys r.records c

/-- A key leads nowhere exactly if no channel has it. -/
theorem Indexed.findByKey_eq_none_iff (hr : r.Indexed) {k : SessionKey} :
    r.findByKey k = none ↔ ∀ d ∈ r.records, d.key ≠ k := by
  constructor
  · intro hnone d hd hkey
    obtain ⟨h, hget⟩ := hr.mem_records.1 hd
    rw [(hr.byKey k h).2 ⟨d, hget, hkey⟩] at hnone
    cases hnone
  · intro hall
    rw [Option.eq_none_iff_forall_ne_some]
    intro h hfound
    obtain ⟨d, hget, hkey⟩ := (hr.byKey k h).1 hfound
    exact hall d (hr.mem_records.2 ⟨h, hget⟩) hkey

/-- A pair leads nowhere exactly if no channel claims it. -/
theorem Indexed.lookup_eq_none_iff (hr : r.Indexed) {m : AddressMap}
    {pairs : Channel → List (Ipv4 × UInt16)} (hm : m.Indexes pairs r.getAny)
    {x : Ipv4 × UInt16} : m.lookup x.1 x.2 = none ↔ ∀ d ∈ r.records, x ∉ pairs d := by
  constructor
  · intro hnone d hd hx
    obtain ⟨h, hget⟩ := hr.mem_records.1 hd
    rw [(hm.lookup_iff x.1 x.2 h).2 ⟨d, hget, hx⟩] at hnone
    cases hnone
  · intro hall
    exact hm.lookup_eq_none fun h d hget => hall d (hr.mem_records.2 ⟨h, hget⟩)

theorem Indexed.unclaimed_iff (hr : r.Indexed) {m : AddressMap}
    {pairs : Channel → List (Ipv4 × UInt16)} (hm : m.Indexes pairs r.getAny) :
    Unclaimed pairs r.records c ↔
      (pairs c).Nodup ∧ ∀ x ∈ pairs c, x.2 ≠ 0 ∧ m.lookup x.1 x.2 = none := by
  simp only [hr.lookup_eq_none_iff hm]
  constructor
  · intro hfree
    exact ⟨hfree.nodup, fun x hx => ⟨hfree.port x hx, hfree.apart x hx⟩⟩
  · rintro ⟨hnodup, hall⟩
    exact ⟨fun x hx => (hall x hx).1, hnodup, fun x hx => (hall x hx).2⟩

/-- **What the indices decide is what the rules decide.** -/
theorem Indexed.admits_iff (hr : r.Indexed) : r.Admits c ↔ r.Suits c := by
  constructor
  · intro ha
    exact ⟨hr.findByKey_eq_none_iff.1 ha.key, ha.room,
      (hr.unclaimed_iff hr.primary).2 ⟨ha.primary_nodup, ha.primary⟩,
      (hr.unclaimed_iff hr.feedback).2 ⟨ha.feedback_nodup, ha.feedback⟩⟩
  · intro hs
    obtain ⟨hpn, hp⟩ := (hr.unclaimed_iff hr.primary).1 hs.primary
    obtain ⟨hfn, hf⟩ := (hr.unclaimed_iff hr.feedback).1 hs.feedback
    exact ⟨hr.findByKey_eq_none_iff.2 hs.key, hs.room, hpn, hp, hfn, hf⟩

/-! ## §4. Why a channel is refused. -/

/-- **The first rule that a channel breaks is the one it is refused for**: its key is known,
there is no room, or a pair of its two lists cannot be claimed. -/
theorem insert_verdict (r : Registry) (c : Channel) : (r.insert c).1.map (fun _ => ()) =
    if (r.findByKey c.key).isSome then .error (.alreadyExists c.key)
    else if r.maxChannels ≤ r.size then .error (.capacityExceeded r.maxChannels)
    else
      ((r.primaryMap.insertAll c.primaryKeys (r.nextHandle c)).1.mapError (.mapConflict c.key)) >>=
        fun _ => (r.feedbackMap.insertAll c.feedbackKeys (r.nextHandle c)).1.mapError
          (.mapConflict c.key) := by
  by_cases hkey : (r.findByKey c.key).isSome
  · rw [if_pos hkey]
    unfold insert
    rw [if_pos hkey]
    rfl
  rw [if_neg hkey]
  by_cases hfull : r.maxChannels ≤ r.size
  · rw [if_pos hfull]
    unfold insert
    rw [if_neg hkey, if_pos hfull]
    rfl
  rw [if_neg hfull, insert_of_room (by simpa using hkey) (Nat.lt_of_not_le hfull)]
  rcases r.primaryMap.insertAll c.primaryKeys (r.nextHandle c) with ⟨e | _, p⟩
  · rfl
  rcases r.feedbackMap.insertAll c.feedbackKeys (r.nextHandle c) with ⟨e | _, f⟩
  · rfl
  · rfl

/-! ## §5. What comes of it. -/

/-- A registry beside the one that a channel was taken into. -/
structure Joined (r r' : Registry) (c : Channel) (h : Handle) : Prop where
  /-- The handle takes the first vacant slot, or a new one where none is vacant. -/
  slots : ∀ i : Nat, r'.slots[i]? =
    if i = r.slots.findIdx (·.isNone) then some (some h) else r.slots[i]?
  /-- It stood for nothing before, and stands for the channel, unmarked, where places can be
  numbered. -/
  record : r.size < UInt32.size → r.getAny h = none ∧ r'.getAny h = some (unmarked c)
  /-- Every other handle stands for what it stood for. -/
  others : ∀ k, k ≠ h → r'.getAny k = r.getAny k
  /-- The key of the channel leads to its handle, and every other key where it led. -/
  key : ∀ k, r'.findByKey k = if k = c.key then some h else r.findByKey k
  /-- So do the pairs of its primary stream and of its error correction. -/
  primary : ∀ x : Ipv4 × UInt16, r'.lookupPrimary x.1 x.2 =
    if x ∈ c.primaryKeys then some h else r.lookupPrimary x.1 x.2
  /-- And those of its feedback target and of its stream for repair. -/
  feedback : ∀ x : Ipv4 × UInt16, r'.lookupFeedback x.1 x.2 =
    if x ∈ c.feedbackKeys then some h else r.lookupFeedback x.1 x.2

/-- A channel whose slots, record and lookups stay. -/
structure Undisturbed (r r' : Registry) (k : Handle) (d : Channel) : Prop where
  slot : ∀ i : Nat, r.slots[i]? = some (some k) → r'.slots[i]? = some (some k)
  record : r'.getAny k = some d
  key : r'.findByKey d.key = r.findByKey d.key
  primary : ∀ x ∈ d.primaryKeys, r'.lookupPrimary x.1 x.2 = r.lookupPrimary x.1 x.2
  feedback : ∀ x ∈ d.feedbackKeys, r'.lookupFeedback x.1 x.2 = r.lookupFeedback x.1 x.2

/-- A key in front of a list leads to its own entry. -/
theorem lookup_cons_key (entries : List (SessionKey × Handle)) (key k : SessionKey) (h : Handle) :
    ((key, h) :: entries).lookup k = if k = key then some h else entries.lookup k := by
  rw [List.lookup_cons]
  by_cases hk : k = key
  · simp [hk]
  · rw [beq_false_of_ne hk, if_neg hk]

/-- What is known of a registry that took a channel in: it admitted the channel, and has grown
by it. -/
theorem grown_of_insert (hok : r.insert c = (.ok h, r')) : r.Admits c ∧ h = r.nextHandle c ∧
    ∃ p f, r.primaryMap.insertAll c.primaryKeys h = (.ok (), p) ∧
      r.feedbackMap.insertAll c.feedbackKeys h = (.ok (), f) ∧ r' = r.grownBy c p f := by
  rcases r.insert_outcome c with ⟨-, e, he⟩ | ⟨-, -, e, he⟩ | ⟨ha, p, f, hp, hf, hgrown⟩
  · rw [hok] at he
    cases he
  · rw [hok] at he
    cases he
  · rw [hok] at hgrown
    cases hgrown
    exact ⟨ha, rfl, p, f, hp, hf, rfl⟩

/-- **A registry that took a channel in has grown by it, and by nothing else.** -/
theorem joined_of_insert (hr : r.arena.Counted) (hok : r.insert c = (.ok h, r')) :
    Joined r r' c h := by
  obtain ⟨-, rfl, p, f, hp, hf, rfl⟩ := grown_of_insert hok
  refine ⟨getElem?_occupy _ r.slots, fun hsize => ?_, fun k hk => ?_, fun k => ?_, fun x => ?_,
    fun x => ?_⟩
  · have hopen := hr.isOpen hsize
    refine ⟨hr.resolve_new hopen (unmarked c), ?_⟩
    show (r.arena.allocate (unmarked c)).2.resolve (r.nextHandle c) = _
    rw [hr.resolve_allocate hopen]
    exact if_pos rfl
  · exact hr.resolve_allocate_of_ne (unmarked c) hk
  · exact lookup_cons_key r.byKey c.key k _
  · exact AddressMap.lookup_insertAll hp x.1 x.2
  · exact AddressMap.lookup_insertAll hf x.1 x.2

/-- What a handle stood for before, it stands for. -/
theorem getAny_of_insert (hr : r.arena.Counted) (hok : r.insert c = (.ok h, r')) {k : Handle}
    {d : Channel} (hd : r.getAny k = some d) : r'.getAny k = some d := by
  obtain ⟨-, -, p, f, -, -, rfl⟩ := grown_of_insert hok
  exact hr.resolve_allocate_of_some (unmarked c) hd

/-- **A channel that the new one is apart from is not disturbed.** -/
theorem Joined.undisturbed (hj : Joined r r' c h) (hs : r.Suits c) {k : Handle} {d : Channel}
    (hd : d ∈ r.records) (hget : r'.getAny k = some d) : Undisturbed r r' k d := by
  refine ⟨fun i hi => ?_, hget, ?_, fun x hx => ?_, fun x hx => ?_⟩
  · rw [hj.slots, ← getElem?_occupy h, getElem?_occupy_of_some hi]
  · rw [hj.key, if_neg (hs.key d hd)]
  · rw [hj.primary, if_neg fun hmem => hs.primary.apart x hmem d hd hx]
  · rw [hj.feedback, if_neg fun hmem => hs.feedback.apart x hmem d hd hx]

/-! ## §6. Every registry. -/

/-- **Every registry that steps lead to is indexed**, as long as there are numbers for all of
its places, however many channels are allowed. -/
theorem Reached.indexed_of_places {config : RegistryConfig} (hr : Reached config r) :
    r.arena.places.size ≤ UInt32.size → r.Indexed := by
  induction hr with
  | empty => exact fun _ => indexed_empty config
  | step _ hs ih =>
    refine hs.preserves (P := fun r => r.arena.places.size ≤ UInt32.size → r.Indexed)
      (fun _ f hr hle => (hr hle).count f)
      (fun _ c hr hle => insert_of_places (·.toSeated) (fun hr hroom => hr.insert hroom c) hr hle)
      (fun r h c r' hr hd hle => ?_) (fun r hr hle => ?_) ih
    · obtain ⟨r₁, hdet, rfl⟩ := delete_eq_ok_iff.1 hd
      obtain ⟨a, hrel, rfl⟩ := detach_eq_ok_iff.1 hdet
      exact (hr (Nat.le_trans (Nat.le_of_eq (Arena.places_release hrel).symm) hle)).delete hd
    · rw [places_destroyAll] at hle
      exact (hr hle).destroyAll

/-- **A REGISTRY DECIDES BY THE RULES OF UNIQUENESS, AND BY NOTHING ELSE**, after any sequence of
steps: it takes a channel in exactly if the channel suits those it holds; then the channel has
the first vacant slot, or a new last one, all its lookups lead to its handle, and no other
channel is disturbed.

A handle numbers its place with 32 bits. Beyond as many places a channel may be held that no
handle stands for, and its key is refused although no scan finds it
(`Reached.exists_refused_beyond`); so the places are asked to have numbers, as they always do
where no more than 2³² channels are allowed. -/
theorem Reached.insert_decides {config : RegistryConfig} (hr : Reached config r)
    (hplaces : r.arena.places.size ≤ UInt32.size) (c : Channel) :
    ((∃ h r', r.insert c = (.ok h, r')) ↔ r.Suits c) ∧
      ∀ h r', r.insert c = (.ok h, r') →
        Joined r r' c h ∧ ∀ k d, (k, d) ∈ r.channels → Undisturbed r r' k d := by
  have hindexed := hr.indexed_of_places hplaces
  have harena := hr.linked.arena
  refine ⟨⟨?_, fun hs => (hindexed.admits_iff.2 hs).exists_insert⟩, fun h r' hok => ?_⟩
  · rintro ⟨h, r', hok⟩
    exact hindexed.admits_iff.1 (grown_of_insert hok).1
  · have hsuits := hindexed.admits_iff.1 (grown_of_insert hok).1
    have hjoined := joined_of_insert harena hok
    refine ⟨hjoined, fun k d hd => ?_⟩
    have hget := hindexed.mem_channels.1 hd
    exact hjoined.undisturbed hsuits (hindexed.mem_records.2 ⟨k, hget⟩)
      (getAny_of_insert harena hok hget)

/-- A registry whose first channel was given up again. -/
def vacated : Registry :=
  (((empty .standard).insert datagramChannel).2.insert
    (feedbackChannel "2" ⟨239, 0, 0, 2⟩)).2.deleteIfThere ⟨0, 0⟩

/-- What was given up is taken in again, in the first slot; a channel with the feedback target of
the one that is still there is not. -/
theorem Reached.insert_decides_vacated :
    Reached .standard vacated ∧ vacated.arena.places.size ≤ UInt32.size ∧
      vacated.slots = [none, some ⟨1, 0⟩] ∧ vacated.Suits datagramChannel ∧
      ¬vacated.Suits (feedbackChannel "3" ⟨239, 0, 0, 3⟩) ∧
      ∃ r', vacated.insert datagramChannel = (.ok ⟨0, 1⟩, r') ∧
        Joined vacated r' datagramChannel ⟨0, 1⟩ ∧
        Undisturbed vacated r' ⟨1, 0⟩ (feedbackChannel "2" ⟨239, 0, 0, 2⟩) := by
  have hreached : Reached .standard vacated :=
    .step (.step (.step .empty (.insert _)) (.insert _)) (.delete _)
  have hplaces : vacated.arena.places.size ≤ UInt32.size :=
    Nat.le_trans hreached.linked.places_le (by decide +kernel)
  have htaken : (vacated.insert datagramChannel).1 = .ok ⟨0, 1⟩ := by decide +kernel
  have hrefused : (vacated.insert (feedbackChannel "3" ⟨239, 0, 0, 3⟩)).1
      = .error (.mapConflict ⟨"-", "3", ⟨10, 0, 0, 1⟩⟩ (.duplicate ⟨10, 0, 0, 5⟩ 5001)) := by
    decide +kernel
  have hslots : vacated.slots = [none, some ⟨1, 0⟩] := by decide +kernel
  have hother : (⟨1, 0⟩, feedbackChannel "2" ⟨239, 0, 0, 2⟩) ∈ vacated.channels := by
    decide +kernel
  generalize vacated = r at hreached hplaces htaken hrefused hslots hother ⊢
  obtain ⟨hiff, hstay⟩ := hreached.insert_decides hplaces datagramChannel
  have hno := (hreached.insert_decides hplaces (feedbackChannel "3" ⟨239, 0, 0, 3⟩)).1
  have hok : r.insert datagramChannel = (.ok ⟨0, 1⟩, (r.insert datagramChannel).2) :=
    Prod.ext htaken rfl
  obtain ⟨hjoined, hothers⟩ := hstay _ _ hok
  refine ⟨hreached, hplaces, hslots, hiff.1 ⟨_, _, hok⟩, fun hs => ?_, _, hok, hjoined,
    hothers _ _ hother⟩
  obtain ⟨h, r', hfound⟩ := hno.2 hs
  rw [hfound] at hrefused
  cases hrefused

/-! ## §7. Beyond all numbers. -/

/-- A pair for each number: three octets and a port spell it. -/
def numberedPair (n : Nat) : Ipv4 × UInt16 :=
  (⟨239, .ofNat (n / 65535 / 65536), .ofNat (n / 65535 / 256), .ofNat (n / 65535)⟩,
    .ofNat (n % 65535 + 1))

theorem port_numberedPair (n : Nat) : (numberedPair n).2 ≠ 0 := by
  intro hzero
  have hport := congrArg UInt16.toNat hzero
  simp only [numberedPair, UInt16.toNat_ofNat', UInt16.toNat_zero] at hport
  omega

theorem numberedPair_inj {m n : Nat} (hm : m ≤ UInt32.size) (hn : n ≤ UInt32.size)
    (h : numberedPair m = numberedPair n) : m = n := by
  obtain ⟨haddr, hport⟩ := Prod.mk.inj h
  obtain ⟨-, hb, hc, hd⟩ := Ipv4.mk.inj haddr
  have hb' := congrArg UInt8.toNat hb
  have hc' := congrArg UInt8.toNat hc
  have hd' := congrArg UInt8.toNat hd
  have hport' := congrArg UInt16.toNat hport
  simp only [UInt8.toNat_ofNat', UInt16.toNat_ofNat'] at hb' hc' hd' hport'
  have hsize : UInt32.size = 4294967296 := rfl
  omega

/-- A channel for bare datagrams with a key and a pair of its own. -/
def numbered (n : Nat) : Channel :=
  { datagramChannel with
    key := ⟨"-", decimal n, ⟨10, 0, 0, 1⟩⟩
    primary := { datagramChannel.primary with
      endpoint := { datagramChannel.primary.endpoint with
        addr := (numberedPair n).1
        rtpPort := (numberedPair n).2 } } }

theorem key_numbered_inj {m n : Nat} (h : (numbered m).key = (numbered n).key) : m = n := by
  have hid : decimal m = decimal n := congrArg SessionKey.sessionId h
  have hm : digits? (m + n + 1) (decimal m).toList = some m := digits?_repr (by omega)
  have hn : digits? (m + n + 1) (decimal n).toList = some n := digits?_repr (by omega)
  rw [hid, hn] at hm
  exact (Option.some.inj hm).symm

theorem claimable_numbered (n : Nat) : Claimable (numbered n) where
  primary_nodup := List.nodup_singleton _
  primary_port := by
    intro x hx
    rw [List.mem_singleton.1 hx]
    exact port_numberedPair n
  feedback_nodup := List.nodup_nil
  feedback_port := by
    intro x hx
    cases hx

/-- So there are more channels that fit beside each other than there are numbers. -/
theorem fits_numbered {n : Nat} (hn : n ≤ UInt32.size + 1) :
    Fits ((List.range n).map numbered) := by
  have hapart : ∀ i ∈ List.range n, i ≤ UInt32.size := by
    intro i hi
    have hlt := List.mem_range.1 hi
    omega
  refine ⟨?_, ?_, ?_, ?_⟩
  · rw [List.map_map]
    exact List.nodup_range.map fun i j h => key_numbered_inj h
  · have hpairs : ((List.range n).map numbered).flatMap (·.primaryKeys)
        = (List.range n).map numberedPair := by
      rw [List.flatMap_map]
      exact List.map_eq_flatMap.symm
    rw [hpairs]
    exact List.Nodup.map_on (fun i hi j hj h => numberedPair_inj (hapart i hi) (hapart j hj) h)
      List.nodup_range
  · have hnone : ((List.range n).map numbered).flatMap (·.feedbackKeys) = [] := by
      rw [List.flatMap_map]
      exact List.flatMap_eq_nil_iff.2 fun i _ => rfl
    rw [hnone]
    exact List.nodup_nil
  · intro c hc
    obtain ⟨i, -, rfl⟩ := List.mem_map.1 hc
    exact claimable_numbered i

/-- A registry that has given out all numbers. -/
theorem exists_full : ∃ r, Reached ⟨.linear, UInt32.size + 2, 0⟩ r ∧ r.Indexed ∧
    r.records = (List.range UInt32.size).map numbered ∧ r.size = UInt32.size ∧
    r.maxChannels = UInt32.size + 2 ∧ ¬r.arena.Open := by
  -- the number is kept from being computed
  obtain ⟨n, hn⟩ : ∃ n, n = UInt32.size := ⟨_, rfl⟩
  rw [← hn]
  have hlen : ((List.range n).map numbered).length = n := by
    rw [List.length_map, List.length_range]
  obtain ⟨r, hins, happ⟩ := insertAll_of_fits (indexed_empty ⟨.linear, n + 2, 0⟩)
    (packed_empty _) ((List.range n).map numbered) (fits_numbered (by omega))
    (by rw [hlen]; show 0 + n ≤ n + 2; omega) (by rw [hlen]; show min (n + 2) (0 + n) ≤ _; omega)
  have hunmarked : ((List.range n).map numbered).map unmarked = (List.range n).map numbered := by
    rw [List.map_map]
    rfl
  have hsize : r.size = n := by
    rw [happ.size (indexed_empty _).toSeated, List.length_map, hlen]
    exact Nat.zero_add n
  refine ⟨r, ?_, happ.indexed, by rw [happ.records, hunmarked]; rfl, hsize, happ.maxChannels, ?_⟩
  · exact insertAll_preserves (fun _ c hr => .step hr (.insert c)) .empty hins
  · intro hopen
    have hadd := happ.indexed.arena.size_add
    have hle := happ.indexed.arena.places_le
    rw [show r.arena.size = n from hsize] at hadd
    -- so many channels leave no place free
    have hfree : r.arena.free = [] := List.length_eq_zero_iff.1 (by omega)
    have hlt := hopen hfree
    omega

/-- **BEYOND ALL NUMBERS THE RULES DO NOT DECIDE**: one more channel gets the handle of the first
one. No scan finds it, and yet its key is refused. -/
theorem Reached.exists_refused_beyond :
    ∃ config r c, Reached config r ∧ UInt32.size < r.arena.places.size ∧ r.Suits c ∧
      (r.insert c).1 = .error (.alreadyExists c.key) := by
  obtain ⟨r, hreached, hindexed, hrecords, hsize, hmax, hfull⟩ := exists_full
  have hfits : Fits (r.records ++ [numbered UInt32.size]) := by
    rw [hrecords, ← List.map_singleton, ← List.map_append, ← List.range_succ]
    exact fits_numbered (Nat.le_refl _)
  obtain ⟨h, r', hok⟩ := (hfits.admits hindexed (by omega)).exists_insert
  have hjoined := joined_of_insert hindexed.arena.toCounted hok
  obtain ⟨-, -, p, f, -, -, hgrown⟩ := grown_of_insert hok
  have hreached' : Reached ⟨.linear, UInt32.size + 2, 0⟩ r' := by
    have hstep := hreached.step (.insert (numbered UInt32.size))
    rwa [hok] at hstep
  have hsize' : r'.size = UInt32.size + 1 := by
    rw [hgrown, ← hsize]
    exact Arena.size_allocate _ _
  -- what a scan finds was there before
  have hscan : ∀ d ∈ r'.records, ∃ i < UInt32.size, d = numbered i := by
    intro d hd
    obtain ⟨k, hget⟩ := exists_of_mem_records hd
    have hsame : r'.getAny k = r.getAny k := by
      rw [hgrown]
      exact Arena.resolve_allocate_of_full hfull _ k
    have hmem := hindexed.mem_records.2 ⟨k, hsame ▸ hget⟩
    rw [hrecords] at hmem
    obtain ⟨i, hi, rfl⟩ := List.mem_map.1 hmem
    exact ⟨i, List.mem_range.1 hi, rfl⟩
  refine ⟨_, r', numbered UInt32.size, hreached', ?_, ⟨fun d hd hkey => ?_, ?_, ?_, ?_⟩, ?_⟩
  · have hadd := hreached'.linked.arena.size_add
    rw [show r'.arena.size = UInt32.size + 1 from hsize'] at hadd
    omega
  · obtain ⟨i, hi, rfl⟩ := hscan d hd
    exact absurd (key_numbered_inj hkey) (Nat.ne_of_lt hi)
  · rw [hsize', hgrown]
    show _ < r.maxChannels
    omega
  · have hclaim := claimable_numbered UInt32.size
    -- different numbers are spelled by different pairs
    refine ⟨hclaim.primary_port, hclaim.primary_nodup, fun x hx d hd hx' => ?_⟩
    obtain ⟨i, hi, rfl⟩ := hscan d hd
    rw [List.mem_singleton.1 hx] at hx'
    have heq := numberedPair_inj (Nat.le_refl _) (Nat.le_of_lt hi) (List.mem_singleton.1 hx')
    exact absurd heq.symm (Nat.ne_of_lt hi)
  · have hclaim := claimable_numbered UInt32.size
    exact ⟨hclaim.feedback_port, hclaim.feedback_nodup, fun x hx => by cases hx⟩
  · unfold insert
    rw [if_pos]
    show (r'.findByKey (numbered UInt32.size).key).isSome = true
    rw [hjoined.key, if_pos rfl]
    rfl

end Registry

end Lineup
