/-
  Lineup.Proofs.Registry.Fits
  ───────────────────────────
  **WHICH CHANNELS CAN STAND BESIDE EACH OTHER.**  A list of channels fits if no
  key and no pair stands in it twice and no pair has port 0; the order of the list
  does not matter.  The channels of an indexed registry fit, and a registry takes
  in every list that fits behind its own channels, as far as there is room.

  A registry without a vacancy before its last channel (`Packed`) takes channels
  in at the end: its records grow like a list (`Appended`).
-/
import Lineup.Proofs.Registry.Reached
import Lineup.Update.Coordinator
import Mathlib.Data.List.Nodup
import Mathlib.Data.List.Flatten

namespace Lineup.Registry

/-! ## §1. Records. -/

/-- The channels in the order of their slots, without their handles. -/
def records (r : Registry) : List Channel := r.channels.map (·.2)

theorem Seated.length_records {r : Registry} (hr : r.Seated) : r.records.length = r.size := by
  rw [hr.size_eq, ← hr.map_channels, records, List.length_map, List.length_map]

/-- No more channels are listed than there are numbers for places. -/
theorem Seated.length_records_le {r : Registry} (hr : r.Seated) :
    r.records.length ≤ UInt32.size := by
  have hadd := hr.arena.size_add
  have hle := hr.arena.places_le
  rw [hr.length_records]
  show r.arena.size ≤ _
  omega

theorem Seated.mem_records {r : Registry} (hr : r.Seated) {c : Channel} :
    c ∈ r.records ↔ ∃ h, r.getAny h = some c := by
  unfold records
  rw [List.mem_map]
  constructor
  · rintro ⟨⟨h, d⟩, hmem, rfl⟩
    exact ⟨h, hr.mem_channels.1 hmem⟩
  · rintro ⟨h, hc⟩
    exact ⟨(h, c), hr.mem_channels.2 hc, rfl⟩

theorem records_eq (r : Registry) : r.records = r.handles.filterMap r.getAny := by
  unfold records channels
  rw [List.map_filterMap]
  apply List.filterMap_congr
  intro h _
  cases r.getAny h with
  | none => rfl
  | some c => rfl

theorem exists_of_mem_records {r : Registry} {c : Channel} (hc : c ∈ r.records) :
    ∃ h, r.getAny h = some c := by
  rw [records_eq] at hc
  obtain ⟨h, -, hget⟩ := List.mem_filterMap.1 hc
  exact ⟨h, hget⟩

theorem records_of_no_handle {r : Registry} (hnone : r.handles = []) : r.records = [] := by
  simp [records, channels, hnone]

/-! ## §2. Lists that fit. -/

/-- Channels that can stand beside each other. -/
structure Fits (cs : List Channel) : Prop where
  keys : (cs.map (·.key)).Nodup
  primary : (cs.flatMap (·.primaryKeys)).Nodup
  feedback : (cs.flatMap (·.feedbackKeys)).Nodup
  claimable : ∀ c ∈ cs, Claimable c

theorem Fits.sublist {cs ds : List Channel} (hf : Fits ds) (hs : cs.Sublist ds) : Fits cs where
  keys := hf.keys.sublist (hs.map _)
  primary := hf.primary.sublist (hs.flatMap _)
  feedback := hf.feedback.sublist (hs.flatMap _)
  claimable := fun c hc => hf.claimable c (hs.subset hc)

theorem Fits.head {cs ds : List Channel} {c : Channel} (hf : Fits (cs ++ c :: ds)) :
    Fits (cs ++ [c]) :=
  hf.sublist ((List.Sublist.refl cs).append (List.singleton_sublist.2 List.mem_cons_self))

theorem fits_singleton {c : Channel} (hc : Claimable c) : Fits [c] where
  keys := List.nodup_singleton _
  primary := by simpa using hc.primary_nodup
  feedback := by simpa using hc.feedback_nodup
  claimable := fun d hd => List.mem_singleton.1 hd ▸ hc

theorem claimable_unmarked {c : Channel} : Claimable (unmarked c) ↔ Claimable c :=
  ⟨fun h => ⟨h.primary_nodup, h.primary_port, h.feedback_nodup, h.feedback_port⟩,
    fun h => ⟨h.primary_nodup, h.primary_port, h.feedback_nodup, h.feedback_port⟩⟩

/-- Marks do not matter. -/
theorem fits_map_unmarked {cs : List Channel} : Fits (cs.map unmarked) ↔ Fits cs := by
  have hkeys : (cs.map unmarked).map (·.key) = cs.map (·.key) := by
    rw [List.map_map]
    rfl
  have hclaim : (∀ c ∈ cs.map unmarked, Claimable c) ↔ ∀ c ∈ cs, Claimable c := by
    rw [List.forall_mem_map]
    exact forall₂_congr fun c _ => claimable_unmarked
  have hprimary : (cs.map unmarked).flatMap (·.primaryKeys) = cs.flatMap (·.primaryKeys) :=
    List.flatMap_map ..
  have hfeedback : (cs.map unmarked).flatMap (·.feedbackKeys) = cs.flatMap (·.feedbackKeys) :=
    List.flatMap_map ..
  constructor
  · intro h
    exact ⟨hkeys ▸ h.keys, hprimary ▸ h.primary, hfeedback ▸ h.feedback, hclaim.1 h.claimable⟩
  · intro h
    exact ⟨hkeys ▸ h.keys, hprimary ▸ h.primary, hfeedback ▸ h.feedback, hclaim.2 h.claimable⟩

theorem unmarked_unmarked (c : Channel) : unmarked (unmarked c) = unmarked c := rfl

/-- **The channels of an indexed registry fit.** -/
theorem Indexed.fits {r : Registry} (hr : r.Indexed) : Fits r.records := by
  have hapart := hr.keepsApart
  -- different entries of the scan have different handles
  have hpair : r.channels.Pairwise fun x y => x.1 ≠ y.1 := by
    rw [← List.pairwise_map, hr.map_channels]
    exact hr.nodup
  have himp : ∀ R : Channel → Channel → Prop,
      (∀ h c k d, (h, c) ∈ r.channels → (k, d) ∈ r.channels → h ≠ k → R c d) →
      r.records.Pairwise R := by
    intro R hR
    unfold records
    rw [List.pairwise_map]
    exact hpair.imp_of_mem fun hx hy hne => hR _ _ _ _ hx hy hne
  have hclaim : ∀ c ∈ r.records, Claimable c := by
    intro c hc
    obtain ⟨h, hh⟩ := hr.mem_records.1 hc
    exact hr.claimable h c hh
  refine ⟨?_, ?_, ?_, hclaim⟩
  · rw [List.Nodup, List.pairwise_map]
    exact himp _ fun h c k d hc hd hne => (hapart h c k d hc hd hne).1
  · rw [List.nodup_flatMap]
    exact ⟨fun c hc => (hclaim c hc).primary_nodup,
      himp _ fun h c k d hc hd hne => (hapart h c k d hc hd hne).2.1⟩
  · rw [List.nodup_flatMap]
    exact ⟨fun c hc => (hclaim c hc).feedback_nodup,
      himp _ fun h c k d hc hd hne => (hapart h c k d hc hd hne).2.2⟩

/-- A channel that fits behind those of a registry is admitted, if there is
room. -/
theorem Fits.admits {r : Registry} {c : Channel} (hr : r.Indexed)
    (hf : Fits (r.records ++ [c])) (hlt : r.size < r.maxChannels) : r.Admits c := by
  have hclaim := hf.claimable c (by simp)
  -- a pair of the new channel that leads somewhere would stand in the list twice
  have hdisj : ∀ (pairs : Channel → List (Ipv4 × UInt16)),
      ((r.records ++ [c]).flatMap pairs).Nodup →
      ∀ x ∈ pairs c, ∀ h d, r.getAny h = some d → x ∉ pairs d := by
    intro pairs hn x hx h d hd hx'
    rw [List.flatMap_append, List.nodup_append] at hn
    have hmem : x ∈ r.records.flatMap pairs :=
      List.mem_flatMap.2 ⟨d, hr.mem_records.2 ⟨h, hd⟩, hx'⟩
    exact hn.2.2 x hmem x (by simpa using hx) rfl
  refine ⟨?_, hlt, hclaim.primary_nodup, fun x hx => ⟨hclaim.primary_port x hx, ?_⟩,
    hclaim.feedback_nodup, fun x hx => ⟨hclaim.feedback_port x hx, ?_⟩⟩
  · cases hk : r.findByKey c.key with
    | none => rfl
    | some h =>
      obtain ⟨d, hd, hkey⟩ := (hr.byKey c.key h).1 hk
      have hn := hf.keys
      rw [List.map_append, List.nodup_append] at hn
      have hmem : d.key ∈ r.records.map (·.key) :=
        List.mem_map_of_mem (hr.mem_records.2 ⟨h, hd⟩)
      exact absurd hkey (hn.2.2 d.key hmem c.key (by simp))
  · exact hr.primary.lookup_eq_none (hdisj _ hf.primary x hx)
  · exact hr.feedback.lookup_eq_none (hdisj _ hf.feedback x hx)

/-! ## §3. Growing at the end. -/

/-- A registry that has grown by channels at the end. -/
structure Appended (r r' : Registry) (cs : List Channel) : Prop where
  indexed : r'.Indexed
  packed : r'.Packed
  records : r'.records = r.records ++ cs
  config : r'.config = r.config

namespace Appended

variable {r r' r'' : Registry} {cs ds : List Channel}

theorem refl (hr : r.Indexed) (hp : r.Packed) : Appended r r [] :=
  ⟨hr, hp, by rw [List.append_nil], rfl⟩

theorem trans (h : Appended r r' cs) (h' : Appended r' r'' ds) : Appended r r'' (cs ++ ds) where
  indexed := h'.indexed
  packed := h'.packed
  records := by rw [h'.records, h.records, List.append_assoc]
  config := h'.config.trans h.config

theorem size (h : Appended r r' cs) (hr : r.Seated) : r'.size = r.size + cs.length := by
  rw [← h.indexed.length_records, h.records, List.length_append, hr.length_records]

theorem maxChannels (h : Appended r r' cs) : r'.maxChannels = r.maxChannels :=
  congrArg RegistryConfig.maxChannels h.config

theorem channelType (h : Appended r r' cs) : r'.channelType = r.channelType :=
  congrArg RegistryConfig.channelType h.config

end Appended

section Insert

variable {r : Registry} {c : Channel}

theorem handles_grownBy_of_packed (hp : r.Packed) {p f : AddressMap} :
    (r.grownBy c p f).handles = r.handles ++ [r.nextHandle c] ∧ (r.grownBy c p f).Packed := by
  obtain ⟨n, hn⟩ := hp
  have hslots : (r.grownBy c p f).slots
      = (r.handles ++ [r.nextHandle c]).map some ++ List.replicate (n - 1) none := by
    show occupy (r.nextHandle c) r.slots = _
    rw [hn, occupy_packed]
  have hhandles : (r.grownBy c p f).handles = r.handles ++ [r.nextHandle c] := by
    unfold handles
    rw [hslots]
    simp [handles, List.filterMap_map]
  exact ⟨hhandles, n - 1, by rw [hslots, hhandles]⟩

/-- **A channel that is taken in stands behind the others**, unmarked. -/
theorem Indexed.appended_insert (hr : r.Indexed) (hp : r.Packed) (hroom : r.HasRoom)
    {h : Handle} {r' : Registry} (hok : r.insert c = (.ok h, r')) :
    Appended r r' [unmarked c] := by
  have hindexed := hr.insert hroom c
  have hconfig := config_insert r c
  rw [hok] at hindexed hconfig
  rcases hr.insert_cases hroom c with ⟨-, e, a, he, -⟩ | ⟨ha, p, f, -, -, hgrown⟩
  · rw [hok] at he
    cases he
  · rw [hok] at hgrown
    cases hgrown
    obtain ⟨hhandles, hpacked⟩ := handles_grownBy_of_packed (c := c) (p := p) (f := f) hp
    have hlt := hroom ha.room
    refine ⟨hindexed, hpacked, ?_, hconfig⟩
    -- the new handle is none of the old ones, so their channels are the same
    have hold : ∀ k ∈ r.handles, (r.grownBy c p f).getAny k = r.getAny k := by
      intro k hk
      rw [hr.toSeated.getAny_grownBy hlt, if_neg]
      rintro rfl
      have := (hr.resident _).1 hk
      rw [hr.toSeated.getAny_nextHandle hlt] at this
      cases this
    have hnew : (r.grownBy c p f).getAny (r.nextHandle c) = some (unmarked c) := by
      rw [hr.toSeated.getAny_grownBy hlt, if_pos rfl]
    have hsame : (r.handles.filterMap fun k => ((r.grownBy c p f).getAny k).map fun d => (k, d))
        = r.channels := by
      apply List.filterMap_congr
      intro k hk
      rw [hold k hk]
    -- the scan goes through the old handles first and then comes to the new one
    unfold records
    rw [show (r.grownBy c p f).channels = r.channels ++ [(r.nextHandle c, unmarked c)] by
      conv_lhs => unfold channels
      rw [hhandles, List.filterMap_append, hsame]
      simp [hnew]]
    simp

theorem Admits.exists_insert (ha : r.Admits c) : ∃ h r', r.insert c = (.ok h, r') := by
  rcases r.insert_outcome c with ⟨hno, -⟩ | ⟨hno, -⟩ | ⟨-, p, f, -, -, hok⟩
  · exact absurd ha hno
  · exact absurd ha hno
  · exact ⟨_, _, hok⟩

end Insert

/-! ## §4. Taking in a list. -/

/-- There are numbers for the places of some more channels, as far as they are
allowed. -/
def RoomFor (r : Registry) (n : Nat) : Prop := min r.maxChannels (r.size + n) ≤ UInt32.size

theorem RoomFor.hasRoom {r : Registry} {n : Nat} (h : r.RoomFor (n + 1)) : r.HasRoom := by
  intro hlt
  unfold RoomFor at h
  omega

theorem roomFor_of_le {r : Registry} (h : r.maxChannels ≤ UInt32.size) (n : Nat) : r.RoomFor n :=
  Nat.le_trans (Nat.min_le_left _ _) h

theorem insert_unmarked (r : Registry) (c : Channel) : r.insert (unmarked c) = r.insert c := rfl

theorem insertAll_cons_eq_ok {r r' : Registry} {c : Channel} {cs : List Channel}
    (hok : Coordinator.insertAll r (c :: cs) = .ok r') :
    ∃ h r₁, r.insert c = (.ok h, r₁) ∧ Coordinator.insertAll r₁ cs = .ok r' := by
  unfold Coordinator.insertAll at hok
  split at hok
  · next h r₁ heq => exact ⟨h, r₁, heq, hok⟩
  · cases hok

/-- What survives every single channel that is taken in survives all. -/
theorem insertAll_preserves {P : Registry → Prop}
    (hinsert : ∀ r c, P r → P (Registry.insert r c).2) {r next : Registry} (hr : P r)
    {cs : List Channel} (hok : Coordinator.insertAll r cs = .ok next) : P next := by
  induction cs generalizing r with
  | nil =>
    obtain rfl := Except.ok.inj hok
    exact hr
  | cons c cs ih =>
    obtain ⟨h, r₁, hins, hrest⟩ := insertAll_cons_eq_ok hok
    have hnext := hinsert r c hr
    rw [hins] at hnext
    exact ih hnext hrest

theorem insertAll_map_unmarked (r : Registry) (cs : List Channel) :
    Coordinator.insertAll r (cs.map unmarked) = Coordinator.insertAll r cs := by
  induction cs generalizing r with
  | nil => rfl
  | cons c cs ih =>
    rw [List.map_cons]
    unfold Coordinator.insertAll
    rw [insert_unmarked]
    split
    · exact ih _
    · rfl

/-- **A list that fits is taken in as a whole**, behind the channels that are
there. -/
theorem insertAll_of_fits {r : Registry} (hr : r.Indexed) (hp : r.Packed) (cs : List Channel)
    (hf : Fits (r.records ++ cs)) (hmax : r.size + cs.length ≤ r.maxChannels)
    (hroom : r.RoomFor cs.length) :
    ∃ r', Coordinator.insertAll r cs = .ok r' ∧ Appended r r' (cs.map unmarked) := by
  induction cs generalizing r with
  | nil => exact ⟨r, rfl, Appended.refl hr hp⟩
  | cons c cs ih =>
    rw [List.length_cons] at hmax hroom
    have hadmits := hf.head.admits hr (by omega)
    obtain ⟨h, r', hok⟩ := hadmits.exists_insert
    have happ := hr.appended_insert hp hroom.hasRoom hok
    have hsize := happ.size hr.toSeated
    have hmax' := happ.maxChannels
    simp only [List.length_singleton] at hsize
    -- what is left of the list fits behind the registry as it is now
    have hfits : Fits (r'.records ++ cs) := by
      rw [← fits_map_unmarked, happ.records, List.append_assoc]
      rw [← fits_map_unmarked] at hf
      simpa [unmarked_unmarked] using hf
    obtain ⟨r'', hall, happ'⟩ := ih happ.indexed happ.packed hfits (by omega) (by
      unfold RoomFor at hroom ⊢
      omega)
    refine ⟨r'', ?_, happ.trans happ'⟩
    unfold Coordinator.insertAll
    rw [hok]
    exact hall

end Lineup.Registry
