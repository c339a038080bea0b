/-
  Lineup.Proofs.Update.Afresh
  ───────────────────────────
  **GIVING ALL CHANNELS UP IS BEGINNING AFRESH.**  A channel that was given up without its key
  and its pairs leaves them behind, and later channels are refused for them; none of this
  survives the end of all channels.  What does survive are vacant slots, used places and a free
  list in some order, so the next channels get other handles than in a new registry.

  Nobody who adds channels can tell.  Two registries with the same records in the same order,
  each without a gap (`Twin`), refuse the same channels for the same reasons and stay twins:
  one case for each way out of a call (`Twin.offer`), and an induction over the calls
  (`Twin.offers`).

  Main results:
    * `AddressMap.insertAll_fst_congr` — which pair of a list is refused depends on the pairs
      that are claimed, not on chains or handles;
    * `Live.begins_afresh` — after the end of all channels, every sequence of calls comes to
      what it comes to in a new registry.
-/
import Lineup.Proofs.Registry.Acceptance
import Lineup.Proofs.Update.Replacement

namespace Lineup

/-! ## §1. Maps that claim the same pairs. -/

namespace AddressMap

variable {m n : AddressMap} {h k : Handle}

/-- Whether a pair can be claimed, and why not, does not depend on who claims the others. -/
theorem insert_congr {addr : Ipv4} {port : UInt16}
    (hsame : m.lookup addr port = none ↔ n.lookup addr port = none) :
    (m.insert addr port h).map (fun _ => ()) = (n.insert addr port k).map (fun _ => ()) := by
  cases hm : m.insert addr port h with
  | ok m' =>
    obtain ⟨hport, hfree⟩ := exists_insert_iff.1 ⟨m', hm⟩
    obtain ⟨n', hn⟩ := (exists_insert_iff (h := k)).2 ⟨hport, hsame.1 hfree⟩
    rw [hn]
    rfl
  | error e =>
    cases hn : n.insert addr port k with
    | ok n' =>
      obtain ⟨hport, hfree⟩ := exists_insert_iff.1 ⟨n', hn⟩
      obtain ⟨m', hm'⟩ := (exists_insert_iff (h := h)).2 ⟨hport, hsame.2 hfree⟩
      rw [hm] at hm'
      cases hm'
    | error e' =>
      -- the port decides which of the two reasons it is, in both maps
      rcases insert_eq_error hm with ⟨hport, rfl⟩ | ⟨hport, -, rfl⟩
      · rcases insert_eq_error hn with ⟨-, rfl⟩ | ⟨hport', -⟩
        · rfl
        · exact absurd hport hport'
      · rcases insert_eq_error hn with ⟨hport', -⟩ | ⟨-, -, rfl⟩
        · exact absurd hport' hport
        · rfl

theorem insertFrom_fst_congr (hsame : ∀ a p, m.lookup a p = none ↔ n.lookup a p = none)
    (keys done done' : List (Ipv4 × UInt16)) :
    (insertFrom h done m keys).1 = (insertFrom k done' n keys).1 := by
  induction keys generalizing m n done done' with
  | nil => rfl
  | cons key keys ih =>
    have hstep := insert_congr (h := h) (k := k) (hsame key.1 key.2)
    unfold insertFrom
    cases hm : m.insert key.1 key.2 h with
    | error e =>
      cases hn : n.insert key.1 key.2 k with
      | error e' =>
        rw [hm, hn] at hstep
        obtain rfl := Except.error.inj hstep
        rfl
      | ok n' =>
        rw [hm, hn] at hstep
        cases hstep
    | ok m' =>
      cases hn : n.insert key.1 key.2 k with
      | error e' =>
        rw [hm, hn] at hstep
        cases hstep
      | ok n' =>
        -- both maps have grown by the same pair
        refine ih (fun a p => ?_) _ _
        rw [lookup_insert hm, lookup_insert hn]
        by_cases hkey : (a, p) = (key.1, key.2)
        · simp [hkey]
        · rw [if_neg hkey, if_neg hkey]
          exact hsame a p

/-- **Which pair of a list is refused depends on the pairs that are claimed**, and on nothing
else. -/
theorem insertAll_fst_congr (hsame : ∀ a p, m.lookup a p = none ↔ n.lookup a p = none)
    (keys : List (Ipv4 × UInt16)) : (m.insertAll keys h).1 = (n.insertAll keys k).1 :=
  insertFrom_fst_congr hsame keys [] []

end AddressMap

namespace Registry

variable {r q : Registry}

/-! ## §2. Calls that add channels. -/

/-- What a registry can be offered. -/
inductive Offer where
  /-- A text. -/
  | text (text : String)
  /-- A session. -/
  | session (v : SessionView)
  /-- A channel as a record. -/
  | record (c : Channel)

/-- The channel that is offered, or why there is none. -/
def Offer.channel? (channelType : ChannelType) : Offer → Except ExtractError Channel
  | .text s => (extractText s channelType).map (·.channel)
  | .session v => (extractChannel v channelType).map (·.channel)
  | .record c => .ok c

theorem Offer.channel?_text_eq_ok_iff {text : String} {channelType : ChannelType} {c : Channel} :
    (Offer.text text).channel? channelType = .ok c ↔
      ∃ e, extractText text channelType = .ok e ∧ e.channel = c := by
  show (extractText text channelType).map (·.channel) = _ ↔ _
  cases extractText text channelType with
  | error x => simp [Except.map]
  | ok e => simp [Except.map]

theorem Offer.channel?_text_eq_error_iff {text : String} {channelType : ChannelType}
    {x : ExtractError} : (Offer.text text).channel? channelType = .error x ↔
      extractText text channelType = .error x := by
  show (extractText text channelType).map (·.channel) = _ ↔ _
  cases extractText text channelType with
  | error y => simp [Except.map]
  | ok e => simp [Except.map]

/-- Takes in what is offered. -/
def offer (r : Registry) : Offer → Except RegistryError Handle × Registry
  | .text s => r.addText s
  | .session v => r.add v
  | .record c => r.insert c

/-- Takes in one offer after the other: which of them succeed, why the others do not, and the
registry after all of them. -/
def offers (r : Registry) : List Offer → List (Except RegistryError Unit) × Registry
  | [] => ([], r)
  | o :: os =>
    let rest := offers (r.offer o).2 os
    ((r.offer o).1.map (fun _ => ()) :: rest.1, rest.2)

/-- **What an offer can do**: where it is no channel, only the counters change; otherwise the
channel is taken in or refused, and the counters change. -/
theorem offer_eq (r : Registry) (o : Offer) :
    (∃ x f, o.channel? r.channelType = .error x ∧
      r.offer o = (.error (.extract x), r.count f)) ∨
    ∃ c f g, o.channel? r.channelType = .ok c ∧
      r.offer o = (((r.count f).insert c).1, ((r.count f).insert c).2.count g) := by
  have hsession : ∀ v, (∃ x f, extractChannel v r.channelType = .error x ∧
        r.add v = (.error (.extract x), r.count f)) ∨
      ∃ e f g, extractChannel v r.channelType = .ok e ∧
        r.add v = (((r.count f).insert e.channel).1, ((r.count f).insert e.channel).2.count g) := by
    intro v
    rcases r.add_outcome v with
      ⟨x, hx, hadd⟩ | ⟨e, h, r', he, hins, hadd⟩ | ⟨e, x, r', he, hins, hadd⟩
    · exact Or.inl ⟨x, _, hx, hadd⟩
    · refine Or.inr ⟨e, fun k => k.offered.wasParsed.wasValidated, id, he, ?_⟩
      rw [show r.count (fun k => k.offered.wasParsed.wasValidated) = r.counted from rfl, hins, hadd]
      rfl
    · refine Or.inr ⟨e, fun k => k.offered.wasParsed.wasValidated, .wasRefused, he, ?_⟩
      rw [show r.count (fun k => k.offered.wasParsed.wasValidated) = r.counted from rfl, hins, hadd]
  cases o with
  | record c => exact Or.inr ⟨c, id, id, rfl, rfl⟩
  | session v =>
    rcases hsession v with ⟨x, f, hx, hadd⟩ | ⟨e, f, g, he, hadd⟩
    · exact Or.inl ⟨x, f, by rw [Offer.channel?, hx]; rfl, hadd⟩
    · exact Or.inr ⟨e.channel, f, g, by rw [Offer.channel?, he]; rfl, hadd⟩
  | text text =>
    rcases r.addText_outcome text with ⟨x, hs, hadd⟩ | ⟨s, hs, hadd⟩
    · have hdrawn : extractText text r.channelType = .error (.syntaxError x) := by
        rw [extractText, hs]
      exact Or.inl ⟨_, _, Offer.channel?_text_eq_error_iff.2 hdrawn, hadd⟩
    · -- a text that reads as a session is that session
      have hdrawn : extractText text r.channelType = extractChannel s.view r.channelType := by
        rw [extractText, hs]
      rcases hsession s.view with ⟨x, f, hx, hout⟩ | ⟨e, f, g, he, hout⟩
      · exact Or.inl ⟨x, f, Offer.channel?_text_eq_error_iff.2 (hdrawn.trans hx), hadd.trans hout⟩
      · exact Or.inr ⟨e.channel, f, g, Offer.channel?_text_eq_ok_iff.2 ⟨e, hdrawn.trans he, rfl⟩,
          hadd.trans hout⟩

/-! ## §3. Twins. -/

/-- Two registries with the same channels in the same order, each without a gap, that are set
up for the same channels. -/
structure Twin (r q : Registry) : Prop where
  indexed : r.Indexed ∧ q.Indexed
  packed : r.Packed ∧ q.Packed
  records : q.records = r.records
  channelType : q.channelType = r.channelType
  maxChannels : q.maxChannels = r.maxChannels

theorem SameIndices.handles {r' : Registry} (h : SameIndices r r') : r'.handles = r.handles := by
  rw [h]
  rfl

theorem SameIndices.packed {r' : Registry} (h : SameIndices r r') (hp : r.Packed) : r'.Packed := by
  unfold Packed
  rw [h.handles, h]
  exact hp

theorem SameIndices.records {r' : Registry} (h : SameIndices r r') (hstands : StandsAlike r r') :
    r'.records = r.records := by
  rw [records_eq, records_eq, h.handles, funext hstands.2]

namespace Twin

theorem size (h : Twin r q) : q.size = r.size := by
  rw [← h.indexed.1.length_records, ← h.indexed.2.length_records, h.records]

theorem count (h : Twin r q) (f g : Counters → Counters) : Twin (r.count f) (q.count g) :=
  ⟨⟨h.indexed.1.count f, h.indexed.2.count g⟩, h.packed, h.records, h.channelType, h.maxChannels⟩

theorem channelType_of (h : Twin r q) {r' q' : Registry} (hr : r'.config = r.config)
    (hq : q'.config = q.config) : q'.channelType = r'.channelType :=
  (congrArg RegistryConfig.channelType hq).trans
    (h.channelType.trans (congrArg RegistryConfig.channelType hr).symm)

theorem maxChannels_of (h : Twin r q) {r' q' : Registry} (hr : r'.config = r.config)
    (hq : q'.config = q.config) : q'.maxChannels = r'.maxChannels :=
  (congrArg RegistryConfig.maxChannels hq).trans
    (h.maxChannels.trans (congrArg RegistryConfig.maxChannels hr).symm)

theorem hasRoom (h : Twin r q) (hroom : r.HasRoom) : q.HasRoom := by
  unfold HasRoom
  rw [h.size, h.maxChannels]
  exact hroom

/-- Twins refuse the same channels, for the same reasons. -/
theorem verdict (h : Twin r q) (c : Channel) :
    (q.insert c).1.map (fun _ => ()) = (r.insert c).1.map (fun _ => ()) := by
  obtain ⟨hr, hq⟩ := h.indexed
  have hkey : (q.findByKey c.key).isSome = (r.findByKey c.key).isSome := by
    rw [Bool.eq_iff_iff, Option.isSome_iff_ne_none, Option.isSome_iff_ne_none, ne_eq, ne_eq,
      hr.findByKey_eq_none_iff, hq.findByKey_eq_none_iff, h.records]
  have hprimary : ∀ a p, q.primaryMap.lookup a p = none ↔ r.primaryMap.lookup a p = none := by
    intro a p
    rw [hr.lookup_eq_none_iff hr.primary (x := (a, p)),
      hq.lookup_eq_none_iff hq.primary (x := (a, p)), h.records]
  have hfeedback : ∀ a p, q.feedbackMap.lookup a p = none ↔ r.feedbackMap.lookup a p = none := by
    intro a p
    rw [hr.lookup_eq_none_iff hr.feedback (x := (a, p)),
      hq.lookup_eq_none_iff hq.feedback (x := (a, p)), h.records]
  rw [insert_verdict, insert_verdict, hkey, h.size, h.maxChannels,
    AddressMap.insertAll_fst_congr hprimary, AddressMap.insertAll_fst_congr hfeedback]

/-- **Twins stay twins**, whether a channel is taken in or refused. -/
theorem insert (h : Twin r q) (hroom : r.HasRoom) (c : Channel) :
    Twin (r.insert c).2 (q.insert c).2 := by
  obtain ⟨hr, hq⟩ := h.indexed
  obtain ⟨hpr, hpq⟩ := h.packed
  have hroom' := h.hasRoom hroom
  have hverdict := h.verdict c
  have hindexed := And.intro (hr.insert hroom c) (hq.insert hroom' c)
  have hconfig := And.intro (r.config_insert c) (q.config_insert c)
  rcases hrc : r.insert c with ⟨e | k, r'⟩
  · rcases hqc : q.insert c with ⟨e' | k', q'⟩
    · -- both are as they were
      obtain ⟨hsame, hstands⟩ := noTrace_of_insert hr.arena.toCounted hrc
      obtain ⟨hsame', hstands'⟩ := noTrace_of_insert hq.arena.toCounted hqc
      rw [hrc, hqc] at hindexed hconfig
      exact ⟨hindexed, ⟨hsame.packed hpr, hsame'.packed hpq⟩,
        by rw [hsame.records (hstands hroom), hsame'.records (hstands' hroom'), h.records],
        h.channelType_of hconfig.1 hconfig.2, h.maxChannels_of hconfig.1 hconfig.2⟩
    · rw [hrc, hqc] at hverdict
      cases hverdict
  · rcases hqc : q.insert c with ⟨e' | k', q'⟩
    · rw [hrc, hqc] at hverdict
      cases hverdict
    · -- both have grown at the end
      have happ := hr.appended_insert hpr hroom hrc
      have happ' := hq.appended_insert hpq hroom' hqc
      exact ⟨⟨happ.indexed, happ'.indexed⟩, ⟨happ.packed, happ'.packed⟩,
        by rw [happ.records, happ'.records, h.records],
        h.channelType_of happ.config happ'.config, h.maxChannels_of happ.config happ'.config⟩

/-- **Twins answer an offer alike**, and stay twins. -/
theorem offer (h : Twin r q) (hroom : r.HasRoom) (o : Offer) :
    (q.offer o).1.map (fun _ => ()) = (r.offer o).1.map (fun _ => ()) ∧
      Twin (r.offer o).2 (q.offer o).2 := by
  rcases r.offer_eq o with ⟨e, f, hc, hor⟩ | ⟨c, f, g, hc, hor⟩
  · rcases q.offer_eq o with ⟨e', f', hc', hoq⟩ | ⟨c', f', g', hc', hoq⟩
    · rw [h.channelType, hc] at hc'
      obtain rfl := Except.error.inj hc'
      rw [hor, hoq]
      exact ⟨rfl, h.count f f'⟩
    · rw [h.channelType, hc] at hc'
      cases hc'
  · rcases q.offer_eq o with ⟨e', f', hc', hoq⟩ | ⟨c', f', g', hc', hoq⟩
    · rw [h.channelType, hc] at hc'
      cases hc'
    · rw [h.channelType, hc] at hc'
      obtain rfl := Except.ok.inj hc'
      rw [hor, hoq]
      exact ⟨(h.count f f').verdict c, ((h.count f f').insert hroom c).count g g'⟩

end Twin

/-! ## §4. Runs. -/

theorem size_insert_le (r : Registry) (c : Channel) : (r.insert c).2.size ≤ r.size + 1 := by
  have hsize : (r.arena.allocate (unmarked c)).2.size = r.size + 1 := Arena.size_allocate _ _
  rcases r.insert_outcome c with ⟨-, e, he⟩ | ⟨-, -, e, he⟩ | ⟨-, p, f, -, -, hok⟩
  · rw [he]
    exact Nat.le_succ _
  · rw [he]
    unfold withdraw
    split
    · next v a hrel =>
      show a.size ≤ r.size + 1
      rw [Arena.size_release hrel, hsize]
      exact Nat.sub_le _ _
    · exact Nat.le_of_eq hsize
  · rw [hok]
    exact Nat.le_of_eq hsize

theorem config_offer (r : Registry) (o : Offer) : (r.offer o).2.config = r.config := by
  rcases r.offer_eq o with ⟨e, f, -, ho⟩ | ⟨c, f, g, -, ho⟩
  · rw [ho]
    rfl
  · rw [ho]
    exact (r.count f).config_insert c

/-- An offer adds one channel at most. -/
theorem size_offer_le (r : Registry) (o : Offer) : (r.offer o).2.size ≤ r.size + 1 := by
  rcases r.offer_eq o with ⟨e, f, -, ho⟩ | ⟨c, f, g, -, ho⟩
  · rw [ho]
    exact Nat.le_succ _
  · rw [ho]
    exact (r.count f).size_insert_le c

theorem RoomFor.offer {n : Nat} (h : r.RoomFor (n + 1)) (o : Offer) : (r.offer o).2.RoomFor n := by
  have hmax : (r.offer o).2.maxChannels = r.maxChannels :=
    congrArg RegistryConfig.maxChannels (r.config_offer o)
  have hsize := r.size_offer_le o
  unfold RoomFor at h ⊢
  omega

/-- **Twins answer every sequence of offers alike**, and hold the same records after it. -/
theorem Twin.offers (h : Twin r q) (os : List Offer) (hroom : r.RoomFor os.length) :
    (q.offers os).1 = (r.offers os).1 ∧ (q.offers os).2.records = (r.offers os).2.records := by
  induction os generalizing r q with
  | nil => exact ⟨rfl, h.records⟩
  | cons o os ih =>
    obtain ⟨hanswer, hnext⟩ := h.offer hroom.hasRoom o
    obtain ⟨hanswers, hrecords⟩ := ih hnext (hroom.offer o)
    refine ⟨?_, hrecords⟩
    show (q.offer o).1.map (fun _ => ()) :: ((q.offer o).2.offers os).1
      = (r.offer o).1.map (fun _ => ()) :: ((r.offer o).2.offers os).1
    rw [hanswer, hanswers]

/-! ## §5. After the end of all channels. -/

/-- A registry that gave all its channels up and a new one are twins. -/
theorem Vacant.twin {config : RegistryConfig} (hr : r.Vacant)
    (hc : r.config = (empty config).config) : Twin (empty config) r where
  indexed := ⟨indexed_empty config, hr.indexed⟩
  packed := ⟨packed_empty config, hr.packed⟩
  records := records_of_no_handle hr.handles
  channelType := congrArg RegistryConfig.channelType hc
  maxChannels := congrArg RegistryConfig.maxChannels hc

/-- **THE END OF ALL CHANNELS IS A NEW BEGINNING**, whatever was done before, and whatever keys and
pairs were left behind: no handle stands for a channel, no key and no pair leads anywhere, and
every sequence of calls that add channels succeeds and fails as it does in a new registry, call
by call and for the same reasons, and leaves the same records in the same order.

A place beyond all numbers of 32 bits is never given up, so the last part asks for no more
places, and for no more calls where more channels are allowed. -/
theorem Live.begins_afresh {config : RegistryConfig} (hr : Live config r) :
    (∀ h, r.destroyAll.getAny h = none) ∧ (∀ k, r.destroyAll.findByKey k = none) ∧
      (∀ a p, r.destroyAll.lookupPrimary a p = none) ∧
      (∀ a p, r.destroyAll.lookupFeedback a p = none) ∧
      (r.arena.places.size ≤ UInt32.size → r.destroyAll.size = 0 ∧
        ∀ os : List Offer, min config.maxChannels os.length ≤ UInt32.size →
          (r.destroyAll.offers os).1 = ((Registry.empty config).offers os).1 ∧
            (r.destroyAll.offers os).2.channels.map (·.2)
              = ((Registry.empty config).offers os).2.channels.map (·.2)) := by
  refine ⟨hr.linked.getAny_destroyAll, fun k => rfl, AddressMap.lookup_clear _,
    AddressMap.lookup_clear _, fun hplaces => ?_⟩
  have hvacant := (hr.seated_of_places hplaces).destroyAll_vacant
  have htwin := hvacant.twin (r.config_destroyAll.trans hr.config_eq)
  refine ⟨?_, fun os hroom => htwin.offers os ?_⟩
  · rw [hvacant.seated.size_eq, hvacant.handles]
    rfl
  · unfold RoomFor
    rw [show (Registry.empty config).size = 0 from rfl, Nat.zero_add]
    exact hroom

/-- A registry with a key and pairs that lead to a channel that is gone. -/
def dangling : Registry := ((empty .standard).insert datagramChannel).2.detachIfThere ⟨0, 0⟩

/-- The channel is refused while its key is left, and taken in once all channels were given up, but
not twice. -/
theorem Live.begins_afresh_dangling :
    Live .standard dangling ∧ dangling.arena.places.size ≤ UInt32.size ∧
      (dangling.insert datagramChannel).1 = .error (.alreadyExists datagramChannel.key) ∧
      dangling.destroyAll.size = 0 ∧
      (dangling.destroyAll.offers [.record datagramChannel, .record datagramChannel]).1
        = [.ok (), .error (.alreadyExists datagramChannel.key)] ∧
      (dangling.destroyAll.offers [.record datagramChannel, .record datagramChannel]).2.channels.map
        (·.2) = [datagramChannel] := by
  have hlive : Live .standard dangling := .detach _ (.step .empty (.insert datagramChannel))
  have hplaces : dangling.arena.places.size ≤ UInt32.size :=
    Nat.le_trans hlive.linked.places_le (by decide +kernel)
  have hrefused : (dangling.insert datagramChannel).1
      = .error (.alreadyExists datagramChannel.key) := by
    decide +kernel
  obtain ⟨-, -, -, -, hafresh⟩ := hlive.begins_afresh
  obtain ⟨hsize, hoffers⟩ := hafresh hplaces
  obtain ⟨hanswers, hrecords⟩ := hoffers [.record datagramChannel, .record datagramChannel]
    (by decide +kernel)
  refine ⟨hlive, hplaces, hrefused, hsize, hanswers.trans ?_, hrecords.trans ?_⟩
  · decide +kernel
  · decide +kernel

end Registry

end Lineup
