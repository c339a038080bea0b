/-
  Lineup.Proofs.Update.Order
  ──────────────────────────
  **THE ORDER OF THE SESSIONS DOES NOT DECIDE.**  A shadow takes sessions in one after
  the other, and each can be refused for those before it.  But what a live registry
  asks of the channels of a document (`Accepts`) does not depend on their order: no key
  and no pair stands twice in the list, there are no more channels than allowed, and
  each channel is compared with live ones only.  The report counts, and counting does
  not depend on the order either.  What does is the order of the channels that are in
  service then.

  Main results:
    * `Accepts.perm`, `reportOn_perm` — acceptance and report in another order;
    * `Linked.mem_records_insertAll` — which channels a registry has that took a list in;
    * `Linked.run_of_perm` — documents with the same sessions are committed or refused
      together;
    * `Live.run_of_shuffled` — so are texts that are put together in another order;
    * `Live.run_outcome` — no update ends in any other way than refused with a report, or
      with the channels of the document in service, in its order.
-/
import Lineup.Proofs.Document.Joined
import Lineup.Proofs.Document.Rendered
import Lineup.Proofs.Update.Tally

namespace Lineup

/-! ## §1. Channels in another order. -/

theorem Registry.Fits.perm {cs ds : List Channel} (hf : Fits cs) (hp : cs.Perm ds) : Fits ds where
  keys := (hp.map _).nodup_iff.1 hf.keys
  primary := (hp.flatMap_right _).nodup_iff.1 hf.primary
  feedback := (hp.flatMap_right _).nodup_iff.1 hf.feedback
  claimable := fun c hc => hf.claimable c (hp.mem_iff.2 hc)

/-- What is drawn from texts in another order is drawn in that order. -/
theorem exists_drawn_of_perm {texts texts' : List String} (hp : texts.Perm texts')
    {channelType : ChannelType} {es : List Extraction}
    (hes : texts.map (extractText · channelType) = es.map .ok) :
    ∃ es' : List Extraction, texts'.map (extractText · channelType) = es'.map .ok ∧ es.Perm es' := by
  induction hp generalizing es with
  | nil => exact ⟨es, hes, .refl es⟩
  | cons text _ ih =>
    cases es with
    | nil => cases hes
    | cons e es =>
      rw [List.map_cons, List.map_cons] at hes
      obtain ⟨he, hes⟩ := List.cons.inj hes
      obtain ⟨es', hes', hperm⟩ := ih hes
      exact ⟨e :: es', by rw [List.map_cons, List.map_cons, he, hes'], hperm.cons e⟩
  | swap text text' texts =>
    cases es with
    | nil => cases hes
    | cons e es =>
      cases es with
      | nil => exact absurd (congrArg List.length hes) (by simp)
      | cons e' es =>
        simp only [List.map_cons, List.cons.injEq] at hes
        obtain ⟨he, he', hes⟩ := hes
        exact ⟨e' :: e :: es, by simp only [List.map_cons, he, he', hes], .swap e' e es⟩
  | trans _ _ ih ih' =>
    obtain ⟨es', hes', hperm⟩ := ih hes
    obtain ⟨es'', hes'', hperm'⟩ := ih' hes'
    exact ⟨es'', hes'', hperm.trans hperm'⟩

namespace Coordinator

open Registry

variable {live : Registry} {cs ds : List Channel}

/-- **What a live registry accepts, it accepts in any order.** -/
theorem Accepts.perm (ha : Accepts live cs) (hp : cs.Perm ds) : Accepts live ds where
  fits := ha.fits.perm hp
  room := hp.length_eq ▸ ha.room
  forward := fun c hc => ha.forward c (hp.mem_iff.2 hc)

theorem leftOver_perm (hp : cs.Perm ds) : leftOver live cs = leftOver live ds := by
  have hmatched : (matchedBy live cs).Perm (matchedBy live ds) := hp.filterMap _
  unfold leftOver
  simp only [hmatched.mem_iff]

/-- **What is reported on channels, is reported on them in any order.** -/
theorem reportOn_perm (hp : cs.Perm ds) : reportOn live cs = reportOn live ds := by
  unfold reportOn UpdateReport.ofChanges
  have hcount := fun k => (hp.map (changeOf live)).count_eq k
  simp only [hp.length_eq, leftOver_perm hp, hcount]

end Coordinator

/-! ## §2. What a registry has that took a list in. -/

namespace Registry

variable {r r' : Registry}

theorem Findable.mem_records (hr : r.Findable) {c : Channel} :
    c ∈ r.records ↔ ∃ h, r.getAny h = some c := by
  refine ⟨exists_of_mem_records, fun ⟨h, hc⟩ => ?_⟩
  exact List.mem_map_of_mem (f := (·.2)) (hr.mem_channels.2 hc)

/-- **A list that is taken in joins the channels that are there**, in whatever slots, as long as
there are numbers for all. -/
theorem Linked.mem_records_insertAll (hr : r.Linked) {cs : List Channel}
    (hroom : r.arena.RoomFor cs.length) (hok : Coordinator.insertAll r cs = .ok r') {c : Channel} :
    c ∈ r'.records ↔ c ∈ r.records ∨ c ∈ cs.map unmarked := by
  induction cs generalizing r with
  | nil =>
    obtain rfl := Except.ok.inj hok
    simp
  | cons d cs ih =>
    obtain ⟨h, r₁, hins, hrest⟩ := insertAll_cons_eq_ok hok
    have hlinked := hr.insert d
    rw [hins] at hlinked
    obtain ⟨-, p, f, rfl⟩ := insert_eq_ok hins
    rw [ih hlinked (hroom.allocate (unmarked d)) hrest, List.map_cons, List.mem_cons, ← or_assoc]
    -- the new handle stood for nothing, so no channel is lost
    have hget := hr.arena.resolve_allocate hroom.isOpen (unmarked d)
    have hnew := hr.arena.resolve_new hroom.isOpen (unmarked d)
    have hmem : c ∈ (r.grownBy d p f).records ↔ c ∈ r.records ∨ c = unmarked d := by
      rw [hlinked.toFindable.mem_records, hr.toFindable.mem_records]
      constructor
      · rintro ⟨k, hk⟩
        have hk' := (hget k).symm.trans hk
        split at hk'
        · exact Or.inr (Option.some.inj hk').symm
        · exact Or.inl ⟨k, hk'⟩
      · rintro (⟨k, hk⟩ | rfl)
        · refine ⟨k, (hget k).trans ?_⟩
          rw [if_neg]
          · exact hk
          · rintro rfl
            exact absurd (hnew.symm.trans hk) (by simp)
        · exact ⟨r.nextHandle d, (hget _).trans (if_pos rfl)⟩
    rw [hmem]

end Registry

namespace Coordinator

open Registry

/-- A committed update leaves the channels in service of its document behind, and no other. -/
theorem mem_records_of_insertAll {live next r : Registry} (hl : live.Linked) {cs : List Channel}
    (hlen : cs.length ≤ UInt32.size) (hins : insertAll live.destroyAll cs = .ok r)
    (hnext : next = { r with counters := next.counters, lastRefresh := next.lastRefresh })
    {c : Channel} : c ∈ next.records ↔ c ∈ cs.map unmarked := by
  have hrecords : next.records = r.records := by rw [hnext]; rfl
  have hnone : ∀ d, d ∉ live.destroyAll.records := by
    intro d hd
    obtain ⟨h, hget⟩ := exists_of_mem_records hd
    rw [hl.getAny_destroyAll] at hget
    cases hget
  rw [hrecords, hl.destroyAll.mem_records_insertAll
    (hl.destroyAll.arena.roomFor hl.getAny_destroyAll hlen) hins]
  simp [hnone c]

end Coordinator

/-! ## §3. Documents in another order. -/

namespace Registry

open Coordinator

/-- Two documents with the same sessions are committed or refused together. -/
theorem Linked.run_of_perm {live : Registry} (hl : live.Linked) {document document' : String}
    (hperm : (Document.sessions document).Perm (Document.sessions document'))
    (hroom : min live.maxChannels (Document.sessions document).length ≤ UInt32.size)
    (now now' : Instant) :
    ((∃ next report, run live document now = .ok (next, report)) ↔
      ∃ next report, run live document' now' = .ok (next, report)) ∧
    ∀ next report next' report', run live document now = .ok (next, report) →
      run live document' now' = .ok (next', report') →
      (∀ c, c ∈ next.records ↔ c ∈ next'.records) ∧ report = report' := by
  have hroom' : min live.maxChannels (Document.sessions document').length ≤ UInt32.size :=
    hperm.length_eq ▸ hroom
  refine ⟨?_, fun next report next' report' hrun hrun' => ?_⟩
  · rw [exists_run_iff hl hroom, exists_run_iff hl hroom']
    constructor
    · rintro ⟨es, hes, haccepts⟩
      obtain ⟨es', hes', hp⟩ := exists_drawn_of_perm hperm hes
      exact ⟨es', hes', haccepts.perm (hp.map _)⟩
    · rintro ⟨es', hes', haccepts⟩
      obtain ⟨es, hes, hp⟩ := exists_drawn_of_perm hperm.symm hes'
      exact ⟨es, hes, haccepts.perm (hp.map _)⟩
  · obtain ⟨es, hes, haccepts, hreport, r, hins, hnext⟩ := drawn_of_run hroom hrun
    obtain ⟨es', hes', -, hreport', r', hins', hnext'⟩ := drawn_of_run hroom' hrun'
    obtain ⟨es'', hes'', hp⟩ := exists_drawn_of_perm hperm hes
    obtain rfl := drawn_unique hes' hes''
    have hchannels := hp.map (·.channel)
    have hactive := hchannels.filter (·.active)
    have hlen := haccepts.length_active_le hes hroom
    refine ⟨fun c => ?_, ?_⟩
    · rw [mem_records_of_insertAll hl hlen hins hnext,
        mem_records_of_insertAll hl (hactive.length_eq ▸ hlen) hins' hnext',
        (hactive.map unmarked).mem_iff]
    · rw [hreport, hreport', reportOn_perm hchannels]

/-- **THE ORDER OF THE SESSIONS DOES NOT DECIDE AN UPDATE**: texts of whole lines that are put
together in one order or another are committed both or refused both, and if they are
committed, the same channels are live then and the same is reported.

A handle numbers its place with 32 bits. In a shadow of more than 2³² channels two of them
would get one handle, and only the one that came first would be looked at; so no more are
taken in here. The live registry may hold as many channels as are allowed. -/
theorem Live.run_of_shuffled {config : RegistryConfig} {live : Registry} (hlive : Live config live)
    {texts texts' : List String} (hperm : texts.Perm texts')
    (hwhole : ∀ text ∈ texts, Text.Whole text.toList)
    (hroom : min config.maxChannels
      (Document.sessions (Document.boundary.intercalate texts)).length ≤ UInt32.size)
    (now now' : Instant) :
    ((∃ next report, run live (Document.boundary.intercalate texts) now = .ok (next, report)) ↔
      ∃ next report, run live (Document.boundary.intercalate texts') now' = .ok (next, report)) ∧
    ∀ next report next' report',
      run live (Document.boundary.intercalate texts) now = .ok (next, report) →
      run live (Document.boundary.intercalate texts') now' = .ok (next', report') →
      (∀ c, c ∈ next.channels.map (·.2) ↔ c ∈ next'.channels.map (·.2)) ∧ report = report' := by
  rw [← hlive.maxChannels_eq] at hroom
  refine hlive.linked.run_of_perm ?_ hroom now now'
  rw [Document.sessions_intercalate hwhole,
    Document.sessions_intercalate fun text htext => hwhole text (hperm.mem_iff.2 htext)]
  exact hperm.flatMap_right _

/-- The announcement of a broadcast under an identity of its own, with a stop time. -/
def bulletinLines (id stop group : String) : List (List Char) :=
  ["v=0".toList, "o=- ".toList ++ id.toList ++ " 1 IN IP4 10.0.0.1".toList, "s=News".toList,
    "t=0 ".toList ++ stop.toList, "m=video 5000 RTP/AVP 33".toList,
    "c=IN IP4 ".toList ++ group.toList, "b=AS:4000".toList, "a=sendonly".toList]

/-- The text of such an announcement. -/
def bulletin (id stop group : String) : String :=
  .ofList (Document.unlines (bulletinLines id stop group))

/-- What is drawn from such an announcement. -/
def IsBulletin (id : String) (addr : Ipv4) (active : Bool) (c : Channel) : Prop :=
  c.key = ⟨"-", id, ⟨10, 0, 0, 1⟩⟩ ∧ c.primaryKeys = [(addr, 5000), (addr, 5001)] ∧
    c.feedbackKeys = [] ∧ c.active = active

instance (id : String) (addr : Ipv4) (active : Bool) : DecidablePred (IsBulletin id addr active) :=
  fun c => inferInstanceAs (Decidable (c.key = _ ∧ c.primaryKeys = _ ∧ c.feedbackKeys = _ ∧ _))

theorem IsBulletin.claimable {id : String} {addr : Ipv4} {active : Bool} {c : Channel}
    (hc : IsBulletin id addr active c) : Claimable c := by
  obtain ⟨-, hprimary, hfeedback, -⟩ := hc
  refine ⟨?_, ?_, ?_, ?_⟩
  · simp [hprimary]
  · simp [hprimary]
  · simp [hfeedback]
  · simp [hfeedback]

/-- Two of them fit beside each other. -/
theorem IsBulletin.fits {id id' : String} {addr addr' : Ipv4} {active active' : Bool}
    {c d : Channel} (hc : IsBulletin id addr active c) (hd : IsBulletin id' addr' active' d)
    (hid : id ≠ id') (haddr : addr ≠ addr') : Fits [c, d] := by
  refine ⟨?_, ?_, ?_, ?_⟩
  · simp [hc.1, hd.1, hid]
  · simp [hc.2.1, hd.2.1, haddr]
  · simp [hc.2.2.1, hd.2.2.1]
  · simpa using ⟨hc.claimable, hd.claimable⟩

/-- Two of them that are still in service and out of service, one after the other. -/
def bulletins : List String :=
  [bulletin "7" "0" "239.0.0.7/64", bulletin "8" "3900000000" "239.0.0.8/64"]

theorem whole_bulletins : ∀ text ∈ bulletins, Text.Whole text.toList := by
  unfold bulletins bulletin
  simp only [List.forall_mem_cons, String.toList_ofList]
  decide +kernel

theorem sessions_bulletins :
    Document.sessions (Document.boundary.intercalate bulletins) = bulletins := by
  rw [Document.sessions_intercalate whole_bulletins]
  unfold bulletins bulletin
  simp only [List.flatMap_cons, Document.sessions_ofList]
  decide +kernel

theorem exists_bulletins :
    ∃ e e' : Extraction, bulletins.map (extractText · .linear) = [e, e'].map .ok ∧
      IsBulletin "7" ⟨239, 0, 0, 7⟩ true e.channel ∧
      IsBulletin "8" ⟨239, 0, 0, 8⟩ false e'.channel := by
  obtain ⟨e, he, hnews⟩ := exists_ok_of_any
    (x := extractText (bulletin "7" "0" "239.0.0.7/64") .linear)
    (p := fun e => IsBulletin "7" ⟨239, 0, 0, 7⟩ true e.channel) (by
      rw [bulletin, extractText_ofList]
      decide +kernel)
  obtain ⟨e', he', hnews'⟩ := exists_ok_of_any
    (x := extractText (bulletin "8" "3900000000" "239.0.0.8/64") .linear)
    (p := fun e => IsBulletin "8" ⟨239, 0, 0, 8⟩ false e.channel) (by
      rw [bulletin, extractText_ofList]
      decide +kernel)
  refine ⟨e, e', ?_, hnews, hnews'⟩
  unfold bulletins
  simp only [List.map_cons, List.map_nil, he, he']

/-- A registry with one channel for bare datagrams. -/
def oneDatagram : Registry := ((Registry.empty .standard).insert datagramChannel).2

theorem live_oneDatagram : Live .standard oneDatagram := .step .empty (.insert datagramChannel)

theorem records_oneDatagram : oneDatagram.records = [datagramChannel] := by decide +kernel

/-- No live channel has the pair of a bulletin on another address. -/
theorem IsBulletin.forward {id : String} {addr : Ipv4} {active : Bool} {c : Channel}
    (hc : IsBulletin id addr active c) (haddr : addr ≠ ⟨239, 0, 0, 1⟩) :
    (changeOf oneDatagram c).Forward := by
  rw [forward_changeOf_iff live_oneDatagram.linked.toFindable, records_oneDatagram]
  intro x hx hdest
  have hmem := primaryDest_mem_primaryKeys c
  rw [← hdest, List.mem_singleton.1 hx, hc.2.1] at hmem
  simp [datagramChannel, Channel.primaryDest, Ne.symm haddr] at hmem

/-- It accepts every document of channels that fit beside each other and go forward. -/
theorem exists_run_oneDatagram {document : String} {es : List Extraction}
    (hes : (Document.sessions document).map (extractText · .linear) = es.map .ok)
    (hlen : es.length ≤ 1000) (hfits : Fits (es.map (·.channel)))
    (hforward : ∀ e ∈ es, (changeOf oneDatagram e.channel).Forward) :
    ∃ next report, run oneDatagram document ⟨0, 0⟩ = .ok (next, report) := by
  have hmax : oneDatagram.maxChannels = 1000 := live_oneDatagram.maxChannels_eq
  have htype : oneDatagram.channelType = .linear := live_oneDatagram.channelType_eq
  have hroom : min oneDatagram.maxChannels (Document.sessions document).length ≤ UInt32.size :=
    Nat.le_trans (Nat.min_le_left _ _) (by rw [hmax]; decide)
  rw [exists_run_iff live_oneDatagram.linked hroom, htype]
  refine ⟨es, hes, hfits, ?_, List.forall_mem_map.2 hforward⟩
  rw [List.length_map, hmax]
  exact hlen

/-- So it accepts the two bulletins. -/
theorem exists_run_bulletins :
    ∃ next report, run oneDatagram (Document.boundary.intercalate bulletins) ⟨0, 0⟩
      = .ok (next, report) := by
  obtain ⟨e, e', hes, hnews, hnews'⟩ := exists_bulletins
  have hdrawn : (Document.sessions (Document.boundary.intercalate bulletins)).map
      (extractText · .linear) = [e, e'].map .ok := by
    rw [sessions_bulletins]
    exact hes
  refine exists_run_oneDatagram hdrawn ?_ ?_ ?_
  · show 2 ≤ 1000
    decide
  · exact hnews.fits hnews' (by decide) (by decide)
  · simpa using ⟨hnews.forward (by decide), hnews'.forward (by decide)⟩

/-- Both bulletins are committed in either order. -/
theorem Live.run_of_shuffled_bulletins :
    ∃ next report next' report', Live .standard oneDatagram ∧
      run oneDatagram (Document.boundary.intercalate bulletins) ⟨0, 0⟩ = .ok (next, report) ∧
      run oneDatagram (Document.boundary.intercalate bulletins.reverse) ⟨0, 0⟩ = .ok (next', report') ∧
      (∀ c, c ∈ next.channels.map (·.2) ↔ c ∈ next'.channels.map (·.2)) ∧ report = report' := by
  obtain ⟨hiff, hsame⟩ := live_oneDatagram.run_of_shuffled bulletins.reverse_perm.symm
    whole_bulletins (by rw [sessions_bulletins]; decide) ⟨0, 0⟩ ⟨0, 0⟩
  obtain ⟨next, report, hrun⟩ := exists_run_bulletins
  obtain ⟨next', report', hrun'⟩ := hiff.1 ⟨next, report, hrun⟩
  exact ⟨next, report, next', report', live_oneDatagram, hrun, hrun',
    hsame next report next' report' hrun hrun'⟩

/-! ## §4. What is in service then. -/

/-- **AN UPDATE IS REFUSED WITH A REPORT, OR ITS DOCUMENT IS IN SERVICE.**  Then
every session of the document gave a channel, and the new registry holds exactly
those in service, unmarked and in the order of the document, whatever the live
registry held. -/
theorem Live.run_outcome {config : RegistryConfig} (hmax : config.maxChannels < UInt32.size)
    {live : Registry} (hlive : Live config live) (document : String) (now : Instant) :
    (∃ report, Coordinator.run live document now = .error (.rejected report)) ∨
    ∃ next report, ∃ es : List Extraction, Coordinator.run live document now = .ok (next, report) ∧
      (Document.sessions document).map (extractText · config.channelType) = es.map .ok ∧
      next.channels.map (·.2) = (es.map (·.channel)).filter (·.active) ∧
      ∀ c ∈ next.channels.map (·.2), c.used = false := by
  have hle := Nat.le_of_lt hmax
  obtain ⟨hseated, hconfig⟩ := hlive.seated hle
  have hmax' : live.maxChannels = config.maxChannels :=
    congrArg RegistryConfig.maxChannels hconfig
  have htype : live.channelType = config.channelType :=
    congrArg RegistryConfig.channelType hconfig
  rw [Coordinator.run_eq]
  dsimp only
  split
  swap
  · exact Or.inl ⟨_, rfl⟩
  next hclean =>
  split
  swap
  · exact Or.inl ⟨_, rfl⟩
  refine Or.inr ?_
  -- the shadow holds the channels of all sessions, in order
  obtain ⟨es, hes, happ⟩ := Coordinator.takeIn_appended live.indexed_emptyLike
    live.packed_emptyLike 0 (Document.sessions document)
    (roomFor_of_le (r := live.emptyLike) (hmax' ▸ hle) _) hclean
  have hunmarked := map_unmarked_of_extractText hes
  obtain ⟨next, hnext, hchannels⟩ := Coordinator.successor_of_indexed hseated happ.indexed
    (Coordinator.compare_marked live _ _) happ.maxChannels now
  have hrecords : next.records = (es.map (·.channel)).filter (·.active) := by
    rw [hchannels]
    unfold inService
    rw [map_unmarked_filter, happ.records, live.records_emptyLike, List.nil_append, hunmarked]
  refine ⟨next, _, es, by rw [hnext], htype ▸ hes, hrecords, ?_⟩
  intro c hc
  rw [show next.channels.map (·.2) = next.records from rfl, hchannels] at hc
  obtain ⟨d, -, rfl⟩ := List.mem_map.1 hc
  rfl

/-- The bulletins, and a third one that is in service again. -/
def threeBulletins : List String := bulletins ++ [bulletin "9" "0" "239.0.0.9/64"]

theorem whole_threeBulletins : ∀ text ∈ threeBulletins, Text.Whole text.toList := by
  unfold threeBulletins
  rw [List.forall_mem_append, List.forall_mem_singleton, bulletin, String.toList_ofList]
  exact ⟨whole_bulletins, by decide +kernel⟩

theorem sessions_threeBulletins :
    Document.sessions (Document.boundary.intercalate threeBulletins) = threeBulletins := by
  have hbulletins := sessions_bulletins
  rw [Document.sessions_intercalate whole_bulletins] at hbulletins
  have hthird : Document.sessions (bulletin "9" "0" "239.0.0.9/64")
      = [bulletin "9" "0" "239.0.0.9/64"] := by
    unfold bulletin
    rw [Document.sessions_ofList]
    decide +kernel
  rw [Document.sessions_intercalate whole_threeBulletins]
  unfold threeBulletins
  rw [List.flatMap_append, hbulletins, List.flatMap_singleton, hthird]

theorem exists_threeBulletins :
    ∃ e e' e'' : Extraction,
      threeBulletins.map (extractText · .linear) = [e, e', e''].map .ok ∧
      IsBulletin "7" ⟨239, 0, 0, 7⟩ true e.channel ∧
      IsBulletin "8" ⟨239, 0, 0, 8⟩ false e'.channel ∧
      IsBulletin "9" ⟨239, 0, 0, 9⟩ true e''.channel := by
  obtain ⟨e, e', hes, hnews, hnews'⟩ := exists_bulletins
  obtain ⟨e'', he'', hnews''⟩ := exists_ok_of_any
    (x := extractText (bulletin "9" "0" "239.0.0.9/64") .linear)
    (p := fun e => IsBulletin "9" ⟨239, 0, 0, 9⟩ true e.channel) (by
      rw [bulletin, extractText_ofList]
      decide +kernel)
  refine ⟨e, e', e'', ?_, hnews, hnews', hnews''⟩
  unfold threeBulletins
  rw [List.map_append, hes, List.map_singleton, he'']
  rfl

/-- Where another channel was live, the first and the third of them are in service then, in this
order and unmarked. -/
theorem Live.run_outcome_threeBulletins :
    ∃ next report, ∃ e e' e'' : Extraction, Live .standard oneDatagram ∧
      run oneDatagram (Document.boundary.intercalate threeBulletins) ⟨0, 0⟩ = .ok (next, report) ∧
      (Document.sessions (Document.boundary.intercalate threeBulletins)).map (extractText · .linear)
        = [e, e', e''].map .ok ∧
      e.channel.key = ⟨"-", "7", ⟨10, 0, 0, 1⟩⟩ ∧ e''.channel.key = ⟨"-", "9", ⟨10, 0, 0, 1⟩⟩ ∧
      e'.channel.active = false ∧
      next.channels.map (·.2) = [e.channel, e''.channel] ∧
      e.channel.used = false ∧ e''.channel.used = false := by
  obtain ⟨e, e', e'', hes, hnews, hnews', hnews''⟩ := exists_threeBulletins
  have hdrawn : (Document.sessions (Document.boundary.intercalate threeBulletins)).map
      (extractText · .linear) = [e, e', e''].map .ok := by
    rw [sessions_threeBulletins]
    exact hes
  -- it is not refused
  have hruns : ∃ next report, run oneDatagram (Document.boundary.intercalate threeBulletins) ⟨0, 0⟩
      = .ok (next, report) := by
    refine exists_run_oneDatagram hdrawn ?_ ⟨?_, ?_, ?_, ?_⟩ ?_
    · show 3 ≤ 1000
      decide
    · simp [hnews.1, hnews'.1, hnews''.1]
    · simp [hnews.2.1, hnews'.2.1, hnews''.2.1]
    · simp [hnews.2.2.1, hnews'.2.2.1, hnews''.2.2.1]
    · simpa using ⟨hnews.claimable, hnews'.claimable, hnews''.claimable⟩
    · simpa using ⟨hnews.forward (by decide), hnews'.forward (by decide),
        hnews''.forward (by decide)⟩
  obtain ⟨next, report, hrun⟩ := hruns
  rcases live_oneDatagram.run_outcome (by decide)
    (Document.boundary.intercalate threeBulletins) ⟨0, 0⟩ with
    ⟨report', hrefused⟩ | ⟨next', report', es, hcommitted, hes', hrecords, hused⟩
  · rw [hrun] at hrefused
    cases hrefused
  · obtain ⟨rfl, rfl⟩ := Prod.mk.inj (Except.ok.inj (hrun.symm.trans hcommitted))
    obtain rfl := drawn_unique hdrawn hes'
    have htwo : next.channels.map (·.2) = [e.channel, e''.channel] := by
      rw [hrecords]
      simp [hnews.2.2.2, hnews'.2.2.2, hnews''.2.2.2]
    rw [htwo] at hused
    exact ⟨next, report, e, e', e'', live_oneDatagram, hrun, hdrawn, hnews.1, hnews''.1,
      hnews'.2.2.2, htwo, hused _ (by simp), hused _ (by simp)⟩

end Registry

end Lineup
