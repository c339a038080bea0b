/-
  Lineup.Proofs.Update.Comparison
  ───────────────────────────────
  **WHAT AN UPDATE IS MEASURED AGAINST.**  Each channel of a shadow is compared with at
  most one live channel, the one that has its primary pair as its own, and the report
  counts what came of it.  The live channel is found through the map of primary pairs,
  in which other streams stand as well; where that map leads to every channel that
  claims a pair, a scan of the live channels would find the same (`liveMatch_eq_some_iff`).

  Main results:
    * `tally_compare` — what the report counts;
    * `run_eq_ok_iff` — what it takes to commit;
    * `Current.linked` — all channels of a registry are found, whatever was done to it;
    * `Current.commits_iff` — so a document without failures is committed exactly if it
      takes no live channel back.
-/
import Lineup.Proofs.Document.Rendered
import Lineup.Proofs.Extraction.RoundTrip
import Lineup.Proofs.Registry.Holds
import Lineup.Proofs.Update.Replacement

namespace Lineup

/-! ## §1. Going forward. -/

/-- Whether a channel can take the place of a live one: it is newer, or the same. -/
def Channel.Supersedes (candidate live : Channel) : Prop :=
  live.version < candidate.version ∨
    live.version = candidate.version ∧ live.checksum = candidate.checksum

instance (candidate live : Channel) : Decidable (candidate.Supersedes live) :=
  inferInstanceAs (Decidable (_ ∨ _))

/-- Whether nothing speaks against a change. -/
def Change.Forward (k : Change) : Prop := k ≠ .stale ∧ k ≠ .conflicting

theorem Change.forward_between_iff {live candidate : Channel} :
    (between live candidate).Forward ↔ candidate.Supersedes live := by
  unfold Forward Channel.Supersedes
  rw [Ne, Ne, between_eq_stale_iff, between_eq_conflicting_iff]
  simp only [UInt64.lt_iff_toNat_lt, ← UInt64.toNat_inj]
  constructor
  · rintro ⟨hstale, hconflicting⟩
    rcases Nat.lt_trichotomy live.version.toNat candidate.version.toNat with hlt | heq | hgt
    · exact Or.inl hlt
    · exact Or.inr ⟨heq, by_contra fun hne => hconflicting ⟨heq, hne⟩⟩
    · exact absurd hgt hstale
  · rintro (hlt | ⟨heq, hsum⟩)
    · exact ⟨by omega, fun h => by omega⟩
    · exact ⟨by omega, fun h => h.2 hsum⟩

/-- How many channels of a kind a report counts. -/
def UpdateReport.tally (r : UpdateReport) : Change → Nat
  | .added => r.added
  | .updated => r.updated
  | .unchanged => r.unchanged
  | .stale => r.stale
  | .conflicting => r.conflicting

theorem UpdateReport.tally_note (r : UpdateReport) (k k' : Change) :
    (r.note k).tally k' = r.tally k' + if k = k' then 1 else 0 := by
  cases k <;> cases k' <;> rfl

theorem UpdateReport.tally_foldl_note (r : UpdateReport) (ks : List Change) (k : Change) :
    (ks.foldl note r).tally k = r.tally k + ks.count k := by
  induction ks generalizing r with
  | nil => simp
  | cons k' ks ih =>
    rw [List.foldl_cons, ih, tally_note, List.count_cons]
    simp only [beq_iff_eq]
    omega

namespace Coordinator

open Registry

/-! ## §2. What the report counts. -/

/-- How a channel differs from the live one that has its primary pair. -/
def changeOf (live : Registry) (candidate : Channel) : Change :=
  match liveMatch live candidate with
  | none => .added
  | some (_, current) => .between current candidate

theorem Comparison.report_step (live : Registry) (s : Comparison) (h : Handle) :
    (step live s h).report
      = ((s.shadow.getAny h).map (changeOf live)).elim s.report s.report.note := by
  unfold step changeOf
  cases s.shadow.getAny h with
  | none => rfl
  | some c =>
    dsimp only [Option.map_some, Option.elim_some]
    cases liveMatch live c with
    | none => rfl
    | some p => rfl

/-- Marks are not compared. -/
theorem changeOf_congr (live : Registry) {c d : Channel} (h : unmarked c = unmarked d) :
    changeOf live c = changeOf live d := by
  show changeOf live (unmarked c) = changeOf live (unmarked d)
  rw [h]

theorem Comparison.report_foldl (live : Registry) {shadow : Registry} (s : Comparison)
    (hs : List Handle) (hmarked : Marked shadow s.shadow) :
    (hs.foldl (step live) s).report
      = ((hs.filterMap shadow.getAny).map (changeOf live)).foldl .note s.report := by
  induction hs generalizing s with
  | nil => rfl
  | cons h hs ih =>
    rw [List.foldl_cons, ih _ (hmarked.trans (step_marked live s h)), report_step]
    -- the channel may be marked by now, but is otherwise that of the shadow
    have hsame := hmarked.2 h
    rw [List.filterMap_cons]
    cases hc : shadow.getAny h with
    | none =>
      rw [hc, Option.map_none, Option.map_eq_none_iff] at hsame
      rw [hsame]
      rfl
    | some c =>
      rw [hc, Option.map_some] at hsame
      obtain ⟨d, hd, heq⟩ := Option.map_eq_some_iff.1 hsame
      rw [hd, Option.map_some, changeOf_congr live heq]
      rfl

/-- **A comparison counts each channel of the shadow once.** -/
theorem tally_compare (live shadow : Registry) (report : UpdateReport) (k : Change) :
    (compare live shadow report).report.tally k
      = report.tally k + (shadow.records.map (changeOf live)).count k := by
  have hfold := Comparison.report_foldl live ⟨shadow, report, []⟩ shadow.handles (.refl shadow)
  rw [records_eq, ← UpdateReport.tally_foldl_note, ← hfold]
  -- the live channels that are left over are counted apart
  cases k <;> rfl

/-- Nothing speaks against a shadow exactly if nothing speaks against a channel of it. -/
theorem compare_forward_iff (live shadow : Registry) (counters : Counters)
    (failures : List SessionFailure) :
    ((compare live shadow (.ofStaging counters failures)).report.stale = 0 ∧
      (compare live shadow (.ofStaging counters failures)).report.conflicting = 0) ↔
      ∀ d ∈ shadow.records, (changeOf live d).Forward := by
  have hstale := tally_compare live shadow (.ofStaging counters failures) .stale
  have hconflicting := tally_compare live shadow (.ofStaging counters failures) .conflicting
  have hzero : ∀ k, (UpdateReport.ofStaging counters failures).tally k = 0 := by
    intro k
    cases k <;> rfl
  rw [hzero, Nat.zero_add] at hstale hconflicting
  have hcount : ∀ k, (shadow.records.map (changeOf live)).count k = 0 ↔
      ∀ d ∈ shadow.records, changeOf live d ≠ k := by
    intro k
    rw [List.count_eq_zero, List.mem_map]
    exact ⟨fun h d hd heq => h ⟨d, hd, heq⟩, fun h ⟨d, hd, heq⟩ => h d hd heq⟩
  show UpdateReport.tally _ .stale = 0 ∧ UpdateReport.tally _ .conflicting = 0 ↔ _
  rw [hstale, hconflicting, hcount, hcount]
  exact ⟨fun h d hd => ⟨h.1 d hd, h.2 d hd⟩, fun h => ⟨fun d hd => (h d hd).1, fun d hd => (h d hd).2⟩⟩

/-! ## §3. The live channel that counts. -/

theorem primaryDest_mem_primaryKeys (c : Channel) : c.primaryDest ∈ c.primaryKeys := by
  simp [Channel.primaryDest, Channel.primaryKeys, Endpoint.keys, Endpoint.ports]

/-- **Each channel is compared with the live channel that has its primary pair as its own**,
and with no other that claims the pair. -/
theorem liveMatch_eq_some_iff {live : Registry} (hl : live.Findable) {d c : Channel} {h : Handle} :
    liveMatch live d = some (h, c) ↔ (h, c) ∈ live.channels ∧ c.primaryDest = d.primaryDest := by
  rw [hl.mem_channels]
  unfold liveMatch
  simp only [Option.bind_eq_bind, Option.bind_eq_some_iff, Option.ite_none_right_eq_some,
    Option.some.injEq, Prod.mk.injEq]
  constructor
  · rintro ⟨k, -, x, hx, hdest, rfl, rfl⟩
    exact ⟨hx, hdest⟩
  · rintro ⟨hc, hdest⟩
    refine ⟨h, ?_, c, hc, hdest, rfl, rfl⟩
    rw [← hdest]
    exact hl.leads h c hc _ (primaryDest_mem_primaryKeys c)

theorem forward_changeOf_iff {live : Registry} (hl : live.Findable) {d : Channel} :
    (changeOf live d).Forward ↔
      ∀ c ∈ live.records, c.primaryDest = d.primaryDest → d.Supersedes c := by
  have hmem : ∀ c, c ∈ live.records ↔ ∃ h, (h, c) ∈ live.channels := by
    intro c
    simp [records]
  unfold changeOf
  cases hm : liveMatch live d with
  | none =>
    -- no live channel has the pair as its own
    refine iff_of_true ⟨by simp, by simp⟩ fun c hc hdest => ?_
    obtain ⟨h, hh⟩ := (hmem c).1 hc
    rw [(liveMatch_eq_some_iff hl).2 ⟨hh, hdest⟩] at hm
    cases hm
  | some p =>
    obtain ⟨h, c⟩ := p
    obtain ⟨hc, hdest⟩ := (liveMatch_eq_some_iff hl).1 hm
    show (Change.between c d).Forward ↔ _
    rw [Change.forward_between_iff]
    constructor
    · intro hforward x hx hdest'
      obtain ⟨k, hk⟩ := (hmem x).1 hx
      rw [(liveMatch_eq_some_iff hl).2 ⟨hk, hdest'⟩] at hm
      cases hm
      exact hforward
    · exact fun hall => hall c ((hmem c).2 ⟨h, hc⟩) hdest

/-! ## §4. What it takes to commit. -/

/-- Staging takes all sessions of the document in. -/
theorem stage_fresh (live : Registry) (document : String) :
    fresh.stage live document =
      let staged := takeIn 0 live.emptyLike (Document.sessions document)
      let report := UpdateReport.ofStaging staged.1.counters staged.2
      (.ok report, ⟨.staging staged.1, report⟩) := rfl

theorem exists_stage_fresh {live : Registry} {document : String}
    (hclean : (takeIn 0 live.emptyLike (Document.sessions document)).2 = []) :
    ∃ report staged, fresh.stage live document = (.ok report, staged) ∧ report.failures = [] :=
  ⟨_, _, stage_fresh live document, hclean⟩

/-- **An update commits** exactly if every session was taken in, nothing speaks against a
channel, and the successor can be made. -/
theorem run_eq_ok_iff {live next : Registry} {document : String} {now : Instant}
    {report : UpdateReport} :
    run live document now = .ok (next, report) ↔
      let staged := takeIn 0 live.emptyLike (Document.sessions document)
      let s := compare live staged.1 (.ofStaging staged.1.counters staged.2)
      staged.2 = [] ∧ (∀ d ∈ staged.1.records, (changeOf live d).Forward) ∧
        successor live s.shadow now = .ok next ∧ s.report = report := by
  rw [run_eq]
  generalize takeIn 0 live.emptyLike (Document.sessions document) = staged
  obtain ⟨shadow, failures⟩ := staged
  dsimp only
  rw [← compare_forward_iff live shadow shadow.counters failures]
  generalize compare live shadow (.ofStaging shadow.counters failures) = s
  by_cases hclean : failures = []
  · rw [if_pos hclean]
    by_cases hforward : s.report.stale = 0 ∧ s.report.conflicting = 0
    · rw [if_pos hforward]
      cases successor live s.shadow now with
      | error e => simp
      | ok q => simp [hclean, hforward]
    · simp [hforward]
  · simp [hclean]

/-- **The channels of a shadow can replace those of any registry in which all channels are
found**, also where a handle may stand for more than one. -/
theorem exists_successor {live shadow shadow' : Registry} (hl : live.Linked)
    (hshadow : shadow.Indexed) (hmarked : Marked shadow shadow')
    (hmax : shadow.maxChannels = live.maxChannels) (now : Instant) :
    ∃ next, successor live shadow' now = .ok next := by
  have hlen := shadow.length_inService_le
  have hrecords := hshadow.length_records
  have hsize := hshadow.size_le
  have hroom := hl.size_destroyAll_add_le (Nat.le_trans hlen hshadow.length_records_le)
    (by omega)
  have hmax' : live.destroyAll.maxChannels = live.maxChannels :=
    congrArg RegistryConfig.maxChannels live.config_destroyAll
  obtain ⟨r, hr⟩ := exists_insertAll (r := live.destroyAll)
    (hshadow.fits.sublist (List.filter_sublist (p := (·.active)))) (fun c _ => rfl)
    (fun c _ x _ => AddressMap.lookup_clear _ _ _) (fun c _ x _ => AddressMap.lookup_clear _ _ _)
    (hmax' ▸ hroom)
  refine ⟨_, successor_eq_ok_iff.2 ⟨r, ?_, rfl⟩⟩
  rw [insertAll_marked _ hmarked]
  exact hr

/-- **What a committed update leaves behind**, where the indices of the live registry agree
with a scan: the channels in service of its shadow, in order and unmarked, none of which takes
a live channel back. -/
theorem indexed_of_run {live next : Registry} (hl : live.Indexed) {document : String}
    {now : Instant} {report : UpdateReport} (hrun : run live document now = .ok (next, report)) :
    let staged := takeIn 0 live.emptyLike (Document.sessions document)
    staged.2 = [] ∧
      (∀ c ∈ live.records, ∀ d ∈ staged.1.records, c.primaryDest = d.primaryDest →
        d.Supersedes c) ∧
      next.Indexed ∧ next.config = live.config ∧
      next.records = staged.1.inService.map unmarked := by
  obtain ⟨hclean, hforward, hnext, -⟩ := run_eq_ok_iff.1 hrun
  generalize takeIn 0 live.emptyLike (Document.sessions document) = staged
    at hclean hforward hnext ⊢
  refine ⟨hclean, fun c hc d hd => (forward_changeOf_iff hl.findable).1 (hforward d hd) c hc, ?_⟩
  obtain ⟨r, hins, rfl⟩ := successor_eq_ok_iff.1 hnext
  rw [insertAll_marked _ (compare_marked live _ _)] at hins
  -- there are numbers for the places of all channels in service
  have hlen : staged.1.inService.length ≤ UInt32.size :=
    length_le_of_nodup_keys (fun c hc => (List.mem_filter.1 hc).1) (nodup_keys_of_insertAll hins).1
  obtain ⟨hindexed, hconfig, hrecords⟩ := hl.toSeated.insertAll_destroyAll hlen hins
  exact ⟨hindexed.congr rfl, hconfig, hrecords⟩

/-- **A document whose channels fit beside each other, and take no live channel back, is
committed**, and its channels in service are live then. -/
theorem run_of_fits {live : Registry} (hl : live.Indexed) {document : String}
    {es : List Extraction}
    (hes : (Document.sessions document).map (extractText · live.channelType) = es.map .ok)
    (hfits : Fits (es.map (·.channel))) (hmax : es.length ≤ live.maxChannels)
    (hroom : es.length ≤ UInt32.size)
    (hforward : ∀ c ∈ live.records, ∀ e ∈ es, c.primaryDest = e.channel.primaryDest →
      e.channel.Supersedes c) (now : Instant) :
    ∃ next report, run live document now = .ok (next, report) ∧
      next.records = (es.map (·.channel)).filter (·.active) := by
  have hsize : live.emptyLike.size + es.length = es.length := Nat.zero_add _
  have hunmarked := map_unmarked_of_extractText hes
  obtain ⟨hclean, happ⟩ := takeIn_of_fits live.indexed_emptyLike live.packed_emptyLike 0 hes
    hfits (by rw [hsize]; exact hmax) (Nat.le_trans (Nat.min_le_right _ _) (by rw [hsize]; exact hroom))
  have hrecords := happ.records
  rw [live.records_emptyLike, List.nil_append] at hrecords
  obtain ⟨next, hnext, hnew⟩ := successor_of_indexed hl.toSeated happ.indexed
    (compare_marked live _ _) happ.maxChannels now
  refine ⟨next, _, run_eq_ok_iff.2 ⟨hclean, fun d hd => ?_, hnext, rfl⟩, ?_⟩
  · rw [hrecords] at hd
    obtain ⟨e, he, rfl⟩ := List.mem_map.1 hd
    exact (forward_changeOf_iff hl.findable).2 fun c hc => hforward c hc e he
  · rw [hnew, inService, hrecords, map_unmarked_filter, hunmarked]

end Coordinator

/-! ## §5. Registries that are live at some time. -/

namespace Registry

open Coordinator

/-- The registries that steps and committed updates lead to from an empty one. No key and
no pair is left behind, but nothing is asked of how many channels are allowed. -/
inductive Current (config : RegistryConfig) : Registry → Prop where
  | empty : Current config (.empty config)
  | step {r r' : Registry} : Current config r → Step r r' → Current config r'
  | commit {r next : Registry} {report : UpdateReport} (c : Coordinator) (now : Instant) :
      Current config r → (c.commit r now).1 = .ok (next, report) → Current config next

/-- They are among those of which less is asked. -/
theorem Current.live {config : RegistryConfig} {r : Registry} (hr : Current config r) :
    Live config r := by
  induction hr with
  | empty => exact .empty
  | step _ hs ih => exact .step ih hs
  | commit c now _ hcommit ih => exact .commit c now ih hcommit

/-- **All channels are found**, whatever was done. -/
theorem Current.linked {config : RegistryConfig} {r : Registry} (hr : Current config r) :
    r.Linked :=
  hr.live.linked

theorem Current.config_eq {config : RegistryConfig} {r : Registry} (hr : Current config r) :
    r.config = (Registry.empty config).config :=
  hr.live.config_eq

/-! ## §6. Every document that can be staged. -/

/-- **A DOCUMENT WITHOUT FAILURES IS COMMITTED EXACTLY IF IT TAKES NO LIVE CHANNEL BACK**:
whenever a live channel and one of the document, in service or not, have the same primary
pair, the one of the document is newer, or has the same version and the same fingerprint.
No other live channel takes part, whichever stream claims the pair for it.

A handle numbers its place with 32 bits. In a shadow of more than 2³² channels two of them
would get one handle, and only one of the two would be compared; so no more are taken in here.
The live registry may hold as many channels as are allowed. -/
theorem Current.commits_iff {config : RegistryConfig} {live : Registry}
    (hlive : Current config live) {document : String} {report : UpdateReport} {staged : Coordinator}
    (hstage : fresh.stage live document = (.ok report, staged)) (hclean : report.failures = [])
    (hroom : min config.maxChannels (Document.sessions document).length ≤ UInt32.size)
    (now : Instant) :
    ∃ es : List Extraction,
      (Document.sessions document).map (extractText · config.channelType) = es.map .ok ∧
      staged.phase.shadow?.map (·.channels.map (·.2)) = some (es.map (·.channel)) ∧
      ((∃ next report, run live document now = .ok (next, report)) ↔
        ∀ c ∈ live.channels.map (·.2), ∀ e ∈ es, c.primaryDest = e.channel.primaryDest →
          e.channel.Supersedes c) ∧
      ∀ e ∈ es, ∀ h c, liveMatch live e.channel = some (h, c) ↔
        (h, c) ∈ live.channels ∧ c.primaryDest = e.channel.primaryDest := by
  have hmax : live.maxChannels = config.maxChannels :=
    congrArg RegistryConfig.maxChannels hlive.config_eq
  have htype : live.channelType = config.channelType :=
    congrArg RegistryConfig.channelType hlive.config_eq
  have hlinked := hlive.linked
  rw [stage_fresh] at hstage
  obtain ⟨hreport, rfl⟩ := Prod.mk.inj hstage
  obtain rfl := Except.ok.inj hreport
  -- the shadow holds the channels of all sessions, in order
  have hroom' : live.emptyLike.RoomFor (Document.sessions document).length := by
    show min live.maxChannels (0 + _) ≤ UInt32.size
    rw [Nat.zero_add, hmax]
    exact hroom
  obtain ⟨es, hes, happ⟩ := takeIn_appended live.indexed_emptyLike live.packed_emptyLike 0
    (Document.sessions document) hroom' hclean
  have hrecords := happ.records
  rw [live.records_emptyLike, List.nil_append] at hrecords
  refine ⟨es, htype ▸ hes, congrArg some hrecords, ?_,
    fun e _ h c => liveMatch_eq_some_iff hlinked.toFindable⟩
  -- against the live channels only versions and fingerprints speak
  have hforward : (∀ c ∈ live.records, ∀ e ∈ es, c.primaryDest = e.channel.primaryDest →
      e.channel.Supersedes c) ↔ ∀ d ∈ (takeIn 0 live.emptyLike (Document.sessions document)).1.records,
        (changeOf live d).Forward := by
    rw [hrecords, List.forall_mem_map]
    simp only [forward_changeOf_iff hlinked.toFindable]
    exact ⟨fun h e he c hc => h c hc e he, fun h c hc e he => h e he c hc⟩
  refine Iff.trans ?_ hforward.symm
  constructor
  · rintro ⟨next, report, hrun⟩
    exact (run_eq_ok_iff.1 hrun).2.1
  · intro hall
    obtain ⟨next, hnext⟩ := exists_successor hlinked happ.indexed (compare_marked live _ _)
      happ.maxChannels now
    exact ⟨next, _, run_eq_ok_iff.2 ⟨hclean, hall, hnext, rfl⟩⟩

theorem sessions_broadcastText : Document.sessions broadcastText = [broadcastText] := by
  rw [broadcastText, Document.sessions_ofList]
  decide +kernel

theorem extractText_broadcastText :
    ∃ e, extractText broadcastText .linear = .ok e ∧ Claimable e.channel ∧
      e.channel.primaryDest = datagramChannel.primaryDest ∧
      ¬e.channel.Supersedes datagramChannel := by
  refine exists_ok_of_any ?_
  rw [broadcastText, extractText_ofList]
  decide +kernel

/-- A broadcast that comes upon a channel for bare datagrams with the same primary pair and the
same version is found to be another one, and is not committed. -/
theorem Current.commits_iff_broadcast :
    ∃ live report staged, Current .standard live ∧ live.channels = [(⟨0, 0⟩, datagramChannel)] ∧
      fresh.stage live broadcastText = (.ok report, staged) ∧ report.failures = [] ∧
      ∃ e : Extraction, extractText broadcastText .linear = .ok e ∧
        staged.phase.shadow?.map (·.channels.map (·.2)) = some [e.channel] ∧
        liveMatch live e.channel = some (⟨0, 0⟩, datagramChannel) ∧
        ¬e.channel.Supersedes datagramChannel ∧
        ¬∃ next report, run live broadcastText ⟨0, 0⟩ = .ok (next, report) := by
  have hlive : Current .standard ((Registry.empty .standard).insert datagramChannel).2 :=
    .step .empty (.insert datagramChannel)
  have hchannels : ((Registry.empty .standard).insert datagramChannel).2.channels
      = [(⟨0, 0⟩, datagramChannel)] := by decide +kernel
  generalize ((Registry.empty .standard).insert datagramChannel).2 = live at hlive hchannels
  have htype : live.channelType = .linear := congrArg RegistryConfig.channelType hlive.config_eq
  have hmax : live.emptyLike.maxChannels = 1000 := congrArg RegistryConfig.maxChannels hlive.config_eq
  obtain ⟨e, he, hclaimable, hdest, hother⟩ := extractText_broadcastText
  have hes : (Document.sessions broadcastText).map (extractText · live.channelType)
      = [e].map .ok := by
    rw [sessions_broadcastText, htype, List.map_singleton, he]
    rfl
  have hsize : live.emptyLike.size + [e].length = 1 := rfl
  obtain ⟨hnone, -⟩ := takeIn_of_fits live.indexed_emptyLike live.packed_emptyLike 0 hes
    (fits_singleton hclaimable) (by rw [hsize, hmax]; decide)
    (by unfold RoomFor; rw [hsize, hmax]; decide)
  obtain ⟨report, staged, hstage, hclean⟩ := exists_stage_fresh hnone
  obtain ⟨es, hes', hshadow, hiff, hmatch⟩ :=
    hlive.commits_iff hstage hclean (by rw [sessions_broadcastText]; decide) ⟨0, 0⟩
  -- the only session gives the only channel of the shadow
  rw [htype] at hes
  obtain rfl : [e] = es :=
    List.map_injective_iff.2 (fun _ _ => Except.ok.inj) (hes.symm.trans hes')
  refine ⟨live, report, staged, hlive, hchannels, hstage, hclean, e, he, hshadow, ?_, hother, ?_⟩
  · rw [hmatch e List.mem_cons_self, hchannels]
    exact ⟨List.mem_cons_self, hdest.symm⟩
  · rw [hiff, hchannels]
    intro hall
    exact hother (hall _ List.mem_cons_self e List.mem_cons_self hdest.symm)

end Registry

end Lineup
