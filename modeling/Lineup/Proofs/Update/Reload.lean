/-
  Lineup.Proofs.Update.Reload
  ───────────────────────────
  **A SAVED CONFIGURATION AND ITS LOADING.**  What an update leaves behind are
  channels that were drawn from texts (`Settled`), so each of them is drawn again
  from its own text, unless it is exempt.  Beside each other they fit, and nothing
  live speaks against them.  So the document of a live configuration is loaded back
  exactly if no channel is exempt; one that is makes the whole document refused.

  Nothing is asked of how many channels are allowed: a shadow with more channels than
  there are numbers for places may be staged, but is not committed.

  Main results:
    * `Settled.run` — every committed update leaves a settled registry;
    * `Settled.reload`, `Settled.reload_refused` — when its document is loaded back;
    * `Manager.Reached.reload_iff` — the same for every manager that can be reached.
-/
import Lineup.Proofs.Update.Comparison
import Lineup.Update.Manager

namespace Lineup

/-! ## §1. Channels that were drawn from texts. -/

namespace Coordinator

open Registry

/-- What is known of a shadow without failures, however many channels it holds. -/
theorem takeIn_drawn {r : Registry} {i : Nat} {texts : List String}
    (hr : r.Holds fun c => Channel.DrawnUnder r.channelType (unmarked c))
    (hclean : (takeIn i r texts).2 = []) :
    ((takeIn i r texts).1.Holds fun c => Channel.DrawnUnder r.channelType (unmarked c)) ∧
      ∀ text ∈ texts, ∃ e, extractText text r.channelType = .ok e := by
  induction texts generalizing r i with
  | nil => exact ⟨hr, by simp⟩
  | cons text texts ih =>
    rcases hadd : r.addText text with ⟨x | h, r'⟩
    · rw [takeIn_cons_of_error hadd] at hclean
      cases hclean
    · rw [takeIn_cons_of_ok hadd] at hclean ⊢
      obtain ⟨e, he, hins⟩ := addText_eq_ok_iff.1 hadd
      -- a registry that takes a channel in keeps its channel type
      have htype : r'.channelType = r.channelType := by
        obtain ⟨-, p, f, rfl⟩ := insert_eq_ok hins
        rfl
      have hdrawn : Channel.DrawnUnder r.channelType (unmarked e.channel) :=
        ⟨text, e, he, (unmarked_of_extractText he).symm⟩
      have hheld := Registry.Holds.insert (r := r.counted) hr (c := e.channel) hdrawn
      rw [hins, ← htype] at hheld
      rw [← htype]
      obtain ⟨hheld', hrest⟩ := ih hheld hclean
      refine ⟨hheld', ?_⟩
      rw [List.forall_mem_cons]
      exact ⟨⟨e, htype ▸ he⟩, hrest⟩

end Coordinator

/-! ## §2. What an update leaves behind. -/

namespace Registry

/-- A registry with nothing but channels in service that were drawn from texts. -/
structure Settled (config : RegistryConfig) (r : Registry) : Prop where
  indexed : r.Indexed
  setup : r.config = (Registry.empty config).config
  drawn : ∀ c ∈ r.records, c.DrawnUnder config.channelType
  active : ∀ c ∈ r.records, c.active = true

theorem settled_empty (config : RegistryConfig) : Settled config (empty config) where
  indexed := indexed_empty config
  setup := rfl
  drawn := by
    intro c hc
    cases hc
  active := by
    intro c hc
    cases hc

theorem Holds.of_mem_records {P : Channel → Prop} {r : Registry} (hr : r.Holds P) {c : Channel}
    (hc : c ∈ r.records) : P c := by
  obtain ⟨h, hget⟩ := exists_of_mem_records hc
  exact Arena.Holds.resolve hr hget

/-- **Every committed update leaves a settled registry.** -/
theorem Settled.run {config : RegistryConfig} {live next : Registry} (hl : Settled config live)
    {document : String} {now : Instant} {report : UpdateReport}
    (hrun : Coordinator.run live document now = .ok (next, report)) : Settled config next := by
  have htype : live.channelType = config.channelType :=
    congrArg RegistryConfig.channelType hl.setup
  obtain ⟨hclean, -, hindexed, hconfig, hrecords⟩ := Coordinator.indexed_of_run hl.indexed hrun
  obtain ⟨hheld, -⟩ := Coordinator.takeIn_drawn (r := live.emptyLike) (holds_empty _) hclean
  refine ⟨hindexed, hconfig.trans hl.setup, fun c hc => ?_, fun c hc => ?_⟩
  · rw [hrecords] at hc
    obtain ⟨d, hd, rfl⟩ := List.mem_map.1 hc
    rw [← htype]
    exact hheld.of_mem_records (List.mem_filter.1 hd).1
  · rw [hrecords] at hc
    obtain ⟨d, hd, rfl⟩ := List.mem_map.1 hc
    exact (List.mem_filter.1 hd).2

end Registry

/-! ## §3. Updates of an empty registry. -/

namespace Coordinator

open Registry

/-- **An empty registry takes a document whose channels fit beside each other**, and then
holds those in service. -/
theorem run_empty_of_fits {config : RegistryConfig} {document : String} {es : List Extraction}
    (hes : (Document.sessions document).map (extractText · config.channelType) = es.map .ok)
    (hfits : Fits (es.map (·.channel))) (hmax : es.length ≤ config.maxChannels)
    (hroom : es.length ≤ UInt32.size) (now : Instant) :
    ∃ next report, run (.empty config) document now = .ok (next, report) ∧
      next.records = (es.map (·.channel)).filter (·.active) := by
  refine run_of_fits (indexed_empty config) hes hfits hmax hroom (fun c hc => ?_) now
  cases hc

end Coordinator

/-! ## §4. Loading a document back. -/

namespace Registry

variable {config : RegistryConfig} {r : Registry}

theorem Settled.sessions (h : Settled config r) (t : Instant) :
    Document.sessions (Document.ofRegistry r t.rfc3339) = r.records.map Document.channelText := by
  exact Document.sessions_ofRegistry (fun c hc => (h.drawn c hc).printable) t.inline_rfc3339

/-- Every channel is drawn again from its text. -/
theorem Settled.redrawn (h : Settled config r) (hexempt : ∀ c ∈ r.records, ¬c.Exempt) :
    ∃ es : List Extraction,
      (r.records.map Document.channelText).map (extractText · config.channelType) = es.map .ok ∧
        es.map (·.channel) = r.records := by
  have hagain : ∀ c ∈ r.records,
      extractText (Document.channelText c) config.channelType = .ok ⟨c, c.notes⟩ := by
    intro c hc
    obtain ⟨text, e, he, rfl⟩ := h.drawn c hc
    exact (extractText_channelText_iff he).2 ⟨hexempt _ hc, rfl⟩
  refine ⟨r.records.map fun c => ⟨c, c.notes⟩, ?_, ?_⟩
  · simp only [List.map_map, Function.comp_def]
    exact List.map_congr_left hagain
  · rw [List.map_map]
    exact List.map_id _

/-- **A settled registry without exempt channels is loaded back from its document**, channel
by channel. -/
theorem Settled.reload (h : Settled config r) (hexempt : ∀ c ∈ r.records, ¬c.Exempt)
    (t now : Instant) :
    ∃ next report,
      Coordinator.run (.empty config) (Document.ofRegistry r t.rfc3339) now = .ok (next, report) ∧
        next.records = r.records := by
  have hmax : r.maxChannels = config.maxChannels := congrArg RegistryConfig.maxChannels h.setup
  have hlen := h.indexed.length_records
  obtain ⟨es, hes, hchannels⟩ := h.redrawn hexempt
  have hcount : es.length = r.records.length := by
    rw [← hchannels, List.length_map]
  rw [← h.sessions t] at hes
  obtain ⟨next, report, hrun, hrecords⟩ := Coordinator.run_empty_of_fits hes
    (hchannels ▸ h.indexed.fits) (by rw [hcount, hlen, ← hmax]; exact h.indexed.size_le)
    (hcount ▸ h.indexed.length_records_le) now
  refine ⟨next, report, hrun, ?_⟩
  rw [hrecords, hchannels]
  exact List.filter_eq_self.2 h.active

/-- **One exempt channel, and the whole document is refused.** -/
theorem Settled.reload_refused (h : Settled config r) (hexempt : ∃ c ∈ r.records, c.Exempt)
    (t now : Instant) :
    ∃ report, Coordinator.run (.empty config) (Document.ofRegistry r t.rfc3339) now
      = .error (.rejected report) := by
  obtain ⟨c, hc, hex⟩ := hexempt
  rw [Coordinator.run_eq, h.sessions]
  dsimp only
  refine ⟨_, if_neg fun hclean => ?_⟩
  obtain ⟨-, hall⟩ := Coordinator.takeIn_drawn (holds_empty _) hclean
  obtain ⟨e', he'⟩ := hall _ (List.mem_map_of_mem hc)
  obtain ⟨text, e, he, rfl⟩ := h.drawn c hc
  exact ((extractText_channelText_iff he).1 he').1 hex

end Registry

/-! ## §5. Every manager. -/

namespace Manager

/-- The managers that updates lead to from one without channels, whether they are
committed or refused. -/
inductive Reached (config : RegistryConfig) : Manager → Prop where
  | empty : Reached config (.empty config)
  | apply {m : Manager} (document : String) (now : Instant) :
      Reached config m → Reached config (m.apply document now).2

theorem apply_of_ok {m : Manager} {document : String} {now : Instant} {next : Registry}
    {report : UpdateReport} (hrun : Coordinator.run m.live document now = .ok (next, report)) :
    m.apply document now = (.ok report, { m with live := next, lastReport := some report }) := by
  unfold Manager.apply
  rw [hrun]

theorem apply_of_error {m : Manager} {document : String} {now : Instant} {e : UpdateError}
    (hrun : Coordinator.run m.live document now = .error e) :
    m.apply document now = (.error e, { m with lastReport := e.report?.or m.lastReport }) := by
  unfold Manager.apply
  rw [hrun]

theorem Reached.settled {config : RegistryConfig} {m : Manager} (hm : Reached config m) :
    m.live.Settled config := by
  induction hm with
  | empty => exact Registry.settled_empty config
  | @apply m document now _ ih =>
    cases hrun : Coordinator.run m.live document now with
    | ok p =>
      rw [apply_of_ok hrun]
      exact ih.run hrun
    | error e =>
      rw [apply_of_error hrun]
      exact ih

/-- **THE SAVED CONFIGURATION OF A MANAGER IS LOADED BACK EXACTLY IF NO CHANNEL IS EXEMPT**:
then a manager without channels that is set up in the same way takes the rendered
document and holds the same channels in the same order. If a channel is exempt, the
document as a whole is refused. -/
theorem Reached.reload_iff {config : RegistryConfig} {m : Manager} (hm : Reached config m)
    (t now : Instant) :
    ((∃ report m', (Manager.empty config).apply (m.render t.rfc3339) now = (.ok report, m') ∧
        m'.live.channels.map (·.2) = m.live.channels.map (·.2)) ↔
      ∀ c ∈ m.live.channels.map (·.2), ¬c.Exempt) ∧
    ((∃ c ∈ m.live.channels.map (·.2), c.Exempt) →
      ∃ report m', (Manager.empty config).apply (m.render t.rfc3339) now
        = (.error (.rejected report), m')) := by
  have hsettled := hm.settled
  have hrefused : (∃ c ∈ m.live.channels.map (·.2), c.Exempt) →
      ∃ report m', (Manager.empty config).apply (m.render t.rfc3339) now
        = (.error (.rejected report), m') := by
    intro hexempt
    obtain ⟨report, hrun⟩ := hsettled.reload_refused hexempt t now
    exact ⟨report, _, apply_of_error hrun⟩
  refine ⟨⟨?_, fun hexempt => ?_⟩, hrefused⟩
  · rintro ⟨report, m', hok, -⟩ c hc hex
    obtain ⟨report', m'', herr⟩ := hrefused ⟨c, hc, hex⟩
    rw [hok] at herr
    cases herr
  · obtain ⟨next, report, hrun, hrecords⟩ := hsettled.reload hexempt t now
    exact ⟨report, _, apply_of_ok hrun, hrecords⟩

/-- A channel whose stream for repair has an empty tag, line by line. -/
def emptyTagLines : List (List Char) :=
  ["v=0", "o=- 1 1 IN IP4 10.0.0.1", "s=News", "t=0 0", "m=video 5000 RTP/AVPF 96",
    "c=IN IP4 239.0.0.1/64", "a=sendonly", "a=rtpmap:96 MP2T/90000",
    "a=source-filter: incl IN IP4 239.0.0.1 10.0.0.2", "a=mid:v", "m=video 6000 RTP/AVPF 97",
    "c=IN IP4 10.0.0.9", "a=inactive", "a=rtpmap:97 rtx/90000", "a=fmtp:97 apt=96;rtx-time=3000",
    "a=mid:"].map String.toList

/-- The text of these lines. -/
def emptyTagText : String := .ofList (Document.unlines emptyTagLines)

theorem sessions_emptyTagText : Document.sessions emptyTagText = [emptyTagText] := by
  have htexts : Document.sessionTexts (Document.unlines emptyTagLines)
      = [Document.unlines emptyTagLines] := by
    decide +kernel
  rw [emptyTagText, Document.sessions_ofList, htexts, List.map_singleton]

theorem extractText_emptyTagText :
    ∃ e, extractText emptyTagText .linear = .ok e ∧ e.channel.Exempt ∧ e.channel.active = true ∧
      Registry.Claimable e.channel := by
  obtain ⟨e, he, hmode, hp, hq, hactive, hclaimable⟩ :=
    exists_ok_of_any (x := extractText emptyTagText .linear) (p := fun e =>
      e.channel.mode = .distribution ∧ e.channel.primary.endpoint.mid = some "v" ∧
        e.channel.rtx.bind (·.endpoint.mid) = some "" ∧ e.channel.active = true ∧
        Registry.Claimable e.channel) (by
      rw [emptyTagText, extractText_ofList]
      decide +kernel)
  obtain ⟨r, hr, hq⟩ := Option.bind_eq_some_iff.1 hq
  refine ⟨e, he, ⟨Or.inl hmode, r, _, _, hr, hp, hq, ?_⟩, hactive, hclaimable⟩
  rintro ⟨-, hne, -⟩
  exact hne rfl

/-- It is taken, and what is saved is not loaded back. -/
theorem Reached.reload_iff_emptyTag :
    ∃ m, Reached .standard m ∧ (∃ c ∈ m.live.channels.map (·.2), c.Exempt) ∧
      ∃ report m', (Manager.empty .standard).apply (m.render (Instant.rfc3339 ⟨0, 0⟩)) ⟨0, 0⟩
        = (.error (.rejected report), m') := by
  obtain ⟨e, he, hexempt, hactive, hclaimable⟩ := extractText_emptyTagText
  have hes : (Document.sessions emptyTagText).map
      (extractText · RegistryConfig.standard.channelType) = [e].map .ok := by
    rw [sessions_emptyTagText, List.map_singleton, List.map_singleton]
    exact congrArg (· :: []) he
  obtain ⟨next, report, hrun, hrecords⟩ := Coordinator.run_empty_of_fits hes
    (Registry.fits_singleton hclaimable) (by show 1 ≤ 1000; decide) (by show 1 ≤ UInt32.size; decide)
    ⟨0, 0⟩
  have hreached : Reached .standard _ := .apply emptyTagText ⟨0, 0⟩ .empty
  rw [apply_of_ok (m := .empty .standard) hrun] at hreached
  have hmem : ∃ c ∈ next.records, c.Exempt := by
    rw [hrecords]
    exact ⟨e.channel, by simp [hactive], hexempt⟩
  exact ⟨_, hreached, hmem, (hreached.reload_iff ⟨0, 0⟩ ⟨0, 0⟩).2 hmem⟩

end Manager

end Lineup
