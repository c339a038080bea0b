/-
  Lineup.Proofs.Update.Again
  ──────────────────────────
  **A DOCUMENT THAT IS APPLIED TWICE CHANGES NOTHING THE SECOND TIME.**  What is live
  after a committed update are the channels of the document that are in service.
  Measured against these, each of them finds itself and is unchanged.  A channel out of
  service shares its primary pair with none of them, for all channels of the document
  stood beside each other in the shadow; so it counts as added, as it did before, and is
  left out again.

  Main results:
    * `changeOf_inService`, `leftOver_inService` — channels measured against those of
      them that are in service;
    * `reportOn_inService` — so what is reported on a document that is live already;
    * `Live.run_again` — the second update.
-/
import Lineup.Proofs.Update.Order
import Mathlib.Data.List.Pairwise

namespace Lineup

/-! ## §1. Channels measured against themselves. -/

/-- Channels that fit beside each other share no pair. -/
theorem Registry.Fits.eq_of_mem {cs : List Channel} (hf : Fits cs) {c d : Channel} (hc : c ∈ cs)
    (hd : d ∈ cs) {x : Ipv4 × UInt16} (hx : x ∈ c.primaryKeys) (hx' : x ∈ d.primaryKeys) :
    c = d := by
  by_contra hne
  have hpair := (List.nodup_flatMap.1 hf.primary).2
  have : Std.Symm (Function.onFun List.Disjoint Channel.primaryKeys) :=
    ⟨fun _ _ h _ hx hx' => h hx' hx⟩
  exact hpair.forall hc hd hne hx hx'

theorem Change.between_self (c : Channel) : between c c = .unchanged :=
  between_eq_unchanged_iff.2 ⟨rfl, rfl⟩

namespace Coordinator

open Registry

section InService

variable {next : Registry} {cs : List Channel}

/-- **A channel that is in service finds itself, and one out of service finds nothing.** -/
theorem changeOf_inService (hl : next.Findable) (hf : Fits cs)
    (hrecords : next.records = cs.filter (·.active)) {c : Channel} (hc : c ∈ cs) :
    changeOf next c = if c.active then .unchanged else .added := by
  unfold changeOf
  split
  · next hm =>
    -- a channel that finds nothing is not live
    rw [if_neg]
    intro hactive
    have hlive : c ∈ next.records := hrecords ▸ List.mem_filter.2 ⟨hc, hactive⟩
    obtain ⟨h, hget⟩ := exists_of_mem_records hlive
    rw [(liveMatch_eq_some_iff hl).2 ⟨hl.mem_channels.2 hget, rfl⟩] at hm
    cases hm
  · next h d hm =>
    -- and what a channel finds is a channel of the list with its pair
    obtain ⟨hd, hdest⟩ := (liveMatch_eq_some_iff hl).1 hm
    have hlive : d ∈ next.records := List.mem_map_of_mem (f := (·.2)) hd
    rw [hrecords, List.mem_filter] at hlive
    obtain rfl := hf.eq_of_mem hlive.1 hc (hdest ▸ primaryDest_mem_primaryKeys d)
      (primaryDest_mem_primaryKeys c)
    rw [if_pos hlive.2, Change.between_self]

/-- **Nothing that is live is left over.** -/
theorem leftOver_inService (hl : next.Seated) (hfind : next.Findable)
    (hrecords : next.records = cs.filter (·.active)) : leftOver next cs = [] := by
  unfold leftOver
  rw [List.filter_eq_nil_iff]
  intro h hh
  obtain ⟨c, hget⟩ := hl.exists_channel hh
  have hlive : c ∈ next.records := hfind.mem_records.2 ⟨h, hget⟩
  rw [hrecords, List.mem_filter] at hlive
  have hmatched : h ∈ matchedBy next cs := by
    refine List.mem_filterMap.2 ⟨c, hlive.1, ?_⟩
    rw [(liveMatch_eq_some_iff hfind).2 ⟨hfind.mem_channels.2 hget, rfl⟩]
    rfl
  simpa using hmatched

theorem count_inService (cs : List Channel) (k : Change) :
    (cs.map fun c => if c.active then Change.unchanged else .added).count k
      = match k with
        | .unchanged => cs.countP (·.active)
        | .added => cs.countP (!·.active)
        | _ => 0 := by
  induction cs with
  | nil => cases k <;> rfl
  | cons c cs ih =>
    rw [List.map_cons, List.count_cons, ih]
    cases hactive : c.active <;> cases k <;> simp [hactive]

/-- **What is reported on channels of which those in service are live already.** -/
theorem reportOn_inService (hl : next.Seated) (hfind : next.Findable) (hf : Fits cs)
    (hrecords : next.records = cs.filter (·.active)) :
    reportOn next cs = { UpdateReport.ofChanges cs.length [] 0 with
      added := cs.countP (!·.active)
      unchanged := next.size } := by
  have hchanges : cs.map (changeOf next)
      = cs.map fun c => if c.active then .unchanged else .added :=
    List.map_congr_left fun c hc => changeOf_inService hfind hf hrecords hc
  have hsize : next.size = cs.countP (·.active) := by
    rw [← hl.length_records, hrecords, List.countP_eq_length_filter]
  unfold reportOn UpdateReport.ofChanges
  rw [hchanges, leftOver_inService hl hfind hrecords, hsize]
  simp only [count_inService, List.length_nil, List.count_nil]

end InService

end Coordinator

/-! ## §2. Sessions with a stop time. -/

/-- Whether a text is a session with a stop time. -/
def hasStopTime (text : String) : Bool := (Session.ofText text).toOption.any (·.timing.stop != 0)

theorem hasStopTime_of_extractText {text : String} {channelType : ChannelType} {e : Extraction}
    (he : extractText text channelType = .ok e) : hasStopTime text = !e.channel.active := by
  obtain ⟨s, hs, hactive⟩ := active_of_extractText he
  rw [hasStopTime, hs, hactive]
  rfl

/-- They are those that give a channel out of service. -/
theorem countP_hasStopTime {channelType : ChannelType} {texts : List String} {es : List Extraction}
    (hes : texts.map (extractText · channelType) = es.map .ok) :
    texts.countP hasStopTime = (es.map (·.channel)).countP (!·.active) := by
  induction texts generalizing es with
  | nil =>
    cases es with
    | nil => rfl
    | cons e es => cases hes
  | cons text texts ih =>
    cases es with
    | nil => cases hes
    | cons e es =>
      rw [List.map_cons, List.map_cons] at hes
      obtain ⟨he, hes⟩ := List.cons.inj hes
      rw [List.map_cons, List.countP_cons, List.countP_cons, ih hes, hasStopTime_of_extractText he]

/-! ## §3. The second update. -/

namespace Registry

open Coordinator

/-- **A DOCUMENT THAT WAS COMMITTED IS COMMITTED AGAIN, AND CHANGES NOTHING**: the same channels
are live then in the same order; all of them are unchanged and none is removed, and only the
sessions with a stop time, whose channels are not live, count as added.

A handle numbers its place with 32 bits. With more than 2³² channels two of them get one
handle: so the live registry never held more at once, and no more are taken into the shadow.
Both are the case where no more are allowed. -/
theorem Live.run_again {config : RegistryConfig} {live : Registry} (hlive : Live config live)
    (hplaces : live.arena.places.size ≤ UInt32.size) {document : String}
    (hroom : min config.maxChannels (Document.sessions document).length ≤ UInt32.size)
    {now : Instant} {next : Registry} {report : UpdateReport}
    (hrun : run live document now = .ok (next, report)) (now' : Instant) :
    ∃ next' report', run next document now' = .ok (next', report') ∧
      next'.channels.map (·.2) = next.channels.map (·.2) ∧
      report'.stale = 0 ∧ report'.conflicting = 0 ∧ report'.updated = 0 ∧ report'.removed = 0 ∧
      report'.unchanged = next.size ∧
      report'.added = (Document.sessions document).countP hasStopTime := by
  have hnext := hlive.of_run hrun
  have hmax : next.maxChannels = live.maxChannels :=
    hnext.maxChannels_eq.trans hlive.maxChannels_eq.symm
  have htype : next.channelType = live.channelType :=
    hnext.channelType_eq.trans hlive.channelType_eq.symm
  rw [← hlive.maxChannels_eq] at hroom
  -- the channels of the document, of which those in service are live after the first update
  obtain ⟨es, hes, haccepts, -, hindexed, hrecords⟩ :=
    inService_of_run (hlive.seated_of_places hplaces) hroom hrun
  -- so the new live registry accepts all of them
  rw [← htype] at hes
  rw [← hmax] at hroom
  have haccepts' : Accepts next (es.map (·.channel)) := by
    refine ⟨haccepts.fits, hmax ▸ haccepts.room, fun c hc => ?_⟩
    rw [changeOf_inService hindexed.findable haccepts.fits hrecords hc]
    cases c.active with
    | _ => exact ⟨by simp, by simp⟩
  obtain ⟨next', report', hrun'⟩ := (exists_run_iff hnext.linked hroom now').2 ⟨es, hes, haccepts'⟩
  obtain ⟨es', hes', -, hreport, -, hrecords'⟩ := inService_of_run hindexed.toSeated hroom hrun'
  obtain rfl := drawn_unique hes hes'
  rw [reportOn_inService hindexed.toSeated hindexed.findable haccepts.fits hrecords] at hreport
  refine ⟨next', report', hrun', hrecords'.trans hrecords.symm, ?_⟩
  rw [hreport, countP_hasStopTime hes]
  exact ⟨rfl, rfl, rfl, rfl, rfl, rfl⟩

/-- The bulletins, one of which has a stop time. -/
theorem Live.run_again_bulletins :
    ∃ next report next' report',
      run oneDatagram (Document.boundary.intercalate bulletins) ⟨0, 0⟩ = .ok (next, report) ∧
      run next (Document.boundary.intercalate bulletins) ⟨60, 0⟩ = .ok (next', report') ∧
      next'.channels.map (·.2) = next.channels.map (·.2) ∧
      report'.stale = 0 ∧ report'.conflicting = 0 ∧ report'.updated = 0 ∧ report'.removed = 0 ∧
      report'.unchanged = next.size ∧
      report'.added = bulletins.countP hasStopTime := by
  obtain ⟨next, report, hrun⟩ := exists_run_bulletins
  have hplaces := live_oneDatagram.linked.places_le
  rw [live_oneDatagram.maxChannels_eq] at hplaces
  obtain ⟨next', report', hrun', hagain⟩ := live_oneDatagram.run_again
    (Nat.le_trans hplaces (by decide)) (by rw [sessions_bulletins]; decide) hrun ⟨60, 0⟩
  rw [sessions_bulletins] at hagain
  exact ⟨next, report, next', report', hrun, hrun', hagain⟩

end Registry

end Lineup
