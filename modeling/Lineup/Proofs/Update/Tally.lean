/-
  Lineup.Proofs.Update.Tally
  ──────────────────────────
  **WHAT IT TAKES TO COMMIT, AND WHAT IS REPORTED THEN.**  A document is committed
  exactly if a channel is drawn from each of its sessions and the live registry accepts
  the list of these channels (`Accepts`): they fit beside each other, there are no more
  of them than allowed, and none takes a live channel back.  The report counts the
  sessions, how the channels differ from the live ones, and the live channels that none
  of them replaces (`reportOn`).

  Shadow, marks and counters do not show in any of this, nor does the way in which the
  indices of the live registry came about: it only has to find its channels.

  Main results:
    * `drawn_of_run` — what a committed update reports, and where its channels went;
    * `inService_of_run` — which channels are live then;
    * `exists_run_iff` — which documents are committed.
-/
import Lineup.Proofs.Update.Comparison

namespace Lineup

/-! ## §1. Counting sessions. -/

/-- What is counted after some more texts, from each of which a channel was taken in. -/
def Counters.took (c : Counters) (n : Nat) : Counters :=
  { c with seen := c.seen + n, parsed := c.parsed + n, validated := c.validated + n }

namespace Coordinator

open Registry

/-- A shadow without failures has counted all texts as channels. -/
theorem counters_takeIn {i : Nat} {r : Registry} {texts : List String}
    (hclean : (takeIn i r texts).2 = []) :
    (takeIn i r texts).1.counters = r.counters.took texts.length := by
  induction texts generalizing r i with
  | nil => rfl
  | cons text texts ih =>
    rcases hadd : r.addText text with ⟨x | h, r'⟩
    · rw [takeIn_cons_of_error hadd] at hclean
      cases hclean
    · rw [takeIn_cons_of_ok hadd] at hclean ⊢
      obtain ⟨e, -, hins⟩ := addText_eq_ok_iff.1 hadd
      obtain ⟨-, p, f, rfl⟩ := insert_eq_ok hins
      rw [ih hclean, List.length_cons]
      show (r.counters.took 1).took texts.length = _
      unfold Counters.took
      simp only [Nat.add_assoc, Nat.add_comm 1]

end Coordinator

/-! ## §2. Counting changes. -/

/-- The report on sessions that are all channels, with how they differ from the live ones and
how many live ones are left over. -/
def UpdateReport.ofChanges (n : Nat) (changes : List Change) (removed : Nat) : UpdateReport where
  sessions := n
  parsed := n
  syntaxErrors := 0
  validated := n
  validationErrors := 0
  stale := changes.count .stale
  conflicting := changes.count .conflicting
  added := changes.count .added
  updated := changes.count .updated
  unchanged := changes.count .unchanged
  removed := removed
  failures := []

theorem UpdateReport.foldl_note (r : UpdateReport) (changes : List Change) :
    changes.foldl note r = { r with
      stale := r.stale + changes.count .stale
      conflicting := r.conflicting + changes.count .conflicting
      added := r.added + changes.count .added
      updated := r.updated + changes.count .updated
      unchanged := r.unchanged + changes.count .unchanged } := by
  induction changes generalizing r with
  | nil => rfl
  | cons k changes ih =>
    rw [List.foldl_cons, ih]
    cases k <;> simp [note, Nat.add_assoc, Nat.add_comm 1]

namespace Coordinator

open Registry

/-! ## §3. Counting live channels. -/

/-- The live channels that are replaced. -/
def matchedBy (live : Registry) (cs : List Channel) : List Handle :=
  cs.filterMap fun c => (liveMatch live c).map (·.1)

/-- The live channels that are not. -/
def leftOver (live : Registry) (cs : List Channel) : List Handle :=
  live.handles.filter (· ∉ matchedBy live cs)

theorem Comparison.matched_step (live : Registry) (s : Comparison) (h : Handle) :
    (step live s h).matched = matchedBy live (s.shadow.getAny h).toList ++ s.matched := by
  unfold step matchedBy
  cases s.shadow.getAny h with
  | none => rfl
  | some c =>
    dsimp only [Option.toList_some]
    cases hm : liveMatch live c with
    | none => simp [hm]
    | some p => simp [hm]

/-- Marks do not count here either. -/
theorem matchedBy_congr (live : Registry) {cs ds : List Channel}
    (h : cs.map unmarked = ds.map unmarked) : matchedBy live cs = matchedBy live ds := by
  have key : ∀ cs : List Channel, matchedBy live cs = matchedBy live (cs.map unmarked) := by
    intro cs
    unfold matchedBy
    rw [List.filterMap_map]
    rfl
  rw [key, h, ← key]

theorem Comparison.mem_matched_foldl (live : Registry) {shadow : Registry} (s : Comparison)
    (hs : List Handle) (hmarked : Marked shadow s.shadow) (k : Handle) :
    k ∈ (hs.foldl (step live) s).matched ↔
      k ∈ matchedBy live (hs.filterMap shadow.getAny) ∨ k ∈ s.matched := by
  induction hs generalizing s with
  | nil => simp [matchedBy]
  | cons h hs ih =>
    rw [List.foldl_cons, ih _ (hmarked.trans (step_marked live s h)), matched_step, List.mem_append]
    -- the channel may be marked by now, but is otherwise that of the shadow
    have hsame : matchedBy live (s.shadow.getAny h).toList
        = matchedBy live (shadow.getAny h).toList := by
      refine matchedBy_congr live ?_
      rw [← Option.toList_map, ← Option.toList_map, hmarked.2 h]
    have hcons : matchedBy live ((h :: hs).filterMap shadow.getAny)
        = matchedBy live (shadow.getAny h).toList ++ matchedBy live (hs.filterMap shadow.getAny) := by
      unfold matchedBy
      rw [← List.filterMap_append, List.filterMap_cons]
      cases shadow.getAny h with
      | none => rfl
      | some c => rfl
    rw [hsame, hcons, List.mem_append]
    tauto

/-! ## §4. The report. -/

/-- What is reported on channels that are compared with a live registry. -/
def reportOn (live : Registry) (cs : List Channel) : UpdateReport :=
  .ofChanges cs.length (cs.map (changeOf live)) (leftOver live cs).length

/-- **A comparison reports on the channels of the shadow.** -/
theorem report_compare (live shadow : Registry) {counters : Counters} {n : Nat}
    (hcounters : counters = Counters.zero.took n) (hn : shadow.records.length = n) :
    (compare live shadow (.ofStaging counters [])).report = reportOn live shadow.records := by
  have hfold := Comparison.report_foldl live ⟨shadow, .ofStaging counters [], []⟩ shadow.handles
    (.refl shadow)
  have hmatched := Comparison.mem_matched_foldl live ⟨shadow, .ofStaging counters [], []⟩
    shadow.handles (.refl shadow)
  rw [← records_eq] at hfold hmatched
  have hleft : ∀ s : Comparison,
      (∀ k, k ∈ s.matched ↔ k ∈ matchedBy live shadow.records ∨ k ∈ ([] : List Handle)) →
      live.handles.filter (fun h => !s.matched.contains h) = leftOver live shadow.records := by
    intro s hs
    unfold leftOver
    apply List.filter_congr
    intro h _
    have := hs h
    rw [Bool.eq_iff_iff]
    simpa using not_congr this
  unfold compare
  dsimp only
  rw [hfold, hleft _ hmatched, UpdateReport.foldl_note, hcounters, ← hn]
  simp only [UpdateReport.ofStaging, UpdateReport.blank, Counters.took, Counters.zero, Nat.zero_add]
  rfl

/-! ## §5. Which documents are committed. -/

/-- What a live registry asks of the channels of a document. -/
structure Accepts (live : Registry) (cs : List Channel) : Prop where
  fits : Fits cs
  room : cs.length ≤ live.maxChannels
  forward : ∀ c ∈ cs, (changeOf live c).Forward

section Staged

variable {live : Registry} {texts : List String} {es : List Extraction}

theorem length_of_drawn {channelType : ChannelType}
    (hes : texts.map (extractText · channelType) = es.map .ok) : es.length = texts.length := by
  have hlen := congrArg List.length hes
  rw [List.length_map, List.length_map] at hlen
  exact hlen.symm

theorem drawn_unique {channelType : ChannelType} {es' : List Extraction}
    (hes : texts.map (extractText · channelType) = es.map .ok)
    (hes' : texts.map (extractText · channelType) = es'.map .ok) : es = es' :=
  List.map_injective_iff.2 (fun _ _ h => Except.ok.inj h) (hes.symm.trans hes')

theorem records_of_appended {shadow : Registry} {cs : List Channel}
    (happ : Appended live.emptyLike shadow cs) : shadow.records = cs := by
  rw [happ.records, live.records_emptyLike, List.nil_append]

/-- A shadow without failures holds what was drawn from the texts, and nothing else. -/
theorem staged_of_clean (hroom : min live.maxChannels texts.length ≤ UInt32.size)
    (hclean : (takeIn 0 live.emptyLike texts).2 = []) :
    ∃ es : List Extraction, texts.map (extractText · live.channelType) = es.map .ok ∧
      Appended live.emptyLike (takeIn 0 live.emptyLike texts).1 (es.map (·.channel)) := by
  refine takeIn_appended live.indexed_emptyLike live.packed_emptyLike 0 texts ?_ hclean
  unfold RoomFor
  rwa [show live.emptyLike.size = 0 from rfl, Nat.zero_add]

/-- Texts whose channels fit beside each other are staged without a failure. -/
theorem clean_of_fits (hroom : min live.maxChannels texts.length ≤ UInt32.size)
    (hes : texts.map (extractText · live.channelType) = es.map .ok)
    (hfits : Fits (es.map (·.channel))) (hmax : es.length ≤ live.maxChannels) :
    (takeIn 0 live.emptyLike texts).2 = [] ∧
      Appended live.emptyLike (takeIn 0 live.emptyLike texts).1 (es.map (·.channel)) := by
  have hsize : live.emptyLike.size + es.length = es.length := Nat.zero_add _
  refine takeIn_of_fits live.indexed_emptyLike live.packed_emptyLike 0 hes hfits
    (by rw [hsize]; exact hmax) ?_
  unfold RoomFor
  rw [hsize, length_of_drawn hes]
  exact hroom

/-- There are numbers for the places of all accepted channels that are in service. -/
theorem Accepts.length_active_le (ha : Accepts live (es.map (·.channel)))
    (hes : texts.map (extractText · live.channelType) = es.map .ok)
    (hroom : min live.maxChannels texts.length ≤ UInt32.size) :
    ((es.map (·.channel)).filter (·.active)).length ≤ UInt32.size := by
  have hle := List.length_filter_le (·.active) (es.map (·.channel))
  have hmax := ha.room
  rw [List.length_map, length_of_drawn hes] at hle hmax
  omega

end Staged

/-- **What a committed update reports, and where its channels went**: those in service were
taken in, in order, where the live registry had given all its channels up. -/
theorem drawn_of_run {live next : Registry} {document : String} {now : Instant}
    {report : UpdateReport}
    (hroom : min live.maxChannels (Document.sessions document).length ≤ UInt32.size)
    (hrun : run live document now = .ok (next, report)) :
    ∃ es : List Extraction,
      (Document.sessions document).map (extractText · live.channelType) = es.map .ok ∧
      Accepts live (es.map (·.channel)) ∧ report = reportOn live (es.map (·.channel)) ∧
      ∃ r, insertAll live.destroyAll ((es.map (·.channel)).filter (·.active)) = .ok r ∧
        next = { r with counters := next.counters, lastRefresh := next.lastRefresh } := by
  obtain ⟨hclean, hforward, hnext, hreport⟩ := run_eq_ok_iff.1 hrun
  obtain ⟨es, hes, happ⟩ := staged_of_clean hroom hclean
  have hrecords := records_of_appended happ
  have hsize := happ.indexed.size_le
  rw [← happ.indexed.length_records, hrecords, happ.maxChannels] at hsize
  have hlen : (es.map (·.channel)).length = (Document.sessions document).length := by
    rw [List.length_map, length_of_drawn hes]
  refine ⟨es, hes, ⟨hrecords ▸ happ.indexed.fits, hsize, hrecords ▸ hforward⟩, ?_, ?_⟩
  · rw [← hreport, hclean, report_compare live _ (counters_takeIn hclean) (hrecords ▸ hlen), hrecords]
  · obtain ⟨r, hins, rfl⟩ := successor_eq_ok_iff.1 hnext
    rw [insertAll_marked _ (compare_marked live _ _), inService, hrecords] at hins
    exact ⟨r, hins, rfl⟩

/-- **What is live after a committed update**, where slots and arena agree: the channels of the
document that are in service, in order. -/
theorem inService_of_run {live next : Registry} (hl : live.Seated) {document : String} {now : Instant}
    {report : UpdateReport}
    (hroom : min live.maxChannels (Document.sessions document).length ≤ UInt32.size)
    (hrun : run live document now = .ok (next, report)) :
    ∃ es : List Extraction,
      (Document.sessions document).map (extractText · live.channelType) = es.map .ok ∧
      Accepts live (es.map (·.channel)) ∧ report = reportOn live (es.map (·.channel)) ∧
      next.Indexed ∧ next.records = (es.map (·.channel)).filter (·.active) := by
  obtain ⟨es, hes, haccepts, hreport, r, hins, hnext⟩ := drawn_of_run hroom hrun
  obtain ⟨hindexed, -, hrecords⟩ :=
    hl.insertAll_destroyAll (haccepts.length_active_le hes hroom) hins
  rw [map_unmarked_filter, map_unmarked_of_extractText hes] at hrecords
  refine ⟨es, hes, haccepts, hreport, hindexed.congr hnext, ?_⟩
  rw [hnext]
  exact hrecords

/-- **A document is committed exactly if a channel is drawn from each session and the live
registry accepts the channels.** -/
theorem exists_run_iff {live : Registry} (hl : live.Linked) {document : String}
    (hroom : min live.maxChannels (Document.sessions document).length ≤ UInt32.size)
    (now : Instant) :
    (∃ next report, run live document now = .ok (next, report)) ↔
      ∃ es : List Extraction,
        (Document.sessions document).map (extractText · live.channelType) = es.map .ok ∧
        Accepts live (es.map (·.channel)) := by
  constructor
  · rintro ⟨next, report, hrun⟩
    obtain ⟨es, hes, haccepts, -⟩ := drawn_of_run hroom hrun
    exact ⟨es, hes, haccepts⟩
  · rintro ⟨es, hes, haccepts⟩
    have hmax := haccepts.room
    rw [List.length_map] at hmax
    obtain ⟨hclean, happ⟩ := clean_of_fits hroom hes haccepts.fits hmax
    obtain ⟨next, hnext⟩ := exists_successor hl happ.indexed (compare_marked live _ _)
      happ.maxChannels now
    exact ⟨next, _, run_eq_ok_iff.2
      ⟨hclean, records_of_appended happ ▸ haccepts.forward, hnext, rfl⟩⟩

end Coordinator

end Lineup
