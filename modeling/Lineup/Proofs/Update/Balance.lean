/-
  Lineup.Proofs.Update.Balance
  ────────────────────────────
  **THE REPORT ADDS UP.**  Sessions are counted while they are taken into the shadow, one
  by one, and each way out of that counts one session as read or not, and one that was read
  as a channel or not.  Channels are counted when the shadow is compared, each of its
  records once; in a shadow without failures no handle was ever given up, so there are as
  many records as sessions, however many these are (`Unreleased`).

  Live channels are counted from the other side: those that are replaced are a set, and
  what is not in it is removed.  Two channels of one shadow have different primary pairs,
  so they replace different live channels, and the set is as large as the list.

  Main results:
    * `counters_addText` — every way out of taking a text in, with what it counts;
    * `mem_takeIn_iff`, `pairwise_takeIn` — which sessions are reported as failures;
    * `length_matchedBy_add` — every live channel is replaced or left over;
    * `Live.report_balances` — the report of an update, committed or rejected.
-/
import Lineup.Proofs.Update.Again

namespace Lineup

/-! ## §1. Counting sessions. -/

/-- Counters in which every text was read or not, and every session is a channel or not. -/
structure Counters.Balanced (c : Counters) : Prop where
  /-- A text is a session or not. -/
  seen : c.seen = c.parsed + c.syntaxErrors
  /-- A session is a channel or not. -/
  parsed : c.parsed = c.validated + c.validationErrors

namespace Counters.Balanced

variable {c : Counters}

theorem malformed (hc : c.Balanced) : c.offered.wasMalformed.Balanced :=
  ⟨congrArg (· + 1) hc.seen, hc.parsed⟩

theorem invalid (hc : c.Balanced) : c.offered.wasParsed.wasInvalid.Balanced := by
  refine ⟨?_, congrArg (· + 1) hc.parsed⟩
  show c.seen + 1 = c.parsed + 1 + c.syntaxErrors
  rw [hc.seen, Nat.add_right_comm]

theorem validated (hc : c.Balanced) : c.offered.wasParsed.wasValidated.Balanced := by
  refine ⟨?_, ?_⟩
  · show c.seen + 1 = c.parsed + 1 + c.syntaxErrors
    rw [hc.seen, Nat.add_right_comm]
  · show c.parsed + 1 = c.validated + 1 + c.validationErrors
    rw [hc.parsed, Nat.add_right_comm]

theorem refused (hc : c.Balanced) : c.wasRefused.Balanced := ⟨hc.seen, hc.parsed⟩

end Counters.Balanced

namespace Registry

/-- **What is counted when a text is taken in**: that it is no session, that it is no channel,
that it was taken in, or that it was refused. -/
theorem counters_addText (r : Registry) (text : String) :
    (r.addText text).2.counters = r.counters.offered.wasMalformed ∨
    (r.addText text).2.counters = r.counters.offered.wasParsed.wasInvalid ∨
    (r.addText text).2.counters = r.counters.offered.wasParsed.wasValidated ∨
    (r.addText text).2.counters = r.counters.offered.wasParsed.wasValidated.wasRefused := by
  rcases r.addText_outcome text with ⟨x, -, hadd⟩ | ⟨s, -, hadd⟩
  · rw [hadd]
    exact Or.inl rfl
  rw [hadd]
  rcases r.add_outcome s.view with
    ⟨x, -, hout⟩ | ⟨e, h, q, -, hins, hout⟩ | ⟨e, x, q, -, hins, hout⟩
  · rw [hout]
    exact Or.inr (Or.inl rfl)
  · have hcounters := r.counted.counters_insert e.channel
    rw [hins] at hcounters
    rw [hout]
    exact Or.inr (Or.inr (Or.inl hcounters))
  · have hcounters := r.counted.counters_insert e.channel
    rw [hins] at hcounters
    rw [hout]
    exact Or.inr (Or.inr (Or.inr (congrArg Counters.wasRefused hcounters)))

theorem seen_addText (r : Registry) (text : String) :
    (r.addText text).2.counters.seen = r.counters.seen + 1 := by
  rcases r.counters_addText text with h | h | h | h <;> rw [h] <;> rfl

theorem balanced_addText {r : Registry} (hr : r.counters.Balanced) (text : String) :
    (r.addText text).2.counters.Balanced := by
  rcases r.counters_addText text with h | h | h | h <;> rw [h]
  · exact hr.malformed
  · exact hr.invalid
  · exact hr.validated
  · exact hr.validated.refused

/-- A registry that was offered texts, one after the other. -/
def offerAll (r : Registry) (texts : List String) : Registry :=
  texts.foldl (fun r text => (r.addText text).2) r

/-- **Every text is counted once**, whatever becomes of it. -/
theorem balanced_offerAll {r : Registry} (hr : r.counters.Balanced) (texts : List String) :
    (r.offerAll texts).counters.Balanced ∧
      (r.offerAll texts).counters.seen = r.counters.seen + texts.length := by
  induction texts generalizing r with
  | nil => exact ⟨hr, rfl⟩
  | cons text texts ih =>
    obtain ⟨hrest, hcount⟩ := ih (balanced_addText hr text)
    refine ⟨hrest, hcount.trans ?_⟩
    rw [seen_addText, List.length_cons]
    omega

/-- Whether one of some texts fails when its turn comes: a registry that was offered those
before it does not take it in. -/
def FailsAt (r : Registry) (texts : List String) (k : Nat) (e : RegistryError) : Prop :=
  ∃ text, texts[k]? = some text ∧ ((r.offerAll (texts.take k)).addText text).1 = .error e

theorem failsAt_zero {r : Registry} {text : String} {texts : List String} {e : RegistryError} :
    r.FailsAt (text :: texts) 0 e ↔ (r.addText text).1 = .error e := by
  show (∃ t, some text = some t ∧ (r.addText t).1 = .error e) ↔ _
  simp only [Option.some.injEq, exists_eq_left']

theorem failsAt_succ {r : Registry} {text : String} {texts : List String} {k : Nat}
    {e : RegistryError} :
    r.FailsAt (text :: texts) (k + 1) e ↔ (r.addText text).2.FailsAt texts k e := Iff.rfl

theorem FailsAt.lt_length {r : Registry} {texts : List String} {k : Nat} {e : RegistryError}
    (h : r.FailsAt texts k e) : k < texts.length := by
  obtain ⟨text, hget, -⟩ := h
  exact (List.getElem?_eq_some_iff.1 hget).1

end Registry

/-! ## §2. Failures. -/

namespace Coordinator

open Registry

theorem takeIn_fst (i : Nat) (r : Registry) (texts : List String) :
    (takeIn i r texts).1 = r.offerAll texts := by
  induction texts generalizing i r with
  | nil => rfl
  | cons text texts ih =>
    show _ = (r.addText text).2.offerAll texts
    rcases hadd : r.addText text with ⟨e | h, r'⟩
    · rw [takeIn_cons_of_error hadd, ih]
    · rw [takeIn_cons_of_ok hadd, ih]

/-- **A session is reported exactly if it fails when its turn comes**, and with that reason. -/
theorem mem_takeIn_iff {i : Nat} {r : Registry} {texts : List String} {f : SessionFailure} :
    f ∈ (takeIn i r texts).2 ↔ ∃ k, f.index = i + k ∧ r.FailsAt texts k f.reason := by
  induction texts generalizing r i with
  | nil => simp [takeIn, FailsAt]
  | cons text texts ih =>
    -- behind the first session, the others count from the next position
    rw [← Nat.or_exists_add_one]
    simp only [failsAt_zero, failsAt_succ, ← Nat.add_assoc, Nat.add_right_comm i _ 1, Nat.add_zero]
    rcases hadd : r.addText text with ⟨e | h, r'⟩
    · have hfirst : f = ⟨i, e⟩ ↔
          f.index = i ∧ Except.error e = (.error f.reason : Except RegistryError Handle) := by
        obtain ⟨index, reason⟩ := f
        simp [eq_comm]
      rw [takeIn_cons_of_error hadd, List.mem_cons, hfirst, ih]
    · rw [takeIn_cons_of_ok hadd, ih]
      simp only [reduceCtorEq, and_false, false_or]

/-- **Failures are reported in order.** -/
theorem pairwise_takeIn (i : Nat) (r : Registry) (texts : List String) :
    (takeIn i r texts).2.Pairwise (·.index < ·.index) := by
  induction texts generalizing r i with
  | nil => exact .nil
  | cons text texts ih =>
    rcases hadd : r.addText text with ⟨e | h, r'⟩
    · rw [takeIn_cons_of_error hadd]
      refine List.pairwise_cons.2 ⟨fun f hf => ?_, ih _ _⟩
      obtain ⟨k, hindex, -⟩ := mem_takeIn_iff.1 hf
      show i < f.index
      omega
    · rw [takeIn_cons_of_ok hadd]
      exact ih _ _

end Coordinator

/-! ## §3. Shadows without failures. -/

namespace Arena

variable {α : Type} {a : Arena α}

/-- An arena in which no value was ever given up. -/
structure Unreleased (a : Arena α) : Prop where
  /-- No place is free. -/
  free : a.free = []
  /-- All places hold their first values. -/
  held : ∀ p ∈ a.places, p.generation = 0 ∧ p.value.isSome

/-- What a handle of such an arena looks like. Its number may stand for another place, where
there are more places than numbers. -/
def Issued (a : Arena α) (h : Handle) : Prop := h.generation = 0 ∧ h.index.toNat < a.places.size

theorem unreleased_empty : (empty : Arena α).Unreleased := ⟨rfl, by simp [empty]⟩

/-- **Every handle stands for a value then**, if not for its own. -/
theorem Unreleased.isSome_resolve (ha : a.Unreleased) {h : Handle} (hh : a.Issued h) :
    (a.resolve h).isSome := by
  obtain ⟨hgen, hlt⟩ := hh
  obtain ⟨hgen', hvalue⟩ := ha.held a.places[h.index.toNat] (Array.getElem_mem hlt)
  unfold resolve
  rw [Array.getElem?_eq_getElem hlt]
  dsimp only
  rwa [if_pos (hgen'.trans hgen.symm)]

theorem Unreleased.allocate (ha : a.Unreleased) (v : α) : (a.allocate v).2.Unreleased := by
  unfold Arena.allocate
  rw [ha.free]
  refine ⟨rfl, fun p hp => ?_⟩
  rcases Array.mem_push.1 hp with hp | rfl
  · exact ha.held p hp
  · exact ⟨rfl, rfl⟩

theorem Unreleased.issued_allocate (ha : a.Unreleased) (v : α) :
    (a.allocate v).2.Issued (a.allocate v).1 ∧ ∀ h, a.Issued h → (a.allocate v).2.Issued h := by
  unfold Arena.allocate Issued
  rw [ha.free]
  simp only [Array.size_push]
  refine ⟨⟨trivial, ?_⟩, fun h hh => ⟨hh.1, Nat.lt_succ_of_lt hh.2⟩⟩
  rw [UInt32.toNat_ofNat']
  exact Nat.lt_succ_of_le (Nat.mod_le _ _)

end Arena

namespace Registry

/-- A registry in which no channel was ever given up. -/
structure Unreleased (r : Registry) : Prop where
  arena : r.arena.Unreleased
  issued : ∀ h ∈ r.handles, r.arena.Issued h

variable {r : Registry}

theorem unreleased_empty (config : RegistryConfig) : (empty config).Unreleased :=
  ⟨Arena.unreleased_empty, fun _ hh => absurd hh List.not_mem_nil⟩

/-- It has a record for every handle, also where two channels have one. -/
theorem Unreleased.length_records (hr : r.Unreleased) : r.records.length = r.handles.length := by
  rw [records_eq]
  exact List.filterMap_length_eq_length.2 fun h hh => hr.arena.isSome_resolve (hr.issued h hh)

theorem Unreleased.grownBy (hr : r.Unreleased) (c : Channel) (p f : AddressMap) :
    (r.grownBy c p f).Unreleased ∧ (r.grownBy c p f).handles.length = r.handles.length + 1 := by
  -- the new handle is one more, in the first vacant slot
  have hperm : (r.grownBy c p f).handles.Perm (r.nextHandle c :: r.handles) := occupy_perm _ _
  obtain ⟨hnew, hold⟩ := hr.arena.issued_allocate (unmarked c)
  refine ⟨⟨hr.arena.allocate _, fun h hh => ?_⟩, hperm.length_eq⟩
  rcases List.mem_cons.1 (hperm.mem_iff.1 hh) with rfl | hh
  · exact hnew
  · exact hold h (hr.issued h hh)

end Registry

namespace Coordinator

open Registry

theorem unreleased_takeIn {i : Nat} {r : Registry} {texts : List String} (hr : r.Unreleased)
    (hclean : (takeIn i r texts).2 = []) : (takeIn i r texts).1.Unreleased ∧
      (takeIn i r texts).1.handles.length = r.handles.length + texts.length := by
  induction texts generalizing r i with
  | nil => exact ⟨hr, rfl⟩
  | cons text texts ih =>
    rcases hadd : r.addText text with ⟨e | h, r'⟩
    · rw [takeIn_cons_of_error hadd] at hclean
      cases hclean
    · rw [takeIn_cons_of_ok hadd] at hclean ⊢
      obtain ⟨e, -, hins⟩ := addText_eq_ok_iff.1 hadd
      obtain ⟨-, p, f, rfl⟩ := insert_eq_ok hins
      have hcounted : r.counted.Unreleased := ⟨hr.arena, hr.issued⟩
      obtain ⟨hgrown, hlength⟩ := hcounted.grownBy e.channel p f
      obtain ⟨hrest, hlength'⟩ := ih hgrown hclean
      refine ⟨hrest, hlength'.trans ?_⟩
      rw [hlength, show r.counted.handles = r.handles from rfl, List.length_cons]
      omega

/-- **A shadow without failures has a record for every session.** -/
theorem length_records_takeIn {live : Registry} {texts : List String}
    (hclean : (takeIn 0 live.emptyLike texts).2 = []) :
    (takeIn 0 live.emptyLike texts).1.records.length = texts.length := by
  obtain ⟨hshadow, hlength⟩ := unreleased_takeIn (unreleased_empty live.config) hclean
  rw [show (takeIn 0 live.emptyLike texts).1.records.length = _ from hshadow.length_records]
  exact hlength.trans (Nat.zero_add _)

/-! ## §4. Channels. -/

theorem count_changes (ks : List Change) :
    ks.count .added + ks.count .updated + ks.count .unchanged + ks.count .stale
      + ks.count .conflicting = ks.length := by
  induction ks with
  | nil => rfl
  | cons k ks ih =>
    simp only [List.count_cons, List.length_cons]
    cases k <;> simp <;> omega

theorem between_ne_added (live candidate : Channel) : Change.between live candidate ≠ .added := by
  unfold Change.between
  split
  · simp
  · split
    · split <;> simp
    · simp

section Live

variable {live : Registry} {cs : List Channel}

/-- A channel is added, or replaces a live one. -/
theorem count_added_add (live : Registry) (cs : List Channel) :
    (cs.map (changeOf live)).count .added + (matchedBy live cs).length = cs.length := by
  induction cs with
  | nil => rfl
  | cons c cs ih =>
    unfold matchedBy at ih ⊢
    rw [List.map_cons, List.count_cons, List.filterMap_cons, List.length_cons, ← ih]
    unfold changeOf
    cases liveMatch live c with
    | none =>
      simp
      omega
    | some p =>
      simp [between_ne_added]
      omega

/-- **Channels that fit beside each other replace different live channels**: what they replace
has their primary pairs. -/
theorem nodup_matchedBy (hl : live.Findable) (hf : Fits cs) : (matchedBy live cs).Nodup := by
  have hdisjoint := (List.nodup_flatMap.1 hf.primary).2
  unfold matchedBy
  rw [List.Nodup, List.pairwise_filterMap]
  refine hdisjoint.imp fun {c d} hcd h hh k hk heq => ?_
  obtain ⟨⟨_, x⟩, hx, rfl⟩ := Option.map_eq_some_iff.1 hh
  obtain ⟨⟨_, y⟩, hy, rfl⟩ := Option.map_eq_some_iff.1 hk
  obtain ⟨hx, hdest⟩ := (liveMatch_eq_some_iff hl).1 hx
  obtain ⟨hy, hdest'⟩ := (liveMatch_eq_some_iff hl).1 hy
  dsimp only at heq
  subst heq
  rw [hl.mem_channels] at hx hy
  obtain rfl := Option.some.inj (hx.symm.trans hy)
  exact hcd (hdest ▸ primaryDest_mem_primaryKeys c) (hdest' ▸ primaryDest_mem_primaryKeys d)

theorem matchedBy_subset (hl : live.Findable) : matchedBy live cs ⊆ live.handles := by
  intro h hh
  obtain ⟨c, -, hm⟩ := List.mem_filterMap.1 hh
  obtain ⟨⟨_, x⟩, hx, rfl⟩ := Option.map_eq_some_iff.1 hm
  exact hl.seated _ x (hl.mem_channels.1 ((liveMatch_eq_some_iff hl).1 hx).1)

/-- **Every live channel is replaced or left over.** -/
theorem length_matchedBy_add (hl : live.Seated) (hfind : live.Findable) (hf : Fits cs) :
    (matchedBy live cs).length + (leftOver live cs).length = live.size := by
  have hperm : (matchedBy live cs).Perm (live.handles.filter (· ∈ matchedBy live cs)) := by
    refine (List.perm_ext_iff_of_nodup (nodup_matchedBy hfind hf) (hl.nodup.filter _)).2 fun h => ?_
    rw [List.mem_filter, decide_eq_true_eq]
    exact ⟨fun hh => ⟨matchedBy_subset hfind hh, hh⟩, fun hh => hh.2⟩
  have hsplit := List.length_eq_length_filter_add (l := live.handles) (· ∈ matchedBy live cs)
  rw [← hperm.length_eq] at hsplit
  rw [hl.size_eq, hsplit]
  unfold leftOver
  simp only [decide_not]

end Live

/-! ## §5. The report. -/

/-- The report that an update ends with, committed or rejected. -/
def reportOf? : Except UpdateError (Registry × UpdateReport) → Option UpdateReport
  | .ok (_, report) => some report
  | .error e => e.report?

/-- **An update reports on the sessions that failed, or on all channels.** -/
theorem report_cases {live : Registry} {document : String} {now : Instant} {report : UpdateReport}
    (hreport : reportOf? (run live document now) = some report) :
    let staged := takeIn 0 live.emptyLike (Document.sessions document)
    (staged.2 ≠ [] ∧ report = .ofStaging staged.1.counters staged.2) ∨
      (staged.2 = [] ∧ report = reportOn live staged.1.records) := by
  rw [run_eq] at hreport
  dsimp only at hreport ⊢
  split at hreport
  · next hclean =>
    -- committed or rejected, it is what the comparison came to
    refine Or.inr ⟨hclean, ?_⟩
    rw [← report_compare live _ (counters_takeIn hclean) (length_records_takeIn hclean), ← hclean]
    split at hreport
    · split at hreport
      · exact (Option.some.inj hreport).symm
      · cases hreport
    · exact (Option.some.inj hreport).symm
  · next hfailed => exact Or.inl ⟨hfailed, (Option.some.inj hreport).symm⟩

/-- **No update ends without a report**, where there are numbers for all places of its shadow. -/
theorem exists_report {live : Registry} (hl : live.Linked) {document : String}
    (hroom : min live.maxChannels (Document.sessions document).length ≤ UInt32.size)
    (now : Instant) : ∃ report, reportOf? (run live document now) = some report := by
  rw [run_eq]
  dsimp only
  split
  · next hclean =>
    split
    · obtain ⟨es, -, happ⟩ := staged_of_clean hroom hclean
      obtain ⟨next, hnext⟩ := exists_successor hl happ.indexed (compare_marked live _ _)
        happ.maxChannels now
      rw [hnext]
      exact ⟨_, rfl⟩
    · exact ⟨_, rfl⟩
  · exact ⟨_, rfl⟩

end Coordinator

/-- What adds up in the report on the sessions of a document. -/
structure UpdateReport.Balances (r : UpdateReport) (live : Registry) (texts : List String) :
    Prop where
  /-- All sessions are counted. -/
  sessions : r.sessions = texts.length
  /-- Each was read or not. -/
  parsed : r.sessions = r.parsed + r.syntaxErrors
  /-- Each that was read is a channel or not. -/
  validated : r.parsed = r.validated + r.validationErrors
  /-- Failures are listed in order. -/
  increasing : r.failures.Pairwise (·.index < ·.index)
  /-- They are sessions of the document. -/
  below : ∀ f ∈ r.failures, f.index < r.sessions
  /-- A session is listed exactly if the shadow did not take it in when its turn came. -/
  failed : ∀ i e, ⟨i, e⟩ ∈ r.failures ↔ live.emptyLike.FailsAt texts i e
  /-- Where one is listed, nothing was compared. -/
  refused : r.failures ≠ [] → r.added = 0 ∧ r.updated = 0 ∧ r.unchanged = 0 ∧ r.stale = 0 ∧
    r.conflicting = 0 ∧ r.removed = 0
  /-- Otherwise every session was compared. -/
  compared : r.failures = [] →
    r.added + r.updated + r.unchanged + r.stale + r.conflicting = r.sessions

namespace Coordinator

open Registry

section Balances

variable {live : Registry} {texts : List String}

theorem mem_failures_iff {i : Nat} {e : RegistryError} :
    ⟨i, e⟩ ∈ (takeIn 0 live.emptyLike texts).2 ↔ live.emptyLike.FailsAt texts i e := by
  rw [mem_takeIn_iff]
  simp only [Nat.zero_add, exists_eq_left']

theorem balanced_shadow (live : Registry) (texts : List String) :
    (takeIn 0 live.emptyLike texts).1.counters.Balanced ∧
      (takeIn 0 live.emptyLike texts).1.counters.seen = texts.length := by
  obtain ⟨hbalanced, hseen⟩ := balanced_offerAll (r := live.emptyLike) ⟨rfl, rfl⟩ texts
  rw [takeIn_fst]
  exact ⟨hbalanced, hseen.trans (Nat.zero_add _)⟩

/-- A document with failures is not compared. -/
theorem balances_ofStaging (hfailed : (takeIn 0 live.emptyLike texts).2 ≠ []) :
    (UpdateReport.ofStaging (takeIn 0 live.emptyLike texts).1.counters
      (takeIn 0 live.emptyLike texts).2).Balances live texts where
  sessions := (balanced_shadow live texts).2
  parsed := (balanced_shadow live texts).1.seen
  validated := (balanced_shadow live texts).1.parsed
  increasing := pairwise_takeIn 0 _ texts
  below := by
    intro f hf
    exact Nat.lt_of_lt_of_eq (mem_failures_iff.1 hf).lt_length (balanced_shadow live texts).2.symm
  failed := fun _ _ => mem_failures_iff
  refused := fun _ => ⟨rfl, rfl, rfl, rfl, rfl, rfl⟩
  compared := fun hclean => absurd hclean hfailed

/-- One without failures is compared as a whole. -/
theorem balances_reportOn (hclean : (takeIn 0 live.emptyLike texts).2 = []) :
    (reportOn live (takeIn 0 live.emptyLike texts).1.records).Balances live texts where
  sessions := length_records_takeIn hclean
  parsed := rfl
  validated := rfl
  increasing := .nil
  below := fun _ hf => absurd hf List.not_mem_nil
  failed := by
    intro i e
    rw [← mem_failures_iff, hclean]
    rfl
  refused := fun hne => absurd rfl hne
  compared := by
    intro _
    have hcount := count_changes ((takeIn 0 live.emptyLike texts).1.records.map (changeOf live))
    rwa [List.length_map] at hcount

/-- Every live channel is replaced or removed. -/
theorem replaced_reportOn {config : RegistryConfig} (hlive : Live config live)
    (hplaces : live.arena.places.size ≤ UInt32.size)
    (hroom : min live.maxChannels texts.length ≤ UInt32.size)
    (hclean : (takeIn 0 live.emptyLike texts).2 = []) {r : UpdateReport}
    (hr : r = reportOn live (takeIn 0 live.emptyLike texts).1.records) :
    r.updated + r.unchanged + r.stale + r.conflicting + r.removed = live.size := by
  subst hr
  -- the channels of the shadow fit beside each other, so they replace different live ones
  obtain ⟨es, -, happ⟩ := staged_of_clean hroom hclean
  have hsplit := length_matchedBy_add (hlive.seated_of_places hplaces) hlive.linked.toFindable
    happ.indexed.fits
  have hadded := count_added_add live (takeIn 0 live.emptyLike texts).1.records
  have hcount := count_changes ((takeIn 0 live.emptyLike texts).1.records.map (changeOf live))
  rw [List.length_map] at hcount
  dsimp only [reportOn, UpdateReport.ofChanges]
  omega

end Balances

end Coordinator

namespace Registry

open Coordinator

/-- **THE REPORT ADDS UP**, whatever is live and whatever the document: every session is read or
not, one that is read is a channel or not, and the sessions that the shadow did not take in are
listed in order. If there are some, nothing is compared; if there are none, every session and
every live channel is counted once.

A handle numbers its place with 32 bits. With more than 2³² channels two of them get one
handle, and count as one where they are replaced or compared; so live channels are counted
where the live registry never held more at once, and no more are taken into the shadow. Where
no more are taken in, every update ends with a report. -/
theorem Live.report_balances {config : RegistryConfig} {live : Registry} (hlive : Live config live)
    (document : String) (now : Instant) :
    (∀ report, reportOf? (run live document now) = some report →
      report.Balances live (Document.sessions document) ∧
      (live.arena.places.size ≤ UInt32.size →
        min config.maxChannels (Document.sessions document).length ≤ UInt32.size →
        report.failures = [] → report.updated + report.unchanged + report.stale
          + report.conflicting + report.removed = live.size)) ∧
    (min config.maxChannels (Document.sessions document).length ≤ UInt32.size →
      ∃ report, reportOf? (run live document now) = some report) := by
  rw [← hlive.maxChannels_eq]
  refine ⟨fun report hreport => ?_, fun hroom => exists_report hlive.linked hroom now⟩
  rcases report_cases hreport with ⟨hfailed, rfl⟩ | ⟨hclean, rfl⟩
  · exact ⟨balances_ofStaging hfailed, fun _ _ hnone => absurd hnone hfailed⟩
  · exact ⟨balances_reportOn hclean,
      fun hplaces hroom _ => replaced_reportOn hlive hplaces hroom hclean rfl⟩

/-- The bulletins, while one other channel is live. -/
theorem Live.report_balances_bulletins :
    ∃ next report, Live .standard oneDatagram ∧ oneDatagram.size = 1 ∧
      run oneDatagram (Document.boundary.intercalate bulletins) ⟨0, 0⟩ = .ok (next, report) ∧
      report.Balances oneDatagram bulletins ∧
      report.added + report.updated + report.unchanged + report.stale + report.conflicting = 2 ∧
      report.updated + report.unchanged + report.stale + report.conflicting + report.removed = 1 := by
  obtain ⟨next, report, hrun⟩ := exists_run_bulletins
  have hreport : reportOf? (run oneDatagram (Document.boundary.intercalate bulletins) ⟨0, 0⟩)
      = some report := by
    rw [hrun]
    rfl
  have hclean : report.failures = [] := by
    rcases report_cases hreport with ⟨hfailed, -⟩ | ⟨-, rfl⟩
    · exact absurd (run_eq_ok_iff.1 hrun).1 hfailed
    · rfl
  obtain ⟨hbalances, hreplaced⟩ := (live_oneDatagram.report_balances _ ⟨0, 0⟩).1 report hreport
  rw [sessions_bulletins] at hbalances hreplaced
  have hplaces := live_oneDatagram.linked.places_le
  rw [live_oneDatagram.maxChannels_eq] at hplaces
  have hsize : oneDatagram.size = 1 := by decide +kernel
  exact ⟨next, report, live_oneDatagram, hsize, hrun, hbalances,
    (hbalances.compared hclean).trans hbalances.sessions,
    (hreplaced (Nat.le_trans hplaces (by decide)) (by decide) hclean).trans hsize⟩

end Registry

end Lineup
