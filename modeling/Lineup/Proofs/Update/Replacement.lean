/-
  Lineup.Proofs.Update.Replacement
  ────────────────────────────────
  **AN UPDATE IS REFUSED OR REPLACES EVERYTHING.**  Comparing only marks channels
  of the shadow, so what is committed are the channels that were staged.  They
  stood beside each other in the shadow, so they stand beside each other in a
  registry that gave all its own channels up: making the successor cannot fail.

  Main results:
    * `Coordinator.successor_of_indexed` — the successor of a live registry is made, and
      holds the channels of the shadow that are in service;
    * `Live.linked` — every registry that is live at some time finds its channels,
      however many are allowed;
    * `Live.seated` — it keeps slots and arena together, also where keys and pairs
      were left behind.
-/
import Lineup.Proofs.Registry.Linked
import Lineup.Proofs.Update.Staging

namespace Lineup

/-! ## §1. Marks. -/

namespace Registry

/-- The channels in service, in the order of their slots. -/
def inService (r : Registry) : List Channel := r.records.filter (·.active)

/-- A registry in which nothing but marks may have changed. -/
def Marked (r r' : Registry) : Prop :=
  r'.slots = r.slots ∧ ∀ h, (r'.getAny h).map unmarked = (r.getAny h).map unmarked

theorem Marked.refl (r : Registry) : Marked r r := ⟨rfl, fun _ => rfl⟩

theorem Marked.trans {r r' r'' : Registry} (h : Marked r r') (h' : Marked r' r'') :
    Marked r r'' :=
  ⟨h'.1.trans h.1, fun k => (h'.2 k).trans (h.2 k)⟩

theorem marked_mark (r : Registry) (h : Handle) : Marked r (r.mark h) := by
  refine ⟨rfl, fun k => ?_⟩
  show ((r.arena.modify h fun c => { c with used := true }).resolve k).map unmarked
    = (r.arena.resolve k).map unmarked
  rw [Arena.resolve_modify]
  by_cases hk : k = h
  · subst hk
    rw [if_pos rfl]
    cases r.arena.resolve k with
    | none => rfl
    | some c => rfl
  · rw [if_neg hk]

theorem Marked.records {r r' : Registry} (h : Marked r r') :
    r'.records.map unmarked = r.records.map unmarked := by
  have hhandles : r'.handles = r.handles := by
    unfold handles
    rw [h.1]
  rw [records_eq, records_eq, List.map_filterMap, List.map_filterMap, hhandles]
  apply List.filterMap_congr
  intro k _
  exact h.2 k

theorem map_unmarked_filter (cs : List Channel) :
    (cs.filter (·.active)).map unmarked = (cs.map unmarked).filter (·.active) := by
  rw [List.filter_map]
  rfl

theorem length_inService_le (r : Registry) : r.inService.length ≤ r.records.length :=
  List.length_filter_le _ _

theorem Marked.inService {r r' : Registry} (h : Marked r r') :
    r'.inService.map unmarked = r.inService.map unmarked := by
  unfold Registry.inService
  rw [map_unmarked_filter, map_unmarked_filter, h.records]

end Registry

/-! ## §2. Comparing. -/

namespace Coordinator

open Registry

theorem Comparison.step_marked (live : Registry) (s : Comparison) (h : Handle) :
    Marked s.shadow (Comparison.step live s h).shadow := by
  unfold Comparison.step
  split
  · exact Marked.refl _
  · split
    · exact Marked.refl _
    · exact marked_mark _ h

theorem Comparison.foldl_marked (live : Registry) (s : Comparison) (hs : List Handle) :
    Marked s.shadow (hs.foldl (Comparison.step live) s).shadow := by
  induction hs generalizing s with
  | nil => exact Marked.refl _
  | cons h hs ih => exact (Comparison.step_marked live s h).trans (ih _)

theorem compare_marked (live shadow : Registry) (report : UpdateReport) :
    Marked shadow (compare live shadow report).shadow := by
  obtain ⟨hslots, hget⟩ :=
    Comparison.foldl_marked live ⟨shadow, report, []⟩ shadow.handles
  exact ⟨hslots, hget⟩

/-! ## §3. Making the successor. -/

theorem successor_eq_ok_iff {live shadow next : Registry} {now : Instant} :
    successor live shadow now = .ok next ↔
      ∃ r, insertAll live.destroyAll shadow.inService = .ok r ∧
        next = { r with counters := shadow.counters, lastRefresh := some now } := by
  show (insertAll live.destroyAll shadow.inService >>= fun r => Except.ok
    { r with counters := shadow.counters, lastRefresh := some now }) = _ ↔ _
  cases insertAll live.destroyAll shadow.inService with
  | error e => simp [Bind.bind, Except.bind]
  | ok r => simp [Bind.bind, Except.bind, eq_comm]

theorem insertAll_marked (r : Registry) {shadow shadow' : Registry} (h : Marked shadow shadow') :
    insertAll r shadow'.inService = insertAll r shadow.inService := by
  rw [← insertAll_map_unmarked, h.inService, insertAll_map_unmarked]

/-- **The channels of a shadow can replace those of any registry** whose slots
and arena agree. -/
theorem successor_of_indexed {live shadow shadow' : Registry} (hlive : live.Seated)
    (hshadow : shadow.Indexed) (hmarked : Marked shadow shadow')
    (hconfig : shadow.maxChannels = live.maxChannels) (now : Instant) :
    ∃ next, successor live shadow' now = .ok next ∧
      next.records = shadow.inService.map unmarked := by
  have hvacant := hlive.destroyAll_vacant
  have hcfg : live.destroyAll.maxChannels = live.maxChannels :=
    congrArg RegistryConfig.maxChannels live.config_destroyAll
  have hnone : live.destroyAll.records = [] := records_of_no_handle hvacant.handles
  have hsize : live.destroyAll.size = 0 := by
    rw [hvacant.seated.size_eq, hvacant.handles]
    rfl
  -- the channels stood beside each other in the shadow
  have hfits : Fits (live.destroyAll.records ++ shadow.inService) := by
    rw [hnone, List.nil_append]
    exact hshadow.fits.sublist List.filter_sublist
  -- and there were no more of them than allowed, and no more than there are numbers
  have hlen := shadow.length_inService_le
  have hnum := hshadow.length_records_le
  have hmax := hshadow.length_records
  have hsize' := hshadow.size_le
  obtain ⟨r, hr, happ⟩ := insertAll_of_fits hvacant.indexed hvacant.packed shadow.inService hfits
    (by omega) (by unfold RoomFor; omega)
  refine ⟨_, successor_eq_ok_iff.2 ⟨r, ?_, rfl⟩, ?_⟩
  · rw [insertAll_marked _ hmarked]
    exact hr
  · show r.records = _
    rw [happ.records, hnone, List.nil_append]

/-! ## §4. All three steps. -/

/-- What the steps of an update come to. -/
theorem run_eq (live : Registry) (document : String) (now : Instant) :
    run live document now =
      let staged := takeIn 0 live.emptyLike (Document.sessions document)
      let report := UpdateReport.ofStaging staged.1.counters staged.2
      let s := compare live staged.1 report
      if staged.2 = [] then
        if s.report.stale = 0 ∧ s.report.conflicting = 0 then
          match successor live s.shadow now with
          | .ok next => .ok (next, s.report)
          | .error e => .error (.commit e)
        else .error (.rejected s.report)
      else .error (.rejected report) := by
  unfold run
  simp only [fresh, stage]
  generalize takeIn 0 live.emptyLike (Document.sessions document) = staged
  obtain ⟨shadow, failures⟩ := staged
  have hfailures : (UpdateReport.ofStaging shadow.counters failures).failures = failures := rfl
  simp only [validate, hfailures, List.isEmpty_iff]
  by_cases hclean : failures = []
  · rw [if_pos hclean, if_pos hclean]
    generalize compare live shadow (.ofStaging shadow.counters failures) = s
    by_cases hs : s.report.stale = 0 ∧ s.report.conflicting = 0
    · rw [if_pos hs, if_pos hs]
      simp only [commit]
      cases successor live s.shadow now with
      | error e => rfl
      | ok next => rfl
    · rw [if_neg hs, if_neg hs]
      rfl
  · rw [if_neg hclean, if_neg hclean]
    rfl

end Coordinator

/-! ## §5. Registries that are live at some time. -/

namespace Registry

/-- What is committed is the successor of a shadow that was validated. -/
theorem successor_of_commit {c : Coordinator} {r next : Registry} {report : UpdateReport}
    {now : Instant} (hcommit : (c.commit r now).1 = .ok (next, report)) :
    ∃ shadow, c.phase = .validating shadow ∧ Coordinator.successor r shadow now = .ok next := by
  unfold Coordinator.commit at hcommit
  split at hcommit
  · next shadow hphase =>
    split at hcommit
    · next q hq =>
      cases hcommit
      exact ⟨shadow, hphase, hq⟩
    · cases hcommit
  · cases hcommit

/-- What a commit leaves behind took the place of everything that was there. -/
theorem commit_eq_ok {c : Coordinator} {r next : Registry} {report : UpdateReport} {now : Instant}
    (hcommit : (c.commit r now).1 = .ok (next, report)) :
    ∃ cs q counters t, Coordinator.insertAll r.destroyAll cs = .ok q ∧
      next = { q with counters := counters, lastRefresh := t } := by
  obtain ⟨shadow, -, hq⟩ := successor_of_commit hcommit
  obtain ⟨r', hins, rfl⟩ := Coordinator.successor_eq_ok_iff.1 hq
  exact ⟨_, r', _, _, hins, rfl⟩

/-- The registries that steps and committed updates lead to from an empty one. A
channel may also be given up without its key and its pairs, and an update may go
on with a live registry that it was not begun with. -/
inductive Live (config : RegistryConfig) : Registry → Prop where
  | empty : Live config (.empty config)
  | step {r r' : Registry} : Live config r → Step r r' → Live config r'
  | detach {r : Registry} (h : Handle) : Live config r → Live config (r.detachIfThere h)
  | refresh {r : Registry} (t : Instant) : Live config r →
      Live config { r with lastRefresh := some t }
  | commit {r next : Registry} {report : UpdateReport} (c : Coordinator) (now : Instant) :
      Live config r → (c.commit r now).1 = .ok (next, report) → Live config next

section Live

variable {config : RegistryConfig} {r : Registry}

theorem Reached.live (hr : Reached config r) : Live config r := by
  induction hr with
  | empty => exact .empty
  | step _ hs ih => exact ih.step hs

/-- What survives every change of the counters and of the time, one channel taken in, given up
or detached, and the end of all channels, holds of all of them. -/
theorem Live.preserves {P : Registry → Prop} (hempty : P (.empty config))
    (hset : ∀ r counters t, P r → P { r with counters := counters, lastRefresh := t })
    (hinsert : ∀ r c, P r → P (Registry.insert r c).2)
    (hdelete : ∀ r h c r', P r → Registry.delete r h = .ok (c, r') → P r')
    (hdetach : ∀ r h, P r → P (Registry.detachIfThere r h))
    (hdestroy : ∀ r, P r → P (Registry.destroyAll r)) (hr : Live config r) : P r := by
  induction hr with
  | empty => exact hempty
  | step _ hs ih =>
    exact hs.preserves (fun r f hr => hset r (f r.counters) r.lastRefresh hr) hinsert hdelete
      hdestroy ih
  | detach h _ ih => exact hdetach _ h ih
  | refresh t _ ih => exact hset _ _ (some t) ih
  -- what is committed was taken in one by one, where all channels had been given up
  | commit c now _ hcommit ih =>
    obtain ⟨cs, q, counters, t, hins, rfl⟩ := commit_eq_ok hcommit
    exact hset q counters t (insertAll_preserves hinsert (hdestroy _ ih) hins)

/-- **All channels are found**, whatever was done, and however many channels are allowed. -/
theorem Live.linked (hr : Live config r) : r.Linked :=
  hr.preserves (linked_empty config) (fun _ _ _ hr => hr.congr rfl) (fun _ c hr => hr.insert c)
    (fun _ _ _ _ hr hd => hr.delete hd) (fun _ h hr => hr.detachIfThere h)
    (fun _ hr => hr.destroyAll)

theorem config_detachIfThere (r : Registry) (h : Handle) : (r.detachIfThere h).config = r.config := by
  obtain ⟨-, hframe⟩ := r.detachIfThere_outcome h
  rw [hframe]
  rfl

theorem Live.config_eq (hr : Live config r) : r.config = (Registry.empty config).config :=
  hr.preserves (P := fun r => r.config = (Registry.empty config).config) rfl (fun _ _ _ hc => hc)
    (fun r c hc => (config_insert r c).trans hc) (fun _ _ _ _ hc hd => (config_delete hd).trans hc)
    (fun r h hc => (r.config_detachIfThere h).trans hc) (fun r hc => r.config_destroyAll.trans hc)

theorem Live.maxChannels_eq (hr : Live config r) : r.maxChannels = config.maxChannels :=
  congrArg RegistryConfig.maxChannels hr.config_eq

/-- **Slots and arena stay together**, whatever becomes of keys and pairs, as long as there are
numbers for all places. -/
theorem Live.seated_of_places (hr : Live config r) :
    r.arena.places.size ≤ UInt32.size → r.Seated := by
  refine hr.preserves (P := fun r => r.arena.places.size ≤ UInt32.size → r.Seated)
    (fun _ => seated_empty config) (fun _ _ _ hr hle => (hr hle).congr rfl rfl)
    (fun _ c hr hle => insert_of_places id (fun hr hroom => hr.insert hroom c) hr hle)
    (fun r h c r' hr hd hle => ?_) (fun r h hr hle => ?_) (fun r hr hle => ?_)
  · obtain ⟨r₁, hdet, rfl⟩ := delete_eq_ok_iff.1 hd
    obtain ⟨a, hrel, rfl⟩ := detach_eq_ok_iff.1 hdet
    exact (hr (Nat.le_trans (Nat.le_of_eq (Arena.places_release hrel).symm) hle)).delete hd
  · rw [places_detachIfThere] at hle
    exact (hr hle).detachIfThere h
  · rw [places_destroyAll] at hle
    exact (hr hle).destroyAll_vacant.seated

/-- There are, where no more channels are allowed. -/
theorem Live.seated {config : RegistryConfig} (hmax : config.maxChannels ≤ UInt32.size)
    {r : Registry} (hr : Live config r) : r.Seated ∧ r.config = (Registry.empty config).config := by
  have hplaces := hr.linked.places_le
  rw [hr.maxChannels_eq] at hplaces
  exact ⟨hr.seated_of_places (Nat.le_trans hplaces hmax), hr.config_eq⟩

theorem Live.channelType_eq (hr : Live config r) : r.channelType = config.channelType :=
  congrArg RegistryConfig.channelType hr.config_eq

/-- What all three steps lead to is live as well. -/
theorem Live.of_run {live next : Registry} {document : String} {now : Instant} {report : UpdateReport}
    (hlive : Live config live) (hrun : Coordinator.run live document now = .ok (next, report)) :
    Live config next := by
  unfold Coordinator.run at hrun
  split at hrun
  · cases hrun
  · split at hrun
    · cases hrun
    · exact .commit _ now hlive hrun

end Live

end Registry

end Lineup
