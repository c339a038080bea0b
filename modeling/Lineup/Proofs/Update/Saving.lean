/-
  Lineup.Proofs.Update.Saving
  ───────────────────────────
  **WHAT IS SAVED IS TAKEN APART AGAIN, CHANNEL BY CHANNEL.**  A saved registry is one
  document, with a comment on top and a line between every two channels.  Names, tags and
  user names are written into it as they were read, and none of them can look like a comment
  or a boundary or go on in another line, because each was read from one line.

  This holds of every channel that was drawn from a text (`Channel.FromText`).  A step that
  takes texts in or gives channels up leaves such channels only, and so does a commit, whatever
  the calls that went before it: its shadow was staged in a registry without channels
  (`fromText_of_validating`).

  Main results:
    * `FromTexts.holds` — whatever texts lead to holds channels that were drawn from texts;
    * `FromTexts.sessions_saved` — its document is taken apart into their texts.
-/
import Lineup.Proofs.Update.Afresh
import Lineup.Proofs.Update.Balance
import Lineup.Proofs.Update.Calls
import Lineup.Proofs.Update.Reload

namespace Lineup

open Text

/-! ## §1. Channels that were drawn from texts. -/

/-- A channel that was drawn from some text, but for its mark. -/
def Channel.FromText (c : Channel) : Prop :=
  ∃ channelType, Channel.DrawnUnder channelType (Registry.unmarked c)

theorem Channel.FromText.printable {c : Channel} (hc : c.FromText) : c.toSession.Printable := by
  obtain ⟨channelType, hdrawn⟩ := hc
  -- a mark is not written
  exact hdrawn.printable (c := Registry.unmarked c)

namespace Registry

variable {r : Registry}

theorem Holds.addText {P : Channel → Prop} (hr : r.Holds P) (text : String)
    (hdrawn : ∀ e, extractText text r.channelType = .ok e → P (unmarked e.channel)) :
    (r.addText text).2.Holds P := by
  rcases r.offer_eq (.text text) with ⟨x, f, -, hoffer⟩ | ⟨c, f, g, hc, hoffer⟩
  · rw [show (r.addText text).2 = r.count f from congrArg Prod.snd hoffer]
    exact hr
  · obtain ⟨e, he, rfl⟩ := Offer.channel?_text_eq_ok_iff.1 hc
    rw [show (r.addText text).2 = ((r.count f).insert e.channel).2.count g from
      congrArg Prod.snd hoffer]
    exact Holds.insert (r := r.count f) hr (hdrawn e he)

/-- **A text adds no channel but the one drawn from it.** -/
theorem Holds.addText_fromText (hr : r.Holds Channel.FromText) (text : String) :
    (r.addText text).2.Holds Channel.FromText :=
  hr.addText text fun e he =>
    ⟨r.channelType, text, e, he, (unmarked_of_extractText he).symm⟩

theorem Holds.offerAll_fromText (hr : r.Holds Channel.FromText) (texts : List String) :
    (r.offerAll texts).Holds Channel.FromText := by
  induction texts generalizing r with
  | nil => exact hr
  | cons text texts ih => exact ih (hr.addText_fromText text)

end Registry

/-! ## §2. Commits. -/

namespace Coordinator

open Registry

theorem marked_of_validate {s shadow live : Registry} {rep report report' : UpdateReport}
    (hok : (⟨.staging s, rep⟩ : Coordinator).validate live
      = (.ok report, ⟨.validating shadow, report'⟩)) : Marked s shadow := by
  simp only [validate] at hok
  split at hok
  · split at hok
    · cases hok
      exact compare_marked live s rep
    · cases hok
  · cases hok

/-- A shadow that was staged holds channels that were drawn from texts. -/
theorem fromText_of_validate {live live' shadow : Registry} {document : String}
    {report report' : UpdateReport} (hok : (fresh.stage live document).2.validate live'
      = (.ok report, ⟨.validating shadow, report'⟩)) : ∀ c ∈ shadow.records, c.FromText := by
  have hmarked := marked_of_validate hok
  have hstaged :
      (takeIn 0 live.emptyLike (Document.sessions document)).1.Holds Channel.FromText := by
    rw [takeIn_fst]
    exact Holds.offerAll_fromText (holds_empty _) _
  intro c hc
  -- marks are all that the comparison changed
  have hmem : unmarked c ∈ shadow.records.map unmarked := List.mem_map_of_mem hc
  rw [hmarked.records] at hmem
  obtain ⟨d, hd, heq⟩ := List.mem_map.1 hmem
  obtain ⟨channelType, hdrawn⟩ := hstaged.of_mem_records hd
  exact ⟨channelType, heq ▸ hdrawn⟩

/-- **Whatever calls went before, a shadow that can be committed holds channels that were drawn
from texts.** -/
theorem Progress.Sound.fromText {p : Progress} (hp : p.Sound) {shadow : Registry}
    (hphase : p.coordinator.phase = .validating shadow) : ∀ c ∈ shadow.records, c.FromText := by
  cases hp with
  | validating live document live' s report hvalidate _ =>
    obtain rfl := UpdatePhase.validating.inj hphase
    exact fromText_of_validate hvalidate
  | _ => cases hphase

end Coordinator

namespace Registry

open Coordinator

variable {config : RegistryConfig} {r : Registry}

/-! ## §3. Registries that texts lead to. -/

/-- The registries that texts lead to from an empty one: texts are taken in, channels are given
up, and updates are committed, each after any calls on its coordinator. -/
inductive FromTexts (config : RegistryConfig) : Registry → Prop where
  | empty : FromTexts config (.empty config)
  | addText {r : Registry} (text : String) :
      FromTexts config r → FromTexts config (r.addText text).2
  | delete {r : Registry} (h : Handle) : FromTexts config r → FromTexts config (r.deleteIfThere h)
  | destroyAll {r : Registry} : FromTexts config r → FromTexts config r.destroyAll
  | commit {r next : Registry} {report : UpdateReport} (calls : List Call) (now : Instant) :
      FromTexts config r →
      ((Progress.after calls).coordinator.commit r now).1 = .ok (next, report) →
      FromTexts config next

/-- **All their channels were drawn from texts**, however many there are. -/
theorem FromTexts.holds (hr : FromTexts config r) : r.Holds Channel.FromText := by
  induction hr with
  | empty => exact holds_empty config
  | addText text _ ih => exact ih.addText_fromText text
  | delete h _ ih => exact ih.deleteIfThere h
  | destroyAll _ ih => exact ih.destroyAll
  | commit calls now _ hcommit ih =>
    obtain ⟨shadow, hphase, hnext⟩ := successor_of_commit hcommit
    obtain ⟨q, hins, rfl⟩ := successor_eq_ok_iff.1 hnext
    have hshadow := (Progress.sound_after calls).fromText hphase
    have hmade : q.Holds Channel.FromText :=
      ih.destroyAll.insertAll (fun c hc => hshadow c (List.mem_filter.1 hc).1) hins
    exact hmade

theorem FromTexts.offerAll (hr : FromTexts config r) (texts : List String) :
    FromTexts config (r.offerAll texts) := by
  induction texts generalizing r with
  | nil => exact hr
  | cons text texts ih => exact ih (hr.addText text)

/-- What all three steps of an update lead to. -/
theorem FromTexts.of_run {next : Registry} {document : String} {now : Instant}
    {report : UpdateReport} (hr : FromTexts config r)
    (hrun : run r document now = .ok (next, report)) : FromTexts config next :=
  .commit _ now hr (Progress.commit_after_of_run hrun)

/-! ## §4. Saving them. -/

/-- **A SAVED REGISTRY IS TAKEN APART INTO THE TEXTS OF ITS CHANNELS**, one for each channel and in
the order of their slots, whatever the texts were that it came from, and whatever stands on the
line of the heading for the time. The text of a point in time stays on that line. -/
theorem FromTexts.sessions_saved (hr : FromTexts config r) :
    (∀ generated, Inline generated →
      Document.sessions (Document.ofRegistry r generated)
        = r.channels.map fun (_, c) => Document.channelText c) ∧
      ∀ t, Document.sessions (Document.ofRegistryAt r t)
        = r.channels.map fun (_, c) => Document.channelText c := by
  have hprintable : ∀ c ∈ r.records, c.toSession.Printable :=
    fun c hc => (hr.holds.of_mem_records hc).printable
  have hsaved : ∀ generated, Inline generated →
      Document.sessions (Document.ofRegistry r generated)
        = r.channels.map fun (_, c) => Document.channelText c := by
    intro generated hgenerated
    rw [Document.sessions_ofRegistry hprintable hgenerated, records, List.map_map]
    rfl
  exact ⟨hsaved, fun t => hsaved _ t.inline_rfc3339⟩

/-- Two bulletins that were taken in one after the other, and the update that puts the first of
them in service. -/
theorem exists_bulletins_taken :
    ∃ r next, FromTexts .standard r ∧ FromTexts .standard next ∧ ∃ c d : Channel, c.key ≠ d.key ∧
      r.channels.map (·.2) = [c, d] ∧ next.channels.map (·.2) = [c] := by
  obtain ⟨e, e', hes, hnews, hnews'⟩ := exists_bulletins
  have hfits := hnews.fits hnews' (by decide) (by decide)
  obtain ⟨-, happ⟩ := takeIn_of_fits (indexed_empty .standard) (packed_empty .standard) 0 hes hfits
    (by show 2 ≤ 1000; decide) (by show min 1000 2 ≤ UInt32.size; decide)
  rw [takeIn_fst] at happ
  have hdocument : (Document.sessions (Document.boundary.intercalate bulletins)).map
      (extractText · RegistryConfig.standard.channelType) = [e, e'].map .ok := by
    rw [sessions_bulletins]
    exact hes
  obtain ⟨next, report, hrun, hrecords⟩ := run_empty_of_fits hdocument hfits
    (by show 2 ≤ 1000; decide) (by show 2 ≤ UInt32.size; decide) ⟨0, 0⟩
  refine ⟨_, next, FromTexts.empty.offerAll bulletins, FromTexts.empty.of_run hrun, e.channel,
    e'.channel, ?_, happ.records, hrecords.trans ?_⟩
  · rw [hnews.1, hnews'.1]
    decide
  · simp [hnews.2.2.2, hnews'.2.2.2]

/-- Both are saved and taken apart again. -/
theorem FromTexts.sessions_saved_bulletins :
    ∃ r next, FromTexts .standard r ∧ FromTexts .standard next ∧ Inline "today" ∧
      ∃ c d : Channel, c.key ≠ d.key ∧
        Document.sessions (Document.ofRegistry r "today")
          = [Document.channelText c, Document.channelText d] ∧
        Document.sessions (Document.ofRegistryAt next ⟨0, 0⟩) = [Document.channelText c] := by
  obtain ⟨r, next, hr, hnext, c, d, hkey, hrecords, hrecords'⟩ := exists_bulletins_taken
  have hinline : Inline "today" := by unfold Inline; decide
  have htexts : ∀ q : Registry, (q.channels.map fun (_, c) => Document.channelText c)
      = (q.channels.map (·.2)).map Document.channelText := by
    intro q
    rw [List.map_map]
    rfl
  refine ⟨r, next, hr, hnext, hinline, c, d, hkey, ?_, ?_⟩
  · rw [hr.sessions_saved.1 "today" hinline, htexts, hrecords]
    rfl
  · rw [hnext.sessions_saved.2, htexts, hrecords']
    rfl

end Registry

end Lineup
