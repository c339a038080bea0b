/-
  Lineup.Proofs.Registry.Refusal
  ──────────────────────────────
  **A REFUSAL LEAVES NO TRACE.**  A channel may be refused for its key, for want of room, or
  at any pair of its two lists.  By then a handle may have been given out for it, and claims
  may stand that have to be given up again.  Giving a claim up moves the last claim of its
  chain; still only claims of this very call move, for they stand behind all others
  (`AddressMap.Grown`).  So both maps are the same afterwards, chain by chain, and so are
  slots and keys.

  The arena is not the same: a place has moved on by one generation.  No handle can tell, as
  long as that place has a number (`Arena.Counted.release_allocate`).

  Main results:
    * `noTrace_of_insert`, `noTrace_of_add`, `noTrace_of_addText` — one refusal;
    * `Reached.noTrace_of_refused` — any refusal, after any sequence of steps.
-/
import Lineup.Proofs.Registry.Linked

namespace Lineup.Registry

/-! ## §1. Nothing but the counters. -/

/-- Slots, keys and settings are the same, and so are both maps with all their chains. -/
def SameIndices (r r' : Registry) : Prop :=
  r' = { r with arena := r'.arena, counters := r'.counters }

/-- There are as many channels, and every handle stands for what it stood for. -/
def StandsAlike (r r' : Registry) : Prop :=
  r'.size = r.size ∧ ∀ h, r'.getAny h = r.getAny h

section Alike

variable {r r' r'' : Registry}

theorem SameIndices.trans (h : SameIndices r r') (h' : SameIndices r' r'') : SameIndices r r'' := by
  unfold SameIndices at *
  rw [h', h]

theorem StandsAlike.trans (h : StandsAlike r r') (h' : StandsAlike r' r'') : StandsAlike r r'' :=
  ⟨h'.1.trans h.1, fun k => (h'.2 k).trans (h.2 k)⟩

theorem sameIndices_count (r : Registry) (f : Counters → Counters) : SameIndices r (r.count f) := rfl

theorem standsAlike_count (r : Registry) (f : Counters → Counters) : StandsAlike r (r.count f) :=
  ⟨rfl, fun _ => rfl⟩

end Alike

/-! ## §2. One refusal. -/

section Refused

variable {r r' : Registry} {e : RegistryError}

/-- A handle that is given out and withdrawn leaves the indices alone, and where it had a number
of its own, every other handle. -/
theorem noTrace_withdraw (hr : r.arena.Counted) (hlt : r.size < r.maxChannels) (c : Channel)
    (hgiven : r' = ({ r with arena := (r.arena.allocate (unmarked c)).2 } : Registry).withdraw
      (r.nextHandle c)) : SameIndices r r' ∧ (r.HasRoom → StandsAlike r r') := by
  subst hgiven
  refine ⟨?_, fun hroom => ?_⟩
  · unfold SameIndices withdraw
    split <;> rfl
  · obtain ⟨b, hrel, hsize, hresolve⟩ :=
      hr.release_allocate (hr.isOpen (hroom hlt)) (unmarked c)
    unfold StandsAlike
    simp only [withdraw, nextHandle, hrel]
    exact ⟨hsize, hresolve⟩

/-- **A channel that is refused leaves no trace.** -/
theorem noTrace_of_insert (hr : r.arena.Counted) {c : Channel}
    (hins : r.insert c = (.error e, r')) : SameIndices r r' ∧ (r.HasRoom → StandsAlike r r') := by
  rcases r.insert_outcome c with ⟨-, e', he⟩ | ⟨-, hlt, e', he⟩ | ⟨-, p, f, -, -, hok⟩
  · -- it was refused before a handle was given out
    rw [hins] at he
    cases he
    exact ⟨rfl, fun _ => ⟨rfl, fun _ => rfl⟩⟩
  · rw [hins] at he
    exact noTrace_withdraw hr hlt c (Prod.mk.inj he).2
  · rw [hins] at hok
    cases hok

/-- **So does a session.** -/
theorem noTrace_of_add (hr : r.arena.Counted) {v : SessionView}
    (hadd : r.add v = (.error e, r')) : SameIndices r r' ∧ (r.HasRoom → StandsAlike r r') := by
  rcases r.add_outcome v with ⟨x, -, hout⟩ | ⟨y, h, q, -, -, hout⟩ | ⟨y, x, q, -, hins, hout⟩
  · cases hadd.symm.trans hout
    exact ⟨sameIndices_count r _, fun _ => standsAlike_count r _⟩
  · cases hadd.symm.trans hout
  · cases hadd.symm.trans hout
    -- a registry that has counted a session has as much room
    obtain ⟨hsame, hstands⟩ := noTrace_of_insert (r := r.counted) hr hins
    have hsame' : SameIndices r r.counted :=
      sameIndices_count r fun k => k.offered.wasParsed.wasValidated
    have hstands' : StandsAlike r r.counted :=
      standsAlike_count r fun k => k.offered.wasParsed.wasValidated
    exact ⟨(hsame'.trans hsame).trans (sameIndices_count q _),
      fun hroom => (hstands'.trans (hstands hroom)).trans (standsAlike_count q _)⟩

/-- **So does a text.** -/
theorem noTrace_of_addText (hr : r.arena.Counted) {text : String}
    (hadd : r.addText text = (.error e, r')) : SameIndices r r' ∧ (r.HasRoom → StandsAlike r r') := by
  rcases r.addText_outcome text with ⟨x, -, hout⟩ | ⟨s, -, hout⟩
  · cases hadd.symm.trans hout
    exact ⟨sameIndices_count r _, fun _ => standsAlike_count r _⟩
  · exact noTrace_of_add hr (hout.symm.trans hadd)

end Refused

/-! ## §3. Every refusal. -/

/-- **All channels are found** after any sequence of steps, however many are allowed. -/
theorem Reached.linked {config : RegistryConfig} {r : Registry} (hr : Reached config r) :
    r.Linked := by
  induction hr with
  | empty => exact linked_empty config
  | step _ hs ih =>
    exact hs.preserves (fun _ _ hr => hr.congr rfl) (fun _ c hr => hr.insert c)
      (fun _ _ _ _ hr hd => hr.delete hd) (fun _ hr => hr.destroyAll) ih

/-- **A REFUSAL LEAVES NO TRACE**, whatever was done to the registry before: a channel, a
session or a text that is not taken in leaves slots, keys, both maps with the order of all
their chains, and what every handle stands for as they were. Only counters may differ, and
for a channel that is given as a record not even these.

A handle numbers its place with 32 bits. Where all numbers are taken and still more channels
are allowed, one that is refused takes the channel along that has the same handle; so what
handles stand for is asked only where the next channel has a number of its own, as it has
wherever no more than 2³² channels are allowed. -/
theorem Reached.noTrace_of_refused {config : RegistryConfig} {r : Registry}
    (hr : Reached config r) :
    (∀ c e r', r.insert c = (.error e, r') →
      SameIndices r r' ∧ r'.counters = r.counters ∧ (r.HasRoom → StandsAlike r r')) ∧
    (∀ v e r', r.add v = (.error e, r') →
      SameIndices r r' ∧ (r.HasRoom → StandsAlike r r')) ∧
    (∀ text e r', r.addText text = (.error e, r') →
      SameIndices r r' ∧ (r.HasRoom → StandsAlike r r')) ∧
    (config.maxChannels ≤ UInt32.size → r.HasRoom) := by
  have harena := hr.linked.arena
  refine ⟨?_, ?_, ?_, ?_⟩
  · intro c e r' hins
    have hcounters := r.counters_insert c
    rw [hins] at hcounters
    obtain ⟨hsame, hstands⟩ := noTrace_of_insert harena hins
    exact ⟨hsame, hcounters, hstands⟩
  · intro v e r' hadd
    exact noTrace_of_add harena hadd
  · intro text e r' hadd
    exact noTrace_of_addText harena hadd
  · intro hmax
    exact hasRoom_of_config hmax (hr.indexed hmax).2

/-- Two streams with one feedback target: the second one is refused for it, when both of its
primary pairs are claimed already. -/
theorem Reached.noTrace_of_refused_feedback :
    ∃ r r', Reached .standard r ∧ r.size = 1 ∧ r.HasRoom ∧
      (feedbackChannel "2" ⟨239, 0, 0, 2⟩).primaryKeys.length = 2 ∧
      r.insert (feedbackChannel "2" ⟨239, 0, 0, 2⟩)
        = (.error (.mapConflict ⟨"-", "2", ⟨10, 0, 0, 1⟩⟩ (.duplicate ⟨10, 0, 0, 5⟩ 5001)), r') ∧
      SameIndices r r' ∧ r'.counters = r.counters ∧ StandsAlike r r' := by
  have hreached : Reached .standard
      ((Registry.empty .standard).insert (feedbackChannel "1" ⟨239, 0, 0, 1⟩)).2 :=
    .step .empty (.insert _)
  have hsize : ((Registry.empty .standard).insert (feedbackChannel "1" ⟨239, 0, 0, 1⟩)).2.size
      = 1 := by
    decide +kernel
  have hins : (((Registry.empty .standard).insert (feedbackChannel "1" ⟨239, 0, 0, 1⟩)).2.insert
      (feedbackChannel "2" ⟨239, 0, 0, 2⟩)).1
        = .error (.mapConflict ⟨"-", "2", ⟨10, 0, 0, 1⟩⟩ (.duplicate ⟨10, 0, 0, 5⟩ 5001)) := by
    decide +kernel
  generalize ((Registry.empty .standard).insert (feedbackChannel "1" ⟨239, 0, 0, 1⟩)).2 = r
    at hreached hsize hins
  rcases hout : r.insert (feedbackChannel "2" ⟨239, 0, 0, 2⟩) with ⟨x, r'⟩
  rw [hout] at hins
  subst hins
  obtain ⟨hinsert, -, -, hmax⟩ := hreached.noTrace_of_refused
  have hroom := hmax (Nat.le_of_lt (by decide))
  obtain ⟨hsame, hcounters, hstands⟩ := hinsert _ _ _ hout
  exact ⟨r, r', hreached, hsize, hroom, rfl, hout, hsame, hcounters, hstands hroom⟩

end Lineup.Registry
