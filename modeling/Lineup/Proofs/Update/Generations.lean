/-
  Lineup.Proofs.Update.Generations
  ────────────────────────────────
  **STALE HANDLES NEVER COME BACK.**  A commit gives all channels of the live registry up
  and takes the channels of the document in.  So it gives each place out at most once: a
  place that was there is free now or one generation further on, and a new one begins
  with generation 0 (`Renewed`).  As long as generations are not exhausted, a handle that
  stood for a channel before the commit names a place that is now free, or that has left
  its generation behind, and this stays so from commit to commit (`Later`).

  Main results:
    * `Seated.renewed_of_run` — what one commit does to places;
    * `Renewed.later`, `Renewed.young` — what that means while generations last;
    * `Manager.chain_snapshots` — what all commits of a manager do;
    * `Manager.snapshots_apart` — so a handle stands for a channel in one snapshot only.
-/
import Lineup.Proofs.Update.Versions
import Mathlib.Data.List.Chain

namespace Lineup

/-! ## §1. Places over time. -/

namespace Arena

variable {α : Type} {a b c : Arena α}

/-- Places that are free later, or have left their generation behind. -/
def Later (a b : Arena α) : Prop :=
  ∀ (i : Nat) (p : Place α), a.places[i]? = some p →
    ∃ q, b.places[i]? = some q ∧ (q = ⟨p.generation, none⟩ ∨ p.generation < q.generation)

theorem Later.trans (h : a.Later b) (h' : b.Later c) : a.Later c := by
  intro i p hp
  obtain ⟨q, hq, hcase⟩ := h i p hp
  obtain ⟨s, hs, hcase'⟩ := h' i q hq
  refine ⟨s, hs, ?_⟩
  rcases hcase with rfl | hlt
  · exact hcase'
  · rcases hcase' with rfl | hlt'
    · exact Or.inr hlt
    · exact Or.inr (UInt32.lt_trans hlt hlt')

/-- **A handle that stood for a value stands for nothing later.** -/
theorem Later.resolve_eq_none (h : a.Later b) {k : Handle} {v : α} (hk : a.resolve k = some v) :
    b.resolve k = none := by
  obtain ⟨q, hq, hcase⟩ := h _ _ (resolve_eq_some_iff.1 hk)
  unfold resolve
  rw [hq]
  dsimp only
  rcases hcase with rfl | hlt
  · exact if_pos rfl
  · refine if_neg fun heq => ?_
    rw [heq] at hlt
    exact UInt32.lt_irrefl _ hlt

/-- An arena in which all places were freed and each was given out again at most once. -/
structure Renewed (a b : Arena α) : Prop where
  /-- A place that was there is free, or one generation further on. -/
  old : ∀ (i : Nat) (p : Place α), a.places[i]? = some p →
    b.places[i]? = some ⟨p.generation, none⟩ ∨ ∃ v, b.places[i]? = some ⟨p.generation + 1, some v⟩
  /-- A place that was not there is not free. -/
  new : ∀ (i : Nat) (q : Place α), a.places[i]? = none → b.places[i]? = some q →
    ∃ v, q = ⟨0, some v⟩

/-- **A value that is added goes to a place that was not given out since.** -/
theorem Renewed.allocate (h : a.Renewed b) (hb : b.Counted) (v : α) :
    a.Renewed (b.allocate v).2 := by
  unfold Arena.allocate
  split
  · next j free hf =>
    -- a place that is free now was there, and has its old generation
    obtain ⟨q, hq, hnone⟩ := (hb.mem_free j).1 (by rw [hf]; simp)
    have hlt : j.toNat < b.places.size := (Array.getElem?_eq_some_iff.1 hq).1
    have hsame : ∀ i : Nat, i ≠ j.toNat → (b.places.setIfInBounds j.toNat
        ⟨b.generationAt j + 1, some v⟩)[i]? = b.places[i]? :=
      fun i hi => Array.getElem?_setIfInBounds_ne (Ne.symm hi)
    refine ⟨fun i p hp => ?_, fun i s hno hs => ?_⟩
    · by_cases hi : i = j.toNat
      · subst hi
        refine Or.inr ⟨v, ?_⟩
        rcases h.old _ p hp with hplace | ⟨w, hplace⟩
        · have hgen : b.generationAt j = p.generation := by
            rw [generationAt, hplace]
            rfl
          simp [hlt, hgen]
        · rw [hplace] at hq
          cases hq
          cases hnone
      · dsimp only
        rw [hsame i hi]
        exact h.old i p hp
    · by_cases hi : i = j.toNat
      · subst hi
        obtain ⟨w, rfl⟩ := h.new _ q hno hq
        cases hnone
      · dsimp only at hs
        rw [hsame i hi] at hs
        exact h.new i s hno hs
  · -- a place behind all others was not there before
    refine ⟨fun i p hp => ?_, fun i s hno hs => ?_⟩
    · have hlt : i ≠ b.places.size := by
        rintro rfl
        rcases h.old _ p hp with hplace | ⟨w, hplace⟩ <;> simp at hplace
      dsimp only
      rw [Array.getElem?_push, if_neg hlt]
      exact h.old i p hp
    · dsimp only at hs
      rw [Array.getElem?_push] at hs
      split at hs
      · exact ⟨v, (Option.some.inj hs).symm⟩
      · exact h.new i s hno hs

theorem Renewed.later (h : a.Renewed b) {n : Nat} (ha : a.Young n) (hn : n < UInt32.size) :
    a.Later b := by
  intro i p hp
  rcases h.old i p hp with hq | ⟨v, hq⟩
  · exact ⟨_, hq, Or.inl rfl⟩
  · refine ⟨_, hq, Or.inr ?_⟩
    rw [UInt32.lt_iff_toNat_lt, toNat_add_one (ha i p hp) hn]
    exact Nat.lt_succ_self _

theorem Renewed.young (h : a.Renewed b) {n : Nat} (ha : a.Young n) (hn : n < UInt32.size) :
    b.Young (n + 1) := by
  intro i q hq
  cases hp : a.places[i]? with
  | none =>
    obtain ⟨v, rfl⟩ := h.new i q hp hq
    exact Nat.succ_pos n
  | some p =>
    have hlt := ha i p hp
    rcases h.old i p hp with hq' | ⟨v, hq'⟩
    · rw [hq] at hq'
      cases hq'
      exact Nat.lt_succ_of_lt hlt
    · rw [hq] at hq'
      cases hq'
      rw [toNat_add_one hlt hn]
      exact Nat.succ_lt_succ hlt

end Arena

/-! ## §2. One commit. -/

namespace Registry

variable {r r' : Registry}

/-- **Giving all channels up frees all places**, in their generations. -/
theorem Seated.renewed_destroyAll (hr : r.Seated) : r.arena.Renewed r.destroyAll.arena := by
  have hvacant := hr.destroyAll_vacant
  have hgeneration : ∀ i : Nat, (r.destroyAll.arena.places[i]?).map (·.generation)
      = (r.arena.places[i]?).map (·.generation) := by
    refine detachEach_preserves (P := fun q => ∀ i : Nat, (q.arena.places[i]?).map (·.generation)
      = (r.arena.places[i]?).map (·.generation)) (fun q h hq i => ?_) (fun _ => rfl) r.handles
    rw [← hq]
    unfold Registry.detachIfThere
    split
    · next c q' hd =>
      obtain ⟨a, hrel, rfl⟩ := detach_eq_ok_iff.1 hd
      exact Arena.generation_release hrel i
    · rfl
  have hnone : ∀ h, r.destroyAll.arena.resolve h = none :=
    hvacant.seated.getAny_of_no_handle hvacant.handles
  refine ⟨fun i p hp => Or.inl ?_, fun i q hno hq => ?_⟩
  · have hplace := hgeneration i
    rw [hp] at hplace
    obtain ⟨⟨g, w⟩, hq, hgen⟩ := Option.map_eq_some_iff.1 hplace
    have hlt : i < UInt32.size :=
      Nat.lt_of_lt_of_le (Array.getElem?_eq_some_iff.1 hq).1 hvacant.seated.arena.places_le
    obtain rfl : w = none := Arena.value_eq_none hnone hlt hq
    rw [hq, show g = p.generation from hgen]
  · -- no place is added
    have hplace := hgeneration i
    rw [hno, hq] at hplace
    cases hplace

/-- **Taking channels in gives each place out at most once.** -/
theorem renewed_insertAll {a : Arena Channel} (h : a.Renewed r.arena) (hr : r.arena.Counted)
    {cs : List Channel} (hok : Coordinator.insertAll r cs = .ok r') : a.Renewed r'.arena := by
  induction cs generalizing r with
  | nil =>
    obtain rfl := Except.ok.inj hok
    exact h
  | cons c cs ih =>
    obtain ⟨k, r₁, hins, hrest⟩ := insertAll_cons_eq_ok hok
    obtain ⟨-, p, f, rfl⟩ := insert_eq_ok hins
    exact ih (h.allocate hr (unmarked c)) (hr.allocate (unmarked c)) hrest

/-- **So does a committed update.** -/
theorem Seated.renewed_of_run {live next : Registry} (hl : live.Seated) {document : String}
    {now : Instant} {report : UpdateReport}
    (hrun : Coordinator.run live document now = .ok (next, report)) :
    live.arena.Renewed next.arena := by
  obtain ⟨-, -, hnext, -⟩ := Coordinator.run_eq_ok_iff.1 hrun
  obtain ⟨q, hins, rfl⟩ := Coordinator.successor_eq_ok_iff.1 hnext
  have hrenewed : live.arena.Renewed q.arena :=
    renewed_insertAll hl.renewed_destroyAll hl.destroyAll_vacant.seated.arena.toCounted hins
  exact hrenewed

end Registry

/-! ## §3. Every run of a manager. -/

namespace Manager

open Registry

/-- The registries that a manager puts in place, one for each update of a run that is
committed. -/
def snapshots (m : Manager) : List (String × Instant) → List Registry
  | [] => []
  | (document, now) :: updates =>
    match m.apply document now with
    | (.ok _, m) => m.live :: m.snapshots updates
    | (.error _, m) => m.snapshots updates

variable {config : RegistryConfig} {m : Manager} {updates : List (String × Instant)}

theorem snapshots_cons_of_ok {document : String} {now : Instant} {next : Registry}
    {report : UpdateReport} (hrun : Coordinator.run m.live document now = .ok (next, report)) :
    m.snapshots ((document, now) :: updates)
      = next :: ({ m with live := next, lastReport := some report } : Manager).snapshots updates := by
  conv_lhs => unfold snapshots
  rw [apply_of_ok hrun]

theorem snapshots_cons_of_error {document : String} {now : Instant} {e : UpdateError}
    (hrun : Coordinator.run m.live document now = .error e) :
    m.snapshots ((document, now) :: updates)
      = ({ m with lastReport := e.report?.or m.lastReport } : Manager).snapshots updates := by
  conv_lhs => unfold snapshots
  rw [apply_of_error hrun]

/-- Every snapshot is settled. -/
theorem settled_of_mem_snapshots (hm : m.live.Settled config) {s : Registry}
    (hs : s ∈ m.snapshots updates) : s.Settled config := by
  induction updates generalizing m with
  | nil => cases hs
  | cons update updates ih =>
    obtain ⟨document, now⟩ := update
    cases hrun : Coordinator.run m.live document now with
    | error e =>
      rw [snapshots_cons_of_error hrun] at hs
      refine ih ?_ hs
      exact hm
    | ok p =>
      obtain ⟨next, report⟩ := p
      rw [snapshots_cons_of_ok hrun, List.mem_cons] at hs
      rcases hs with rfl | hs
      · exact hm.run hrun
      · refine ih ?_ hs
        exact hm.run hrun

/-- **From snapshot to snapshot all places are left behind**, as long as there are as many
generations as commits. -/
theorem chain_snapshots (hm : m.live.Settled config) {n : Nat} (hyoung : m.live.arena.Young n)
    (hn : n + (m.snapshots updates).length ≤ UInt32.size) :
    (m.live :: m.snapshots updates).IsChain fun s t => s.arena.Later t.arena := by
  induction updates generalizing m n with
  | nil => exact .singleton _
  | cons update updates ih =>
    obtain ⟨document, now⟩ := update
    cases hrun : Coordinator.run m.live document now with
    | error e =>
      -- a refused update leaves the live registry, and generations are not used up
      rw [snapshots_cons_of_error hrun] at hn ⊢
      refine ih ?_ ?_ hn
      · exact hm
      · exact hyoung
    | ok p =>
      obtain ⟨next, report⟩ := p
      rw [snapshots_cons_of_ok hrun] at hn ⊢
      rw [List.length_cons, ← Nat.add_assoc, Nat.add_right_comm] at hn
      have hlt : n < UInt32.size := by omega
      have hrenewed := hm.indexed.renewed_of_run hrun
      refine .cons_cons (hrenewed.later hyoung hlt) (ih ?_ ?_ hn)
      · exact hm.run hrun
      · exact hrenewed.young hyoung hlt

/-- **A HANDLE STANDS FOR A CHANNEL IN ONE SNAPSHOT ONLY**: in every run of a manager with no more
committed updates than there are generations, whatever updates are refused in between, no
handle of a committed registry stands for a channel in a later one; so a handle that is kept
stands for a channel in no other snapshot than the one it was taken from. -/
theorem snapshots_apart (config : RegistryConfig) (updates : List (String × Instant))
    (hcount : ((Manager.empty config).snapshots updates).length ≤ UInt32.size) :
    ((Manager.empty config).snapshots updates).Pairwise
      (fun s t => ∀ h ∈ s.handles, t.getAny h = none) ∧
    ∀ (i j : Nat) (s t : Registry), ((Manager.empty config).snapshots updates)[i]? = some s →
      ((Manager.empty config).snapshots updates)[j]? = some t →
      ∀ h ∈ s.handles, (t.getAny h).isSome → i = j := by
  have hempty : (Manager.empty config).live.Settled config := settled_empty config
  have hyoung : (Manager.empty config).live.arena.Young 0 := by
    intro i p hp
    cases hp
  have hchain := chain_snapshots hempty hyoung (by rw [Nat.zero_add]; exact hcount)
  have hsettled : ∀ s ∈ (Manager.empty config).snapshots updates, s.Settled config :=
    fun s hs => settled_of_mem_snapshots hempty hs
  generalize (Manager.empty config).snapshots updates = snapshots at hchain hsettled ⊢
  -- a chain of arenas, each of which leaves the one before behind
  have : IsTrans Registry (fun s t => s.arena.Later t.arena) := ⟨fun _ _ _ h h' => h.trans h'⟩
  have hpair : snapshots.Pairwise fun s t => ∀ h ∈ s.handles, t.getAny h = none := by
    refine (List.isChain_iff_pairwise.1 hchain).of_cons.imp_of_mem fun {s t} hs _ hlater h hh => ?_
    obtain ⟨c, hc⟩ := (hsettled s hs).indexed.exists_channel hh
    exact hlater.resolve_eq_none hc
  refine ⟨hpair, fun i j s t hs ht h hh hsome => ?_⟩
  have hbefore := List.pairwise_iff_getElem.1 hpair
  obtain ⟨hi, rfl⟩ := List.getElem?_eq_some_iff.1 hs
  obtain ⟨hj, rfl⟩ := List.getElem?_eq_some_iff.1 ht
  rcases Nat.lt_trichotomy i j with hlt | heq | hlt
  · rw [hbefore i j hi hj hlt h hh] at hsome
    cases hsome
  · exact heq
  · -- the other way round: what stands for a channel is resident
    have hh' := (hsettled _ (List.getElem_mem hj)).indexed.resident h
    obtain ⟨c, hc⟩ := (hsettled _ (List.getElem_mem hi)).indexed.exists_channel hh
    rw [hbefore j i hj hi hlt h (hh'.2 hsome)] at hc
    cases hc

/-- Two announcements, one after the other. -/
theorem snapshots_apart_news :
    ∃ s t, (Manager.empty .standard).snapshots [(newsText "9" "239.0.0.1/64", ⟨0, 0⟩),
        (newsText "2" "239.0.0.2/64", ⟨0, 0⟩)] = [s, t] ∧ s.records ≠ [] ∧
      ∀ h ∈ s.handles, t.getAny h = none := by
  obtain ⟨s, _, t, _, c, d, hrun, hrun', ⟨hs, -⟩, -⟩ := exists_news
  have hsnapshots : (Manager.empty .standard).snapshots [(newsText "9" "239.0.0.1/64", ⟨0, 0⟩),
      (newsText "2" "239.0.0.2/64", ⟨0, 0⟩)] = [s, t] := by
    rw [snapshots_cons_of_ok (m := .empty .standard) hrun,
      snapshots_cons_of_ok (m := ⟨_, s, _⟩) hrun']
    rfl
  obtain ⟨hpair, -⟩ := snapshots_apart .standard _ (by
    rw [hsnapshots]
    show 2 ≤ UInt32.size
    decide)
  rw [hsnapshots] at hpair
  refine ⟨s, t, hsnapshots, ?_, List.rel_of_pairwise_cons hpair (List.mem_singleton_self t)⟩
  rw [hs]
  exact List.cons_ne_nil _ _

end Manager

end Lineup
