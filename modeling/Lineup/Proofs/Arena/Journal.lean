/-
  Lineup.Proofs.Arena.Journal
  ───────────────────────────
  **NO HANDLE IS GIVEN OUT TWICE.**  An arena forgets: a place that was released is given out
  again, and only its generation tells the new handle from the old ones.  A journal keeps what
  the arena forgets, every call with what came of it.  Read beside its journal, an arena is a
  map whose keys are never used again:

      a handle that is given out stands in no earlier entry
      a handle stands for a value exactly if it was given out for the value and
      was not given up since
      a handle that stands for nothing can be given up to no effect
      the size of the arena is the number of handles that stand for a value

  The generation of a place is that of the last handle for it, so an older handle has a smaller
  one.  Generations have 32 bits and wrap around.  But a place cannot be given out more often than
  there were handles, so no generation does as long as there were no more handles than numbers,
  and no place lies beyond the numbers either.

  Main results:
    * `Journal.Sound.fresh` — the next handle is a new one;
    * `Journal.Sound.allocate`, `Journal.Sound.release` — one call;
    * `Journal.refines_fresh_keys` — every run.
-/
import Lineup.Proofs.Arena

namespace Lineup.Arena

variable {α : Type} {a : Arena α}

/-! ## §1. Where a new handle leads. -/

/-- The place of a new handle holds its value in its generation. -/
theorem Counted.place_allocate (ha : a.Counted) (hroom : a.Open) (v : α) :
    (a.allocate v).2.places[(a.allocate v).1.index.toNat]?
      = some ⟨(a.allocate v).1.generation, some v⟩ := by
  apply resolve_eq_some_iff.1
  rw [ha.resolve_allocate hroom, if_pos rfl]

/-- Every other place stays. -/
theorem Open.place_allocate_of_ne (hroom : a.Open) (v : α) {i : Nat}
    (hi : i ≠ (a.allocate v).1.index.toNat) : (a.allocate v).2.places[i]? = a.places[i]? := by
  unfold allocate at hi ⊢
  split
  · next j free hf =>
    rw [hf] at hi
    exact Array.getElem?_setIfInBounds_ne (Ne.symm hi)
  · next hf =>
    rw [hf] at hi
    have hne : i ≠ a.places.size := by
      rw [← hroom.room hf]
      exact hi
    show (a.places.push _)[i]? = _
    rw [Array.getElem?_push, if_neg hne]

/-- A place that was there before goes one generation up, and a new one begins with 0. -/
theorem Counted.generation_allocate (ha : a.Counted) (hroom : a.Open) (v : α) :
    (∃ p, a.places[(a.allocate v).1.index.toNat]? = some p ∧
        (a.allocate v).1.generation = p.generation + 1) ∨
      a.places[(a.allocate v).1.index.toNat]? = none ∧ (a.allocate v).1.generation = 0 := by
  unfold Arena.allocate
  split
  · next j free hf =>
    obtain ⟨p, hp, -⟩ := (ha.mem_free j).1 (by rw [hf]; simp)
    refine Or.inl ⟨p, hp, ?_⟩
    show a.generationAt j + 1 = _
    unfold generationAt
    rw [hp]
    rfl
  · next hf =>
    refine Or.inr ⟨?_, rfl⟩
    show a.places[(UInt32.ofNat a.places.size).toNat]? = none
    rw [hroom.room hf]
    exact Array.getElem?_size

/-! ## §2. Calls and what comes of them. -/

/-- What can be asked of an arena. -/
inductive Call (α : Type) where
  /-- Keeping a value. -/
  | allocate (value : α)
  /-- Giving up what a handle stands for. -/
  | release (h : Handle)
  deriving DecidableEq, Repr

/-- Whether a call asks for a handle. -/
def Call.isAllocate : Call α → Bool
  | allocate _ => true
  | release _ => false

/-- What came of a call. -/
inductive Event (α : Type) where
  /-- A handle was given out for a value. -/
  | issued (h : Handle) (value : α)
  /-- A handle was given up, and with it the value it stood for, if it did. -/
  | released (h : Handle) (value : Option α)
  deriving DecidableEq, Repr

/-- The handle that was given out. -/
def Event.issued? : Event α → Option Handle
  | issued h _ => some h
  | released _ _ => none

/-- What comes of a call, and the arena after it. -/
def answer (a : Arena α) : Call α → Event α × Arena α
  | .allocate v => (.issued (a.allocate v).1 v, (a.allocate v).2)
  | .release h =>
    match a.release h with
    | some (v, b) => (.released h (some v), b)
    | none => (.released h none, a)

/-- A handle that is given up stood for a value, or nothing happens. -/
theorem answer_release_cases (a : Arena α) (h : Handle) :
    (a.resolve h = none ∧ a.answer (.release h) = (.released h none, a)) ∨
      ∃ v b, a.release h = some (v, b) ∧ a.answer (.release h) = (.released h (some v), b) := by
  cases hrel : a.release h with
  | none =>
    refine Or.inl ⟨(release_eq_none_iff a h).1 hrel, ?_⟩
    simp only [answer, hrel]
  | some released =>
    obtain ⟨v, b⟩ := released
    refine Or.inr ⟨v, b, rfl, ?_⟩
    simp only [answer, hrel]

/-- **Giving up a handle gives the value it stands for**, and changes nothing where it stands for
none. -/
theorem answer_release (a : Arena α) (h : Handle) :
    (a.answer (.release h)).1 = .released h (a.resolve h) ∧
      (a.resolve h = none → (a.answer (.release h)).2 = a) := by
  rcases a.answer_release_cases h with ⟨hnone, hanswer⟩ | ⟨v, b, hrel, hanswer⟩
  · rw [hanswer, hnone]
    exact ⟨rfl, fun _ => rfl⟩
  · rw [hanswer, resolve_of_release hrel]
    refine ⟨rfl, ?_⟩
    intro hnone
    cases hnone

/-- Afterwards it stands for nothing, and every other handle stands for what it stood for. -/
theorem resolve_answer_release (a : Arena α) (h k : Handle) :
    (a.answer (.release h)).2.resolve k = if k = h then none else a.resolve k := by
  rcases a.answer_release_cases h with ⟨hnone, hanswer⟩ | ⟨v, b, hrel, hanswer⟩
  · rw [hanswer]
    by_cases hk : k = h
    · rw [if_pos hk, hk]
      exact hnone
    · rw [if_neg hk]
  · rw [hanswer]
    exact resolve_release hrel k

/-- All places stay in their generations. -/
theorem generation_answer_release (a : Arena α) (h : Handle) :
    (a.answer (.release h)).2.places.size = a.places.size ∧
      ∀ i : Nat, ((a.answer (.release h)).2.places[i]?).map (·.generation)
        = (a.places[i]?).map (·.generation) := by
  rcases a.answer_release_cases h with ⟨-, hanswer⟩ | ⟨v, b, hrel, hanswer⟩
  · rw [hanswer]
    exact ⟨rfl, fun i => rfl⟩
  · rw [hanswer]
    exact ⟨places_release hrel, generation_release hrel⟩

theorem Counted.answer_release (ha : a.Counted) (h : Handle) :
    (a.answer (.release h)).2.Counted := by
  rcases a.answer_release_cases h with ⟨-, hanswer⟩ | ⟨v, b, hrel, hanswer⟩
  · rw [hanswer]
    exact ha
  · rw [hanswer]
    exact ha.release hrel

/-! ## §3. The handles that stand for values. -/

/-- A list of all handles that stand for a value. -/
structure Lists (a : Arena α) (handles : List Handle) : Prop where
  /-- None is listed twice. -/
  nodup : handles.Nodup
  /-- The listed ones stand for values, and no others do. -/
  mem : ∀ h, h ∈ handles ↔ (a.resolve h).isSome
  /-- There are as many as values. -/
  length : handles.length = a.size

theorem lists_empty : (empty : Arena α).Lists [] where
  nodup := List.nodup_nil
  mem := by
    intro h
    rw [resolve_empty]
    simp
  length := rfl

theorem Lists.allocate {handles : List Handle} (hl : a.Lists handles) (ha : a.Counted)
    (hroom : a.Open) (v : α) : (a.allocate v).2.Lists ((a.allocate v).1 :: handles) where
  nodup := by
    refine List.nodup_cons.2 ⟨?_, hl.nodup⟩
    rw [hl.mem, ha.resolve_new hroom]
    simp
  mem := by
    intro h
    rw [List.mem_cons, hl.mem, ha.resolve_allocate hroom]
    by_cases hh : h = (a.allocate v).1
    · simp [hh]
    · simp [hh]
  length := by
    rw [List.length_cons, hl.length, size_allocate]

theorem Lists.answer_release {handles : List Handle} (hl : a.Lists handles) (h : Handle) :
    (a.answer (.release h)).2.Lists (handles.erase h) where
  nodup := hl.nodup.erase h
  mem := by
    intro k
    rw [hl.nodup.mem_erase_iff, hl.mem, resolve_answer_release]
    by_cases hk : k = h
    · simp [hk]
    · simp [hk]
  length := by
    rcases a.answer_release_cases h with ⟨hnone, hanswer⟩ | ⟨v, b, hrel, hanswer⟩
    · have hnot : h ∉ handles := by
        rw [hl.mem, hnone]
        simp
      rw [hanswer, List.erase_of_not_mem hnot, hl.length]
    · have hmem : h ∈ handles := by
        rw [hl.mem, resolve_of_release hrel]
        rfl
      rw [hanswer, List.length_erase_of_mem hmem, hl.length]
      exact (size_release hrel).symm

/-! ## §4. Journals. -/

/-- An arena and all that came of the calls on it, the last one first. -/
structure Journal (α : Type) where
  /-- The arena. -/
  arena : Arena α
  /-- What came of the calls. -/
  past : List (Event α)
  deriving DecidableEq, Repr

/-- Since a handle was given out for a value it was not given up. -/
def StandsIn (past : List (Event α)) (h : Handle) (v : α) : Prop :=
  ∃ later earlier, past = later ++ .issued h v :: earlier ∧ ∀ x, .released h x ∉ later

theorem standsIn_issued {past : List (Event α)} {h k : Handle} {v w : α} :
    StandsIn (.issued k w :: past) h v ↔ (h = k ∧ v = w) ∨ StandsIn past h v := by
  constructor
  · intro hstands
    obtain ⟨later, earlier, hpast, hkept⟩ := hstands
    cases later with
    | nil =>
      -- the last entry is the one that is looked for
      cases hpast
      exact Or.inl ⟨rfl, rfl⟩
    | cons e later =>
      cases hpast
      exact Or.inr ⟨later, earlier, rfl, fun x hx => hkept x (List.mem_cons_of_mem _ hx)⟩
  · intro hcase
    rcases hcase with ⟨rfl, rfl⟩ | ⟨later, earlier, rfl, hkept⟩
    · exact ⟨[], past, rfl, fun x hx => by cases hx⟩
    · refine ⟨.issued k w :: later, earlier, rfl, fun x hx => ?_⟩
      rcases List.mem_cons.1 hx with hx | hx
      · cases hx
      · exact hkept x hx

theorem standsIn_released {past : List (Event α)} {h k : Handle} {v : α} {x : Option α} :
    StandsIn (.released k x :: past) h v ↔ h ≠ k ∧ StandsIn past h v := by
  constructor
  · intro hstands
    obtain ⟨later, earlier, hpast, hkept⟩ := hstands
    cases later with
    | nil => cases hpast
    | cons e later =>
      cases hpast
      refine ⟨?_, later, earlier, rfl, fun y hy => hkept y (List.mem_cons_of_mem _ hy)⟩
      intro heq
      exact hkept x (heq ▸ List.mem_cons_self)
  · intro hcase
    obtain ⟨hne, later, earlier, rfl, hkept⟩ := hcase
    refine ⟨.released k x :: later, earlier, rfl, fun y hy => ?_⟩
    rcases List.mem_cons.1 hy with hy | hy
    · cases hy
      exact hne rfl
    · exact hkept y hy

namespace Journal

/-- The journal of a new arena. -/
def start : Journal α := ⟨empty, []⟩

/-- One more call. -/
def next (j : Journal α) (call : Call α) : Journal α :=
  ⟨(j.arena.answer call).2, (j.arena.answer call).1 :: j.past⟩

/-- A sequence of calls. -/
def after (calls : List (Call α)) : Journal α := calls.foldl next start

/-- The handles that were given out, the last one first. -/
def issued (j : Journal α) : List Handle := j.past.filterMap Event.issued?

/-! ## §5. What a journal knows. -/

/-- An arena beside a journal that knows all about it. -/
structure Sound (j : Journal α) : Prop where
  /-- The free list is right. -/
  counted : j.arena.Counted
  /-- Every place was new when some handle was given out. -/
  places_le : j.arena.places.size ≤ j.issued.length
  /-- No place was given out more often than handles were. -/
  young : j.arena.Young j.issued.length
  /-- A handle has a place, and none for it is of a later generation than the place. -/
  known : ∀ h ∈ j.issued, ∃ p, j.arena.places[h.index.toNat]? = some p ∧
    h.generation.toNat ≤ p.generation.toNat
  /-- No handle was given out twice. -/
  nodup : j.issued.Nodup
  /-- A handle stands for what it was given out for, until it is given up. -/
  stands : ∀ h v, j.arena.resolve h = some v ↔ StandsIn j.past h v
  /-- The handles that stand for values are counted. -/
  size : ∃ handles, j.arena.Lists handles

theorem sound_start : (start : Journal α).Sound where
  counted := sound_empty.toCounted
  places_le := Nat.le_refl 0
  young := by
    intro i p hp
    cases hp
  known := by
    intro h hh
    cases hh
  nodup := List.nodup_nil
  stands := by
    intro h v
    rw [show (start : Journal α).arena.resolve h = none from resolve_empty h]
    refine ⟨fun hnone => ?_, fun hstands => ?_⟩
    · cases hnone
    · obtain ⟨later, earlier, hpast, -⟩ := hstands
      cases later <;> cases hpast
  size := ⟨[], lists_empty⟩

namespace Sound

variable {j : Journal α}

theorem isOpen (hj : j.Sound) (hcount : j.issued.length < UInt32.size) : j.arena.Open :=
  fun _ => Nat.lt_of_le_of_lt hj.places_le hcount

/-- A place that is given out again is one generation further on: none has used all of them up. -/
theorem generation_next (hj : j.Sound) (hcount : j.issued.length < UInt32.size) (v : α)
    {p : Place α} (hp : j.arena.places[(j.arena.allocate v).1.index.toNat]? = some p) :
    (j.arena.allocate v).1.generation.toNat = p.generation.toNat + 1 := by
  rcases hj.counted.generation_allocate (hj.isOpen hcount) v with ⟨q, hq, hgen⟩ | ⟨hnone, -⟩
  · obtain rfl := Option.some.inj (hp.symm.trans hq)
    rw [hgen]
    exact toNat_add_one (hj.young _ p hp) hcount
  · rw [hp] at hnone
    cases hnone

/-- **The next handle is a new one**, as long as there were fewer handles than numbers. -/
theorem fresh (hj : j.Sound) (hcount : j.issued.length < UInt32.size) (v : α) :
    (j.arena.allocate v).1 ∉ j.issued := by
  intro hmem
  obtain ⟨p, hp, hle⟩ := hj.known _ hmem
  have hgen := hj.generation_next hcount v hp
  omega

theorem young_allocate (hj : j.Sound) (hcount : j.issued.length < UInt32.size) (v : α) :
    (j.arena.allocate v).2.Young (j.issued.length + 1) := by
  have hroom := hj.isOpen hcount
  intro i q hq
  by_cases hi : i = (j.arena.allocate v).1.index.toNat
  · subst hi
    obtain rfl := Option.some.inj ((hj.counted.place_allocate hroom v).symm.trans hq)
    show (j.arena.allocate v).1.generation.toNat < j.issued.length + 1
    rcases hj.counted.generation_allocate hroom v with ⟨p, hp, -⟩ | ⟨-, hzero⟩
    · have hgen := hj.generation_next hcount v hp
      have hyoung := hj.young _ p hp
      omega
    · rw [hzero]
      exact Nat.succ_pos _
  · rw [hroom.place_allocate_of_ne v hi] at hq
    exact Nat.lt_succ_of_lt (hj.young i q hq)

theorem known_allocate (hj : j.Sound) (hcount : j.issued.length < UInt32.size) (v : α) :
    ∀ h ∈ (j.arena.allocate v).1 :: j.issued,
      ∃ p, (j.arena.allocate v).2.places[h.index.toNat]? = some p ∧
        h.generation.toNat ≤ p.generation.toNat := by
  have hroom := hj.isOpen hcount
  have hplace := hj.counted.place_allocate hroom v
  intro h hh
  rcases List.mem_cons.1 hh with rfl | hold
  · exact ⟨_, hplace, Nat.le_refl _⟩
  obtain ⟨p, hp, hle⟩ := hj.known h hold
  by_cases hi : h.index.toNat = (j.arena.allocate v).1.index.toNat
  · -- an older handle for the same place
    rw [hi] at hp
    have hgen := hj.generation_next hcount v hp
    refine ⟨_, (congrArg _ hi).trans hplace, ?_⟩
    show h.generation.toNat ≤ (j.arena.allocate v).1.generation.toNat
    omega
  · exact ⟨p, (hroom.place_allocate_of_ne v hi).trans hp, hle⟩

/-- **A handle that is given out is written down.** -/
theorem allocate (hj : j.Sound) (hcount : j.issued.length < UInt32.size) (v : α) :
    (j.next (.allocate v)).Sound := by
  have hroom := hj.isOpen hcount
  have hissued : (j.next (.allocate v)).issued = (j.arena.allocate v).1 :: j.issued := rfl
  have hsize := hj.counted.size_add
  have hplaces := hj.places_le
  refine ⟨hj.counted.allocate v, ?_, ?_, ?_, ?_, ?_, ?_⟩
  · rw [hissued, List.length_cons]
    exact hj.counted.places_allocate_le v (Nat.le_succ_of_le hplaces) (by omega)
  · rw [hissued]
    exact hj.young_allocate hcount v
  · rw [hissued]
    exact hj.known_allocate hcount v
  · rw [hissued]
    exact List.nodup_cons.2 ⟨hj.fresh hcount v, hj.nodup⟩
  · intro h w
    show (j.arena.allocate v).2.resolve h = some w
      ↔ StandsIn (.issued (j.arena.allocate v).1 v :: j.past) h w
    rw [hj.counted.resolve_allocate hroom, standsIn_issued, ← hj.stands]
    by_cases hh : h = (j.arena.allocate v).1
    · rw [if_pos hh, hh, hj.counted.resolve_new hroom v]
      simp [eq_comm]
    · rw [if_neg hh]
      simp [hh]
  · obtain ⟨handles, hlists⟩ := hj.size
    exact ⟨_, hlists.allocate hj.counted hroom v⟩

/-- **A handle that is given up is crossed out.** -/
theorem release (hj : j.Sound) (h : Handle) : (j.next (.release h)).Sound := by
  have hpast : (j.next (.release h)).past = .released h (j.arena.resolve h) :: j.past :=
    congrArg (· :: j.past) (j.arena.answer_release h).1
  have hissued : (j.next (.release h)).issued = j.issued := by
    unfold issued
    rw [hpast]
    rfl
  obtain ⟨hplaces, hgeneration⟩ := j.arena.generation_answer_release h
  refine ⟨hj.counted.answer_release h, ?_, ?_, ?_, ?_, ?_, ?_⟩
  · rw [hissued]
    exact Nat.le_trans (Nat.le_of_eq hplaces) hj.places_le
  · intro i q hq
    have hsame := hgeneration i
    rw [show (j.arena.answer (.release h)).2.places[i]? = some q from hq] at hsame
    obtain ⟨p, hp, hgen⟩ := Option.map_eq_some_iff.1 hsame.symm
    rw [hissued, ← show p.generation = q.generation from hgen]
    exact hj.young i p hp
  · intro k hk
    rw [hissued] at hk
    obtain ⟨p, hp, hle⟩ := hj.known k hk
    have hsame := hgeneration k.index.toNat
    rw [hp] at hsame
    obtain ⟨q, hq, hgen⟩ := Option.map_eq_some_iff.1 hsame
    refine ⟨q, hq, ?_⟩
    rw [show q.generation = p.generation from hgen]
    exact hle
  · rw [hissued]
    exact hj.nodup
  · intro k w
    show (j.arena.answer (.release h)).2.resolve k = some w ↔ _
    rw [hpast, standsIn_released, ← hj.stands, resolve_answer_release]
    by_cases hk : k = h
    · simp [hk]
    · simp [hk]
  · obtain ⟨handles, hlists⟩ := hj.size
    exact ⟨_, hlists.answer_release h⟩

/-- **EVERY CALL IS WRITTEN DOWN RIGHTLY**, as long as there are no more handles than numbers. -/
theorem next (hj : j.Sound) (call : Call α)
    (hcount : (j.next call).issued.length ≤ UInt32.size) : (j.next call).Sound := by
  cases call with
  | allocate v => exact hj.allocate hcount v
  | release h => exact hj.release h

end Sound

/-! ## §6. Every run. -/

/-- A handle is given out for each call that asks for one. -/
theorem length_issued_next (j : Journal α) (call : Call α) :
    (j.next call).issued.length = j.issued.length + [call].countP Call.isAllocate := by
  cases call with
  | allocate v => rfl
  | release h =>
    have hpast : (j.next (.release h)).past = .released h (j.arena.resolve h) :: j.past :=
      congrArg (· :: j.past) (j.arena.answer_release h).1
    unfold issued
    rw [hpast]
    rfl

/-- **Every run is written down rightly**, as long as it asks for no more handles than there are
numbers. -/
theorem Sound.run (calls : List (Call α)) : ∀ j : Journal α, j.Sound →
    j.issued.length + calls.countP Call.isAllocate ≤ UInt32.size → (calls.foldl Journal.next j).Sound := by
  induction calls with
  | nil =>
    intro j hj _
    exact hj
  | cons call calls ih =>
    intro j hj hcount
    have hlength := j.length_issued_next call
    have hsplit : (call :: calls).countP Call.isAllocate
        = [call].countP Call.isAllocate + calls.countP Call.isAllocate := by
      rw [← List.countP_append, List.singleton_append]
    exact ih (j.next call) (hj.next call (by omega)) (by omega)

/-- **AN ARENA IS A MAP WHOSE KEYS ARE NEVER USED AGAIN**: after any calls that ask for no more
handles than there are numbers, whatever handles are given up in between, no handle was given out
twice; a handle stands for a value exactly if it was given out for the value and not given up
since; giving it up gives that value, and changes nothing if there is none; and the handles that
stand for values are as many as the arena says. -/
theorem refines_fresh_keys (calls : List (Call α))
    (hcount : calls.countP Call.isAllocate ≤ UInt32.size) :
    (after calls).issued.Nodup ∧
      (∀ h v, (after calls).arena.resolve h = some v ↔ StandsIn (after calls).past h v) ∧
      (∀ h, ((after calls).arena.answer (.release h)).1
          = .released h ((after calls).arena.resolve h) ∧
        ((after calls).arena.resolve h = none →
          ((after calls).arena.answer (.release h)).2 = (after calls).arena)) ∧
      ∃ handles, (after calls).arena.Lists handles := by
  have hsound : (after calls).Sound :=
    Sound.run calls start sound_start (by
      show 0 + _ ≤ _
      omega)
  exact ⟨hsound.nodup, hsound.stands, fun h => (after calls).arena.answer_release h, hsound.size⟩

/-- A place is given out, freed and given out again; the old handle and one that was never given
out are given up besides. -/
def recycling : List (Call Nat) :=
  [.allocate 7, .release ⟨0, 0⟩, .allocate 8, .release ⟨0, 0⟩, .release ⟨3, 1⟩]

/-- The place is the same, but the handles are two, and only the second one stands for a value. -/
theorem refines_fresh_keys_recycling :
    recycling.countP Call.isAllocate ≤ UInt32.size ∧
      (after recycling).issued = [⟨0, 1⟩, ⟨0, 0⟩] ∧ (after recycling).issued.Nodup ∧
      StandsIn (after recycling).past ⟨0, 1⟩ 8 ∧ ¬StandsIn (after recycling).past ⟨0, 0⟩ 7 ∧
      ((after recycling).arena.answer (.release ⟨0, 1⟩)).1 = .released ⟨0, 1⟩ (some 8) ∧
      ((after recycling).arena.answer (.release ⟨0, 0⟩)).2 = (after recycling).arena := by
  have hcount : recycling.countP Call.isAllocate ≤ UInt32.size := by decide
  have hnew : (after recycling).arena.resolve ⟨0, 1⟩ = some 8 := by decide
  have hold : (after recycling).arena.resolve ⟨0, 0⟩ = none := by decide
  obtain ⟨hnodup, hstands, hrelease, -⟩ := refines_fresh_keys recycling hcount
  refine ⟨hcount, by decide, hnodup, (hstands _ _).1 hnew, ?_, ?_, (hrelease _).2 hold⟩
  · rw [← hstands, hold]
    intro hsome
    cases hsome
  · rw [(hrelease _).1, hnew]

end Journal

end Lineup.Arena
