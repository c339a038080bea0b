/-
  Lineup.Proofs.AddressMap.Ownership
  ──────────────────────────────────
  **CHAINS DO NOT SHOW.**  What an address map answers is what a finite partial function from
  pairs to handles answers (`Ownership`): there a list of pairs is looked through for the first
  one that cannot be claimed, and either all of them are added or nothing happens.  The map has
  no such look ahead.  It claims pair by pair and takes back what it has claimed, and to take a
  pair out it moves the last claim of a chain.

  One case for each call shows that a map keeps showing its partial function (`Sound.answer_shows`),
  and a run of calls is an induction over them (`transcript_congr`).  The partial function has no
  chains, so their number is of no account.

  Main results:
    * `insertAll_fst_eq` — a list is refused for the pair that is found by looking ahead;
    * `Shows.insert`, `Shows.erase` — one pair more, one pair less;
    * `run_shows_ownership` — the answers of every run, and what is seen of the map it leaves.
-/
import Lineup.Proofs.AddressMap
import Mathlib.Data.Finmap

namespace Lineup

/-! ## §1. Runs of calls. -/

section Transcript

variable {σ τ κ ο : Type}

/-- What a machine answers to calls, one after the other, and the state it is left in. -/
def transcript (answer : σ → κ → ο × σ) : σ → List κ → List ο × σ
  | s, [] => ([], s)
  | s, call :: calls =>
    let (x, s) := answer s call
    let (xs, s) := transcript answer s calls
    (x :: xs, s)

/-- **Two machines that agree call by call agree on every run**: they give the same answers and
stay related. -/
theorem transcript_congr {f : σ → κ → ο × σ} {g : τ → κ → ο × τ} {R : σ → τ → Prop}
    (hstep : ∀ s t call, R s t → (f s call).1 = (g t call).1 ∧ R (f s call).2 (g t call).2)
    (calls : List κ) : ∀ (s : σ) (t : τ), R s t →
      (transcript f s calls).1 = (transcript g t calls).1 ∧
        R (transcript f s calls).2 (transcript g t calls).2 := by
  induction calls with
  | nil =>
    intro s t h
    exact ⟨rfl, h⟩
  | cons call calls ih =>
    intro s t h
    obtain ⟨hanswer, hnext⟩ := hstep s t call h
    obtain ⟨hanswers, hlast⟩ := ih _ _ hnext
    show (f s call).1 :: (transcript f (f s call).2 calls).1
      = (g t call).1 :: (transcript g (g t call).2 calls).1 ∧ _
    rw [hanswer, hanswers]
    exact ⟨rfl, hlast⟩

end Transcript

/-! ## §2. Who owns which pair. -/

/-- Who claims which pair, and nothing else. -/
abbrev Ownership := Finmap fun _ : Ipv4 × UInt16 => Handle

/-- What can be asked of a map. -/
inductive AddressMap.Call where
  /-- Claiming a pair. -/
  | insert (addr : Ipv4) (port : UInt16) (h : Handle)
  /-- Claiming all pairs of a list or none. -/
  | insertAll (keys : List (Ipv4 × UInt16)) (h : Handle)
  /-- Giving a pair up. -/
  | erase (addr : Ipv4) (port : UInt16)
  /-- Giving all pairs of a list up. -/
  | eraseAll (keys : List (Ipv4 × UInt16))
  /-- Giving up all there is. -/
  | clear
  deriving DecidableEq, Repr

namespace Ownership

open AddressMap

/-- Why a list of pairs is refused, if it is: for the first pair whose port is 0, or that is
claimed already, or that stood in the list before. -/
def refusal? (o : Ownership) (before : List (Ipv4 × UInt16)) :
    List (Ipv4 × UInt16) → Option MapError
  | [] => none
  | key :: keys =>
    if key.2 = 0 then some (.zeroPort key.1)
    else if key ∈ o ∨ key ∈ before then some (.duplicate key.1 key.2)
    else o.refusal? (key :: before) keys

/-- Somebody who claims all pairs of a list as well. -/
def give (o : Ownership) (h : Handle) (keys : List (Ipv4 × UInt16)) : Ownership :=
  keys.foldl (fun o key => o.insert key h) o

/-- All pairs but those of a list. -/
def take (o : Ownership) (keys : List (Ipv4 × UInt16)) : Ownership :=
  keys.foldl (fun o key => o.erase key) o

/-- Claims all pairs of a list, unless one of them is refused. -/
def claim (o : Ownership) (keys : List (Ipv4 × UInt16)) (h : Handle) :
    Except MapError Unit × Ownership :=
  match o.refusal? [] keys with
  | some e => (.error e, o)
  | none => (.ok (), o.give h keys)

/-- Whether a call succeeds, or why not, and who owns which pair after it. -/
def answer (o : Ownership) : Call → Except MapError Unit × Ownership
  | .insert addr port h => o.claim [(addr, port)] h
  | .insertAll keys h => o.claim keys h
  | .erase addr port => (.ok (), o.take [(addr, port)])
  | .eraseAll keys => (.ok (), o.take keys)
  | .clear => (.ok (), ∅)

end Ownership

namespace AddressMap

variable {m m' : AddressMap} {o : Ownership} {addr : Ipv4} {port : UInt16} {h : Handle}

/-- Whether a call succeeds, or why not, and the map after it. -/
def answer (m : AddressMap) : Call → Except MapError Unit × AddressMap
  | .insert addr port h =>
    match m.insert addr port h with
    | .ok m' => (.ok (), m')
    | .error e => (.error e, m)
  | .insertAll keys h => m.insertAll keys h
  | .erase addr port => (.ok (), m.erase addr port)
  | .eraseAll keys => (.ok (), m.eraseAll keys)
  | .clear => (.ok (), m.clear)

/-- What is seen of a map is who owns which pair. -/
structure Shows (m : AddressMap) (o : Ownership) : Prop where
  /-- Every pair leads to its owner. -/
  lookup : ∀ addr port, m.lookup addr port = o.lookup (addr, port)
  /-- The pairs that have one are claimed. -/
  contains : ∀ addr port, m.contains addr port = true ↔ (addr, port) ∈ o
  /-- They are counted. -/
  size : m.size = o.keys.card

/-- Looking pairs up and counting them shows all. -/
theorem shows_of_lookup (hlookup : ∀ addr port, m.lookup addr port = o.lookup (addr, port))
    (hsize : m.size = o.keys.card) : m.Shows o where
  lookup := hlookup
  contains := by
    intro addr port
    show (m.lookup addr port).isSome = true ↔ _
    rw [hlookup, Finmap.lookup_isSome]
  size := hsize

theorem Shows.lookup_eq_none_iff (hm : m.Shows o) {key : Ipv4 × UInt16} :
    m.lookup key.1 key.2 = none ↔ key ∉ o := by
  rw [hm.lookup]
  exact Finmap.lookup_eq_none

theorem shows_empty (n : Nat) : (empty n).Shows ∅ := by
  apply shows_of_lookup
  · intro addr port
    rw [lookup_empty, Finmap.lookup_empty]
  · rfl

theorem shows_clear (m : AddressMap) : m.clear.Shows ∅ := by
  apply shows_of_lookup
  · intro addr port
    rw [lookup_clear, Finmap.lookup_empty]
  · rfl

/-! ## §3. One pair. -/

theorem size_insert (hok : m.insert addr port h = .ok m') : m'.size = m.size + 1 := by
  obtain ⟨-, -, rfl⟩ := insert_eq_ok_iff.1 hok
  rfl

/-- **A pair that is claimed has an owner more.** -/
theorem Shows.insert (hm : m.Shows o) (hok : m.insert addr port h = .ok m') :
    m'.Shows (Finmap.insert (addr, port) h o) := by
  have hnone := (exists_insert_iff.1 ⟨m', hok⟩).2
  have hnew : (addr, port) ∉ o := hm.lookup_eq_none_iff.1 hnone
  apply shows_of_lookup
  · intro b q
    rw [lookup_insert hok]
    by_cases hkey : (b, q) = (addr, port)
    · rw [if_pos hkey, hkey, Finmap.lookup_insert]
    · rw [if_neg hkey, Finmap.lookup_insert_of_ne _ hkey, hm.lookup]
  · have hkeys : (Finmap.insert (addr, port) h o).keys = Insert.insert (addr, port) o.keys := by
      ext key
      simp [Finmap.mem_keys]
    rw [size_insert hok, hm.size, hkeys, Finset.card_insert_of_notMem]
    rwa [Finmap.mem_keys]

/-- Giving up a pair that nobody claims does nothing. -/
theorem erase_of_lookup_eq_none (hnone : m.lookup addr port = none) : m.erase addr port = m := by
  have hfind : (m.chain addr).findIdx? (·.isFor addr port) = none :=
    List.findIdx?_eq_none_iff.2 (lookup_eq_none_iff.1 hnone)
  unfold erase
  rw [hfind]

/-- Giving up a pair that somebody claims leaves one less. -/
theorem size_erase (hsome : m.lookup addr port ≠ none) :
    (m.erase addr port).size = m.size - 1 := by
  unfold erase
  split
  · rfl
  · next hfind =>
    -- no claim for the pair means that nobody claims it
    exact absurd (lookup_eq_none_iff.2 (List.findIdx?_eq_none_iff.1 hfind)) hsome

/-- **A pair that is given up has no owner.** -/
theorem Shows.erase (hs : m.Sound) (hm : m.Shows o) (addr : Ipv4) (port : UInt16) :
    (m.erase addr port).Shows (Finmap.erase (addr, port) o) := by
  apply shows_of_lookup
  · intro b q
    rw [hs.lookup_erase]
    by_cases hkey : (b, q) = (addr, port)
    · rw [if_pos hkey, hkey, Finmap.lookup_erase]
    · rw [if_neg hkey, Finmap.lookup_erase_ne hkey, hm.lookup]
  · rw [Finmap.keys_erase]
    by_cases howned : (addr, port) ∈ o
    · have hsome : m.lookup addr port ≠ none := fun hnone => hm.lookup_eq_none_iff.1 hnone howned
      rw [size_erase hsome, hm.size, Finset.card_erase_of_mem (Finmap.mem_keys.2 howned)]
    · rw [erase_of_lookup_eq_none (hm.lookup_eq_none_iff.2 howned), hm.size,
        Finset.erase_eq_of_notMem]
      rwa [Finmap.mem_keys]

/-! ## §4. A list of pairs. -/

/-- While a list is being claimed, what is claimed are the old pairs and those of the list that
had their turn. -/
theorem insertFrom_fst_eq (h : Handle) (keys : List (Ipv4 × UInt16)) :
    ∀ (m : AddressMap) (before done : List (Ipv4 × UInt16)),
      (∀ key : Ipv4 × UInt16, m.lookup key.1 key.2 = none ↔ key ∉ o ∧ key ∉ before) →
      (insertFrom h done m keys).1 = match o.refusal? before keys with
        | some e => .error e
        | none => .ok () := by
  induction keys with
  | nil =>
    intro m before done _
    rfl
  | cons key keys ih =>
    intro m before done hclaimed
    unfold insertFrom Ownership.refusal?
    cases hi : m.insert key.1 key.2 h with
    | error e =>
      -- the two causes are asked for in the same order
      rcases insert_eq_error hi with ⟨hport, rfl⟩ | ⟨hport, hsome, rfl⟩
      · rw [if_pos hport]
      · have howned : key ∈ o ∨ key ∈ before := by
          by_contra hno
          exact hsome ((hclaimed key).2 (not_or.1 hno))
        rw [if_neg hport, if_pos howned]
    | ok m₁ =>
      obtain ⟨hport, hnone⟩ := exists_insert_iff.1 ⟨m₁, hi⟩
      rw [if_neg hport, if_neg (not_or.2 ((hclaimed key).1 hnone))]
      -- the pair counts as one that had its turn
      apply ih
      intro other
      rw [lookup_insert hi, List.mem_cons, not_or]
      by_cases hother : other = key
      · simp [hother]
      · have hpair : (other.1, other.2) ≠ (key.1, key.2) := hother
        rw [if_neg hpair, hclaimed other]
        exact ⟨fun hfree => ⟨hfree.1, hother, hfree.2⟩, fun hfree => ⟨hfree.1, hfree.2.2⟩⟩

/-- **A list is refused for the pair that is found by looking ahead**, or it is claimed. -/
theorem Shows.insertAll_fst_eq (hm : m.Shows o) (keys : List (Ipv4 × UInt16)) (h : Handle) :
    (m.insertAll keys h).1 = (o.claim keys h).1 := by
  have hlook := insertFrom_fst_eq (o := o) h keys m [] [] fun key => by
    rw [hm.lookup_eq_none_iff]
    simp
  show (insertFrom h [] m keys).1 = _
  rw [hlook]
  unfold Ownership.claim
  cases o.refusal? [] keys with
  | none => rfl
  | some e => rfl

/-- A list that is claimed is given to its owner pair by pair. -/
theorem insertFrom_shows (h : Handle) (keys : List (Ipv4 × UInt16)) :
    ∀ (m : AddressMap) (o : Ownership) (done : List (Ipv4 × UInt16)), m.Shows o →
      insertFrom h done m keys = (.ok (), m') → m'.Shows (o.give h keys) := by
  induction keys with
  | nil =>
    intro m o done hm hok
    cases hok
    exact hm
  | cons key keys ih =>
    intro m o done hm hok
    unfold insertFrom at hok
    cases hi : m.insert key.1 key.2 h with
    | error e =>
      rw [hi] at hok
      cases hok
    | ok m₁ =>
      rw [hi] at hok
      exact ih m₁ _ _ (hm.insert hi) hok

/-- **All pairs of a list are claimed or none**, and which of both is known by looking ahead. -/
theorem Shows.insertAll (hm : m.Shows o) (keys : List (Ipv4 × UInt16)) (h : Handle) :
    (m.insertAll keys h).2.Shows (o.claim keys h).2 := by
  have hfst := hm.insertAll_fst_eq keys h
  unfold Ownership.claim at hfst ⊢
  rcases insertAll_outcome m keys h with ⟨e, he⟩ | ⟨m', hok, -, -⟩
  · -- what was claimed before the refusal was given up again
    rw [he] at hfst ⊢
    cases hr : o.refusal? [] keys with
    | none =>
      rw [hr] at hfst
      cases hfst
    | some e' => exact hm
  · rw [hok] at hfst ⊢
    cases hr : o.refusal? [] keys with
    | none => exact insertFrom_shows h keys m o [] hm hok
    | some e =>
      rw [hr] at hfst
      cases hfst

theorem Shows.eraseAll (keys : List (Ipv4 × UInt16)) :
    ∀ (m : AddressMap) (o : Ownership), m.Sound → m.Shows o →
      (m.eraseAll keys).Shows (o.take keys) := by
  induction keys with
  | nil =>
    intro m o _ hm
    exact hm
  | cons key keys ih =>
    intro m o hs hm
    exact ih _ _ (hs.erase key.1 key.2) (hm.erase hs key.1 key.2)

/-! ## §5. Calls. -/

/-- One pair is claimed as a list of one is. -/
theorem answer_insert (m : AddressMap) (addr : Ipv4) (port : UInt16) (h : Handle) :
    m.answer (.insert addr port h) = m.insertAll [(addr, port)] h := by
  show (match m.insert addr port h with
    | .ok m' => (.ok (), m')
    | .error e => (.error e, m)) = insertFrom h [] m [(addr, port)]
  unfold insertFrom
  cases m.insert addr port h with
  | ok m' => rfl
  | error e => rfl

/-- A list leaves chains without a pair twice, whatever becomes of it. -/
theorem Sound.insertAll_snd (hs : m.Sound) (keys : List (Ipv4 × UInt16)) (h : Handle) :
    (m.insertAll keys h).2.Sound := by
  rcases insertAll_outcome m keys h with ⟨e, he⟩ | ⟨m', hok, -, -⟩
  · rw [he]
    exact hs
  · rw [hok]
    exact hs.insertAll hok

/-- **EVERY CALL IS ANSWERED AS BY THE OWNERSHIP THAT A MAP SHOWS**, and leaves a map that shows
the next one. -/
theorem Sound.answer_shows (hs : m.Sound) (hm : m.Shows o) (call : Call) :
    (m.answer call).1 = (o.answer call).1 ∧
      (m.answer call).2.Sound ∧ (m.answer call).2.Shows (o.answer call).2 := by
  cases call with
  | insert addr port h =>
    rw [answer_insert]
    exact ⟨hm.insertAll_fst_eq _ h, hs.insertAll_snd _ h, hm.insertAll _ h⟩
  | insertAll keys h =>
    exact ⟨hm.insertAll_fst_eq keys h, hs.insertAll_snd keys h, hm.insertAll keys h⟩
  | erase addr port => exact ⟨rfl, hs.erase addr port, hm.erase hs addr port⟩
  | eraseAll keys => exact ⟨rfl, hs.eraseAll keys, Shows.eraseAll keys m o hs hm⟩
  | clear => exact ⟨rfl, sound_clear m, shows_clear m⟩

/-! ## §6. Every run. -/

/-- What a map answers to calls, one after the other, and the map that they leave. -/
def run (m : AddressMap) (calls : List Call) : List (Except MapError Unit) × AddressMap :=
  transcript answer m calls

/-- The answers to calls if nobody owns a pair before them, and who owns which pair then. -/
def owners (calls : List Call) : List (Except MapError Unit) × Ownership :=
  transcript Ownership.answer ∅ calls

theorem run_eq_owners (buckets : Nat) (calls : List Call) :
    ((empty buckets).run calls).1 = (owners calls).1 ∧
      ((empty buckets).run calls).2.Shows (owners calls).2 := by
  obtain ⟨hanswers, -, hshows⟩ := transcript_congr (R := fun m o => m.Sound ∧ m.Shows o)
    (fun m o call hm => hm.1.answer_shows hm.2 call) calls (empty buckets) ∅
    ⟨sound_empty buckets, shows_empty buckets⟩
  exact ⟨hanswers, hshows⟩

/-- **A MAP IS A FINITE PARTIAL FUNCTION, WHATEVER THE NUMBER OF ITS CHAINS**: after any calls it
has answered as the ownership of pairs does, a pair leads to its owner, and the pairs that have
one are the claimed ones and are counted. So nothing but the number of chains tells two maps
apart that were asked for the same. -/
theorem run_shows_ownership (buckets : Nat) (calls : List Call) :
    ((empty buckets).run calls).1 = (owners calls).1 ∧
      ((empty buckets).run calls).2.Shows (owners calls).2 ∧
      ∀ buckets', ((empty buckets').run calls).1 = ((empty buckets).run calls).1 ∧
        (∀ addr port,
          ((empty buckets').run calls).2.lookup addr port
              = ((empty buckets).run calls).2.lookup addr port ∧
            ((empty buckets').run calls).2.contains addr port
              = ((empty buckets).run calls).2.contains addr port) ∧
        ((empty buckets').run calls).2.size = ((empty buckets).run calls).2.size := by
  obtain ⟨hanswers, hshows⟩ := run_eq_owners buckets calls
  refine ⟨hanswers, hshows, ?_⟩
  intro buckets'
  obtain ⟨hanswers', hshows'⟩ := run_eq_owners buckets' calls
  refine ⟨hanswers'.trans hanswers.symm, ?_, hshows'.size.trans hshows.size.symm⟩
  intro addr port
  refine ⟨(hshows'.lookup addr port).trans (hshows.lookup addr port).symm, ?_⟩
  rw [Bool.eq_iff_iff]
  exact (hshows'.contains addr port).trans (hshows.contains addr port).symm

end AddressMap

end Lineup
