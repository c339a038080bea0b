/-
  Lineup.Proofs.AddressMap
  ────────────────────────
  **AN ADDRESS MAP IS A PARTIAL FUNCTION FROM PAIRS TO HANDLES.**  Seen through
  `lookup`, a claim adds one pair and giving a pair up removes one, whichever
  chains the pairs fall into.

  Main results:
    * `insertAll_succeeds_iff` — a list of pairs can be claimed exactly if none
      of them has port 0, none stands twice and none is claimed;
    * `lookup_insertAll`, `lookup_eraseAll` — what the pairs lead to afterwards;
    * `insertAll_outcome` — a refused list leaves the very same map, chain by
      chain, although giving a pair up moves the last claim of its chain; giving
      up a list just claimed does so as well.
-/
import Lineup.Registry.AddressMap
import Mathlib.Data.List.Perm.Basic
import Mathlib.Data.List.Nodup

namespace Lineup

/-! ## §1. Chains. -/

/-- The pair of a claim. -/
def Claim.pair (c : Claim) : Ipv4 × UInt16 := (c.addr, c.port)

theorem Claim.isFor_iff {c : Claim} {addr : Ipv4} {port : UInt16} :
    c.isFor addr port = true ↔ c.pair = (addr, port) := by
  simp [isFor, pair]

theorem swapRemove_append {l t : List α} {i : Nat} (hi : i < t.length) :
    swapRemove (l ++ t) (l.length + i) = l ++ swapRemove t i := by
  have ht : t ≠ [] := List.ne_nil_of_length_pos (by omega)
  have hlast : (l ++ t).getLast? = t.getLast? := by
    rw [List.getLast?_append, List.getLast?_eq_some_getLast ht]
    rfl
  unfold swapRemove
  rw [hlast, List.getLast?_eq_some_getLast ht]
  show ((l ++ t).set (l.length + i) (t.getLast ht)).dropLast
    = l ++ (t.set i (t.getLast ht)).dropLast
  rw [List.set_append_right _ _ (by omega), Nat.add_sub_cancel_left,
    List.dropLast_append_of_ne_nil (by simpa using ht)]

/-- Taking an item out by moving the last one to its place leaves the other
items, in some order. -/
theorem swapRemove_perm {l : List α} {i : Nat} (hi : i < l.length) :
    (swapRemove l i).Perm (l.eraseIdx i) := by
  rcases List.eq_nil_or_concat l with rfl | ⟨init, last, rfl⟩
  · simp at hi
  · rw [List.concat_eq_append] at hi ⊢
    simp only [swapRemove, List.getLast?_append, List.getLast?_singleton, Option.some_or]
    rcases Nat.lt_or_ge i init.length with hlt | hge
    · rw [List.set_append_left _ _ hlt, List.dropLast_concat,
        List.eraseIdx_append_of_lt_length hlt]
      exact (List.set_perm_cons_eraseIdx hlt last).trans
        (List.perm_append_singleton last _).symm
    · have hlen : i = init.length := by simp at hi; omega
      subst hlen
      rw [List.set_append_right _ _ (Nat.le_refl _),
        List.eraseIdx_append_of_length_le (Nat.le_refl _)]
      simp

namespace AddressMap

/-- A chain without the claim for a pair. -/
def without (chain : List Claim) (addr : Ipv4) (port : UInt16) : List Claim :=
  match chain.findIdx? (·.isFor addr port) with
  | some i => swapRemove chain i
  | none => chain

theorem without_perm (chain : List Claim) (addr : Ipv4) (port : UInt16) :
    (without chain addr port).Perm (chain.eraseP (·.isFor addr port)) := by
  unfold without
  rw [List.eraseP_eq_eraseIdx]
  cases hi : chain.findIdx? (·.isFor addr port) with
  | none => exact List.Perm.refl _
  | some i => exact swapRemove_perm (List.findIdx?_eq_some_iff_getElem.1 hi).1

/-- A pair is looked for behind the claims that are for other pairs. -/
theorem without_append {l t : List Claim} {addr : Ipv4} {port : UInt16}
    (hl : ∀ c ∈ l, c.isFor addr port = false) :
    without (l ++ t) addr port = l ++ without t addr port := by
  have hnone : l.findIdx? (·.isFor addr port) = none := List.findIdx?_eq_none_iff.2 hl
  unfold without
  rw [List.findIdx?_append, hnone, Option.none_or]
  cases hi : t.findIdx? (·.isFor addr port) with
  | none => rfl
  | some i =>
    have hlt := (List.findIdx?_eq_some_iff_getElem.1 hi).1
    show swapRemove (l ++ t) (i + l.length) = l ++ swapRemove t i
    rw [Nat.add_comm, swapRemove_append hlt]

/-! ## §2. Maps as families of chains. -/

/-- The claims in the chain of a number. -/
def bucket (m : AddressMap) (i : Nat) : List Claim := m.buckets[i]?.getD []

theorem chain_eq_bucket (m : AddressMap) (addr : Ipv4) :
    m.chain addr = m.bucket (m.bucketOf addr) := by
  simp [chain, bucket, m.bucketOf_lt addr]

theorem ext_bucket {m n : AddressMap} (hcount : m.bucketCount = n.bucketCount)
    (hsize : m.size = n.size) (h : ∀ i, m.bucket i = n.bucket i) : m = n := by
  obtain ⟨bs, s, hs⟩ := m
  obtain ⟨cs, t, ht⟩ := n
  obtain rfl : s = t := hsize
  -- a chain that is not there counts as empty, so the numbers of chains must agree
  have hbs : bs = cs := by
    apply Array.ext hcount
    intro i hi hi'
    simpa [bucket, hi, hi'] using h i
  subst hbs
  rfl

@[simp] theorem bucketCount_withChain (m : AddressMap) (addr : Ipv4) (chain : List Claim)
    (size : Nat) : (m.withChain addr chain size).bucketCount = m.bucketCount := by
  simp [withChain, bucketCount]

@[simp] theorem bucketOf_withChain (m : AddressMap) (addr b : Ipv4) (chain : List Claim)
    (size : Nat) : (m.withChain addr chain size).bucketOf b = m.bucketOf b := by
  simp [bucketOf]

theorem bucket_withChain (m : AddressMap) (addr : Ipv4) (chain : List Claim) (size i : Nat) :
    (m.withChain addr chain size).bucket i = if i = m.bucketOf addr then chain else m.bucket i := by
  by_cases hi : i = m.bucketOf addr
  · subst hi
    simp [bucket, withChain, m.bucketOf_lt addr]
  · simp [bucket, withChain, hi, Ne.symm hi]

theorem chain_withChain (m : AddressMap) (addr b : Ipv4) (chain : List Claim) (size : Nat) :
    (m.withChain addr chain size).chain b
      = if m.bucketOf b = m.bucketOf addr then chain else m.chain b := by
  rw [chain_eq_bucket, bucketOf_withChain, bucket_withChain, ← chain_eq_bucket]

/-! ## §3. Looking pairs up. -/

theorem lookup_eq_none_iff {m : AddressMap} {addr : Ipv4} {port : UInt16} :
    m.lookup addr port = none ↔ ∀ c ∈ m.chain addr, c.isFor addr port = false := by
  simp [lookup, List.find?_eq_none]

/-- No pair stands twice in a chain. -/
def Sound (m : AddressMap) : Prop := ∀ addr, ((m.chain addr).map Claim.pair).Nodup

theorem Sound.lookup_eq_some_iff {m : AddressMap} (hm : m.Sound) {addr : Ipv4} {port : UInt16}
    {h : Handle} : m.lookup addr port = some h ↔ ⟨addr, port, h⟩ ∈ m.chain addr := by
  unfold lookup
  rw [Option.map_eq_some_iff]
  constructor
  · rintro ⟨c, hc, rfl⟩
    have hfor : c.isFor addr port = true := by simpa using List.find?_some hc
    obtain ⟨rfl, rfl⟩ := Prod.mk.inj (Claim.isFor_iff.1 hfor)
    exact List.mem_of_find?_eq_some hc
  · intro hmem
    -- some claim for the pair is found, and no other claim is for it
    have hsome : ((m.chain addr).find? (·.isFor addr port)).isSome := by
      rw [List.find?_isSome]
      exact ⟨_, hmem, by simp [Claim.isFor]⟩
    obtain ⟨c, hc⟩ := Option.isSome_iff_exists.1 hsome
    have hfor : c.isFor addr port = true := by simpa using List.find?_some hc
    have heq := List.inj_on_of_nodup_map (hm addr) (List.mem_of_find?_eq_some hc) hmem
      (Claim.isFor_iff.1 hfor)
    exact ⟨c, hc, by rw [heq]⟩

@[simp] theorem chain_empty (n : Nat) (addr : Ipv4) : (empty n).chain addr = [] := by
  simp [chain, empty]

@[simp] theorem lookup_empty (n : Nat) (addr : Ipv4) (port : UInt16) :
    (empty n).lookup addr port = none := by
  simp [lookup]

theorem sound_empty (n : Nat) : (empty n).Sound := by
  intro addr
  simp

@[simp] theorem bucketCount_clear (m : AddressMap) : m.clear.bucketCount = m.bucketCount := by
  simp [clear, bucketCount]

@[simp] theorem chain_clear (m : AddressMap) (addr : Ipv4) : m.clear.chain addr = [] := by
  simp [chain, clear]

@[simp] theorem lookup_clear (m : AddressMap) (addr : Ipv4) (port : UInt16) :
    m.clear.lookup addr port = none := by
  simp [lookup]

theorem sound_clear (m : AddressMap) : m.clear.Sound := by
  intro addr
  simp

/-! ## §4. One pair. -/

section Insert

variable {m m' : AddressMap} {addr : Ipv4} {port : UInt16} {h : Handle}

/-- A pair can be claimed exactly if its port is not 0 and nobody claims it. -/
theorem insert_eq_ok_iff : m.insert addr port h = .ok m' ↔
    port ≠ 0 ∧ m.lookup addr port = none ∧
      m' = m.withChain addr (m.chain addr ++ [⟨addr, port, h⟩]) (m.size + 1) := by
  unfold insert
  by_cases hport : port = 0
  · simp [hport]
  · by_cases hany : (m.chain addr).any (·.isFor addr port) = true
    · -- the claim that is in the way is the one that is found
      have hlook : m.lookup addr port ≠ none := by
        rw [ne_eq, lookup_eq_none_iff]
        intro hnone
        obtain ⟨c, hc, hfor⟩ := List.any_eq_true.1 hany
        rw [hnone c hc] at hfor
        cases hfor
      simp [hport, hany, hlook]
    · have hlook : m.lookup addr port = none :=
        lookup_eq_none_iff.2 fun c hc => by
          by_contra hfor
          exact hany (List.any_eq_true.2 ⟨c, hc, by simpa using hfor⟩)
      rw [if_neg hport, if_neg hany]
      simp [hport, hlook, eq_comm]

theorem exists_insert_iff :
    (∃ m', m.insert addr port h = .ok m') ↔ port ≠ 0 ∧ m.lookup addr port = none := by
  constructor
  · rintro ⟨m', hok⟩
    obtain ⟨hport, hlook, -⟩ := insert_eq_ok_iff.1 hok
    exact ⟨hport, hlook⟩
  · rintro ⟨hport, hlook⟩
    exact ⟨_, insert_eq_ok_iff.2 ⟨hport, hlook, rfl⟩⟩

/-- Why a pair cannot be claimed. -/
theorem insert_eq_error {e : MapError} (he : m.insert addr port h = .error e) :
    port = 0 ∧ e = .zeroPort addr ∨
      port ≠ 0 ∧ m.lookup addr port ≠ none ∧ e = .duplicate addr port := by
  by_cases hport : port = 0
  · rw [insert, if_pos hport] at he
    exact Or.inl ⟨hport, (Except.error.inj he).symm⟩
  · have hlook : m.lookup addr port ≠ none := by
      intro hnone
      obtain ⟨m', hok⟩ := exists_insert_iff.2 ⟨hport, hnone⟩
      rw [he] at hok
      cases hok
    rw [insert, if_neg hport] at he
    split at he
    · exact Or.inr ⟨hport, hlook, (Except.error.inj he).symm⟩
    · cases he

theorem lookup_insert (hok : m.insert addr port h = .ok m') (b : Ipv4) (q : UInt16) :
    m'.lookup b q = if (b, q) = (addr, port) then some h else m.lookup b q := by
  obtain ⟨-, hnone, rfl⟩ := insert_eq_ok_iff.1 hok
  have hfind : (m.chain addr).find? (·.isFor addr port) = none := by
    simpa [lookup] using hnone
  by_cases hbq : (b, q) = (addr, port)
  · obtain ⟨rfl, rfl⟩ := Prod.mk.inj hbq
    have hself : (⟨b, q, h⟩ : Claim).isFor b q = true := by simp [Claim.isFor]
    simp [lookup, chain_withChain, List.find?_append, hfind, hself]
  · rw [if_neg hbq]
    unfold lookup
    rw [chain_withChain]
    split
    · -- another pair of the same chain: the new claim stands behind all others
      next hsame =>
      have hnew : (⟨addr, port, h⟩ : Claim).isFor b q = false := by
        rw [← Bool.not_eq_true, Claim.isFor_iff]
        exact fun hpair => hbq hpair.symm
      rw [chain_eq_bucket m b, hsame, ← chain_eq_bucket, List.find?_append]
      simp [hnew]
    · rfl

theorem Sound.insert (hm : m.Sound) (hok : m.insert addr port h = .ok m') : m'.Sound := by
  obtain ⟨-, hnone, rfl⟩ := insert_eq_ok_iff.1 hok
  intro b
  rw [chain_withChain]
  split
  · -- the chain of the address has grown by a pair nobody claimed
    rw [List.map_append, List.nodup_append]
    refine ⟨hm addr, by simp, ?_⟩
    intro x hx y hy hxy
    obtain ⟨c, hc, rfl⟩ := List.mem_map.1 hx
    obtain rfl : y = (addr, port) := by simpa [Claim.pair] using hy
    have hfor := lookup_eq_none_iff.1 hnone c hc
    rw [Claim.isFor_iff.2 hxy] at hfor
    cases hfor
  · exact hm b

end Insert

/-- Giving a pair up takes its claim out of its chain. -/
theorem bucket_erase (m : AddressMap) (addr : Ipv4) (port : UInt16) (i : Nat) :
    (m.erase addr port).bucket i
      = if i = m.bucketOf addr then without (m.chain addr) addr port else m.bucket i := by
  unfold erase without
  cases hi : (m.chain addr).findIdx? (·.isFor addr port) with
  | none =>
    by_cases hb : i = m.bucketOf addr
    · simp [hb, chain_eq_bucket]
    · simp [hb]
  | some j => exact bucket_withChain m addr _ _ i

@[simp] theorem bucketCount_erase (m : AddressMap) (addr : Ipv4) (port : UInt16) :
    (m.erase addr port).bucketCount = m.bucketCount := by
  unfold erase
  split
  · exact bucketCount_withChain m addr _ _
  · rfl

@[simp] theorem bucketOf_erase (m : AddressMap) (addr b : Ipv4) (port : UInt16) :
    (m.erase addr port).bucketOf b = m.bucketOf b := by
  simp [bucketOf]

theorem chain_erase (m : AddressMap) (addr b : Ipv4) (port : UInt16) :
    (m.erase addr port).chain b
      = if m.bucketOf b = m.bucketOf addr then without (m.chain addr) addr port
        else m.chain b := by
  rw [chain_eq_bucket, bucketOf_erase, bucket_erase, ← chain_eq_bucket]

theorem Sound.erase {m : AddressMap} (hm : m.Sound) (addr : Ipv4) (port : UInt16) :
    (m.erase addr port).Sound := by
  intro b
  rw [chain_erase]
  split
  · have hperm := (without_perm (m.chain addr) addr port).map Claim.pair
    rw [hperm.nodup_iff]
    exact (hm addr).sublist (List.eraseP_sublist.map _)
  · exact hm b

/-- What is left of a chain are its claims for other pairs. -/
theorem mem_without {chain : List Claim} (hn : (chain.map Claim.pair).Nodup) {addr : Ipv4}
    {port : UInt16} {c : Claim} :
    c ∈ without chain addr port ↔ c ∈ chain ∧ c.pair ≠ (addr, port) := by
  rw [(without_perm chain addr port).mem_iff]
  induction chain with
  | nil => simp
  -- the first claim for the pair is the only one
  | cons d chain ih =>
    obtain ⟨hd, hn'⟩ := List.nodup_cons.1 hn
    by_cases hfor : d.isFor addr port = true
    · have hpair := Claim.isFor_iff.1 hfor
      simp only [List.eraseP_cons, hfor, cond_true, List.mem_cons]
      constructor
      · intro hc
        refine ⟨Or.inr hc, fun h => hd ?_⟩
        exact (hpair.trans h.symm) ▸ List.mem_map_of_mem hc
      · rintro ⟨rfl | hc, hne⟩
        · exact absurd hpair hne
        · exact hc
    · have hpair : d.pair ≠ (addr, port) := fun h => hfor (Claim.isFor_iff.2 h)
      simp only [List.eraseP_cons, hfor, cond_false, List.mem_cons, ih hn']
      constructor
      · rintro (rfl | ⟨hc, hne⟩)
        · exact ⟨Or.inl rfl, hpair⟩
        · exact ⟨Or.inr hc, hne⟩
      · rintro ⟨rfl | hc, hne⟩
        · exact Or.inl rfl
        · exact Or.inr ⟨hc, hne⟩

theorem Sound.lookup_erase {m : AddressMap} (hm : m.Sound) (addr b : Ipv4) (port q : UInt16) :
    (m.erase addr port).lookup b q = if (b, q) = (addr, port) then none else m.lookup b q := by
  apply Option.ext
  intro h
  rw [(hm.erase addr port).lookup_eq_some_iff, chain_erase]
  by_cases hbq : (b, q) = (addr, port)
  · obtain ⟨rfl, rfl⟩ := Prod.mk.inj hbq
    simp [mem_without (hm _), Claim.pair]
  · rw [if_neg hbq, hm.lookup_eq_some_iff]
    split
    · -- another pair of the same chain keeps its claim
      next hsame =>
      rw [mem_without (hm _), chain_eq_bucket m b, hsame, ← chain_eq_bucket]
      simp only [Claim.pair, ne_eq, hbq, not_false_eq_true, and_true]
    · rfl

/-! ## §5. A list of pairs. -/

section InsertAll

variable {h : Handle}

theorem insertFrom_succeeds_iff (keys done : List (Ipv4 × UInt16)) (m : AddressMap) :
    (insertFrom h done m keys).1 = .ok () ↔
      keys.Nodup ∧ ∀ k ∈ keys, k.2 ≠ 0 ∧ m.lookup k.1 k.2 = none := by
  induction keys generalizing done m with
  | nil => simp [insertFrom]
  | cons key keys ih =>
    unfold insertFrom
    cases hi : m.insert key.1 key.2 h with
    | error e =>
      have hno : ¬(key.2 ≠ 0 ∧ m.lookup key.1 key.2 = none) := by
        rw [← exists_insert_iff (h := h)]
        rintro ⟨m', hok⟩
        rw [hi] at hok
        cases hok
      simp only [reduceCtorEq, false_iff]
      exact fun hall => hno (hall.2 key List.mem_cons_self)
    | ok m' =>
      have hyes : key.2 ≠ 0 ∧ m.lookup key.1 key.2 = none :=
        exists_insert_iff.1 ⟨m', hi⟩
      -- a later pair is free in the new map if it is free in the old one and another pair
      have hlook : ∀ k, m'.lookup k.1 k.2 = none ↔ k ≠ key ∧ m.lookup k.1 k.2 = none := by
        intro k
        rw [lookup_insert hi]
        by_cases hk : k = key
        · simp [hk]
        · simp [hk]
      simp only [ih, List.nodup_cons, List.mem_cons, forall_eq_or_imp, hlook]
      constructor
      · rintro ⟨hn, hall⟩
        exact ⟨⟨fun hmem => (hall key hmem).2.1 rfl, hn⟩, hyes,
          fun k hk => ⟨(hall k hk).1, (hall k hk).2.2⟩⟩
      · rintro ⟨⟨hnot, hn⟩, -, hall⟩
        exact ⟨hn, fun k hk =>
          ⟨(hall k hk).1, fun heq => hnot (heq ▸ hk), (hall k hk).2⟩⟩

/-- **A list of pairs can be claimed** exactly if no pair has port 0, none
stands twice, and none is claimed already. -/
theorem insertAll_succeeds_iff (m : AddressMap) (keys : List (Ipv4 × UInt16)) :
    (m.insertAll keys h).1 = .ok () ↔
      keys.Nodup ∧ ∀ k ∈ keys, k.2 ≠ 0 ∧ m.lookup k.1 k.2 = none :=
  insertFrom_succeeds_iff keys [] m

/-- A list that is refused is refused for the first pair that cannot be claimed: its port is
0, or it is claimed already, also by an earlier pair of the same list. -/
theorem insertFrom_eq_error {keys done : List (Ipv4 × UInt16)} {m m' : AddressMap} {e : MapError}
    (he : insertFrom h done m keys = (.error e, m')) :
    ∃ before key behind, keys = before ++ key :: behind ∧ before.Nodup ∧
      (∀ k ∈ before, k.2 ≠ 0 ∧ m.lookup k.1 k.2 = none) ∧
      (key.2 = 0 ∧ e = .zeroPort key.1 ∨
        key.2 ≠ 0 ∧ (key ∈ before ∨ m.lookup key.1 key.2 ≠ none) ∧ e = .duplicate key.1 key.2) := by
  induction keys generalizing done m with
  | nil => cases he
  | cons key keys ih =>
    unfold insertFrom at he
    cases hi : m.insert key.1 key.2 h with
    | error e' =>
      rw [hi] at he
      cases he
      exact ⟨[], key, keys, rfl, List.nodup_nil, by simp, by simpa using insert_eq_error hi⟩
    | ok m₁ =>
      rw [hi] at he
      obtain ⟨before, k, behind, rfl, hnodup, hfree, hcause⟩ := ih he
      obtain ⟨hport, hnone⟩ := exists_insert_iff.1 ⟨m₁, hi⟩
      -- what the first pair has claimed by then was free before
      have hlook : ∀ x : Ipv4 × UInt16,
          m₁.lookup x.1 x.2 = none ↔ x ≠ key ∧ m.lookup x.1 x.2 = none := by
        intro x
        rw [lookup_insert hi]
        by_cases hx : x = key
        · simp [hx]
        · simp [hx]
      simp only [hlook, ne_eq, not_and_or, not_not] at hfree hcause
      refine ⟨key :: before, k, behind, rfl, List.nodup_cons.2 ⟨fun hmem => ?_, hnodup⟩, ?_, ?_⟩
      · exact (hfree key hmem).2.1 rfl
      · rw [List.forall_mem_cons]
        exact ⟨⟨hport, hnone⟩, fun x hx => ⟨(hfree x hx).1, (hfree x hx).2.2⟩⟩
      · rw [List.mem_cons]
        rcases hcause with hzero | ⟨hport', hclaimed, he'⟩
        · exact Or.inl hzero
        · exact Or.inr ⟨hport', by tauto, he'⟩

theorem lookup_insertFrom (keys done : List (Ipv4 × UInt16)) {m m' : AddressMap}
    (hok : insertFrom h done m keys = (.ok (), m')) (b : Ipv4) (q : UInt16) :
    m'.lookup b q = if (b, q) ∈ keys then some h else m.lookup b q := by
  induction keys generalizing done m with
  | nil =>
    cases hok
    simp
  | cons key keys ih =>
    unfold insertFrom at hok
    cases hi : m.insert key.1 key.2 h with
    | error e => rw [hi] at hok; cases hok
    | ok m₁ =>
      rw [hi] at hok
      rw [ih _ hok, lookup_insert hi]
      obtain ⟨a, p⟩ := key
      by_cases hmem : (b, q) ∈ keys
      · simp [hmem]
      · simp [hmem]

/-- **Claimed pairs lead to their handle, and all others where they led.** -/
theorem lookup_insertAll {m m' : AddressMap} {keys : List (Ipv4 × UInt16)}
    (hok : m.insertAll keys h = (.ok (), m')) (b : Ipv4) (q : UInt16) :
    m'.lookup b q = if (b, q) ∈ keys then some h else m.lookup b q :=
  lookup_insertFrom keys [] hok b q

theorem Sound.insertFrom (keys done : List (Ipv4 × UInt16)) {m m' : AddressMap} (hm : m.Sound)
    (hok : insertFrom h done m keys = (.ok (), m')) : m'.Sound := by
  induction keys generalizing done m with
  | nil =>
    cases hok
    exact hm
  | cons key keys ih =>
    unfold AddressMap.insertFrom at hok
    cases hi : m.insert key.1 key.2 h with
    | error e => rw [hi] at hok; cases hok
    | ok m₁ =>
      rw [hi] at hok
      exact ih _ (hm.insert hi) hok

theorem Sound.insertAll {m m' : AddressMap} (hm : m.Sound) {keys : List (Ipv4 × UInt16)}
    (hok : m.insertAll keys h = (.ok (), m')) : m'.Sound :=
  Sound.insertFrom keys [] hm hok

theorem Sound.eraseAll {m : AddressMap} (hm : m.Sound) (keys : List (Ipv4 × UInt16)) :
    (m.eraseAll keys).Sound := by
  induction keys generalizing m with
  | nil => exact hm
  | cons key keys ih => exact ih (hm.erase key.1 key.2)

/-- **Pairs that were given up lead nowhere, and all others where they led.** -/
theorem Sound.lookup_eraseAll {m : AddressMap} (hm : m.Sound) (keys : List (Ipv4 × UInt16))
    (b : Ipv4) (q : UInt16) :
    (m.eraseAll keys).lookup b q = if (b, q) ∈ keys then none else m.lookup b q := by
  induction keys generalizing m with
  | nil => simp [AddressMap.eraseAll]
  | cons key keys ih =>
    have hstep : (m.eraseAll (key :: keys)) = (m.erase key.1 key.2).eraseAll keys := rfl
    rw [hstep, ih (hm.erase key.1 key.2), hm.lookup_erase]
    obtain ⟨a, p⟩ := key
    by_cases hmem : (b, q) ∈ keys
    · simp [hmem]
    · simp [hmem]

@[simp] theorem bucketCount_eraseAll (m : AddressMap) (keys : List (Ipv4 × UInt16)) :
    (m.eraseAll keys).bucketCount = m.bucketCount := by
  induction keys generalizing m with
  | nil => rfl
  | cons key keys ih => exact (ih (m.erase key.1 key.2)).trans (bucketCount_erase m _ _)

end InsertAll

/-! ## §6. Giving up what was just claimed. -/

/-- A map that has grown out of another by claims for some pairs: every chain
is the old one with claims for its share of the pairs behind it. The order of
these claims does not matter, and giving one up changes it. -/
structure Grown (m m' : AddressMap) (keys : List (Ipv4 × UInt16)) : Prop where
  /-- The chains are as many as before. -/
  count : m'.bucketCount = m.bucketCount
  /-- Each pair counts once. -/
  size : m'.size = m.size + keys.length
  /-- The old map does not claim the pairs. -/
  fresh : ∀ k ∈ keys, m.lookup k.1 k.2 = none
  /-- The new claims stand behind the old ones. -/
  tails : ∀ i, ∃ tail, m'.bucket i = m.bucket i ++ tail ∧
    (tail.map Claim.pair).Perm (keys.filter fun k => m.bucketOf k.1 = i)

namespace Grown

variable {m m' : AddressMap} {keys : List (Ipv4 × UInt16)}

theorem refl (m : AddressMap) : Grown m m [] where
  count := rfl
  size := rfl
  fresh := by intro k hk; cases hk
  tails := by intro i; exact ⟨[], by simp⟩

theorem bucketOf_eq (hg : Grown m m' keys) (addr : Ipv4) : m'.bucketOf addr = m.bucketOf addr := by
  unfold bucketOf
  rw [hg.count]

theorem eq_of_nil (hg : Grown m m' []) : m' = m := by
  apply ext_bucket hg.count hg.size
  intro i
  obtain ⟨tail, htail, hperm⟩ := hg.tails i
  have hnil : tail = [] := by simpa using hperm
  rw [htail, hnil, List.append_nil]

theorem lookup_eq_none (hg : Grown m m' keys) {addr : Ipv4} {port : UInt16}
    (hnone : m'.lookup addr port = none) : m.lookup addr port = none := by
  rw [lookup_eq_none_iff] at hnone ⊢
  intro c hc
  obtain ⟨tail, htail, -⟩ := hg.tails (m.bucketOf addr)
  apply hnone c
  rw [chain_eq_bucket, hg.bucketOf_eq, htail, ← chain_eq_bucket]
  exact List.mem_append_left _ hc

theorem insert (hg : Grown m m' keys) {key : Ipv4 × UInt16} {h : Handle} {m'' : AddressMap}
    (hok : m'.insert key.1 key.2 h = .ok m'') : Grown m m'' (keys ++ [key]) := by
  obtain ⟨-, hnone, rfl⟩ := insert_eq_ok_iff.1 hok
  refine ⟨?_, ?_, ?_, ?_⟩
  · rw [bucketCount_withChain, hg.count]
  · show m'.size + 1 = _
    rw [hg.size, List.length_append, List.length_singleton, Nat.add_assoc]
  · intro k hk
    rcases List.mem_append.1 hk with hk | hk
    · exact hg.fresh k hk
    · rw [List.mem_singleton.1 hk]
      exact hg.lookup_eq_none hnone
  · intro i
    obtain ⟨tail, htail, hperm⟩ := hg.tails i
    rw [bucket_withChain, hg.bucketOf_eq]
    by_cases hi : i = m.bucketOf key.1
    · refine ⟨tail ++ [⟨key.1, key.2, h⟩], ?_, ?_⟩
      · rw [if_pos hi, chain_eq_bucket, hg.bucketOf_eq, ← hi, htail, List.append_assoc]
      · have hlast : [key].filter (fun k => m.bucketOf k.1 = i) = [key] := by simp [hi]
        rw [List.map_append, List.filter_append, hlast]
        exact hperm.append_right _
    · refine ⟨tail, by rw [if_neg hi, htail], ?_⟩
      have hlast : [key].filter (fun k => m.bucketOf k.1 = i) = [] := by simp [Ne.symm hi]
      rw [List.filter_append, hlast, List.append_nil]
      exact hperm

/-- Giving up a pair takes its claim out of the part that has grown. -/
theorem erase {key : Ipv4 × UInt16} (hg : Grown m m' (key :: keys)) :
    Grown m (m'.erase key.1 key.2) keys := by
  have hold : ∀ c ∈ m.bucket (m.bucketOf key.1), c.isFor key.1 key.2 = false := by
    rw [← chain_eq_bucket]
    exact lookup_eq_none_iff.1 (hg.fresh key List.mem_cons_self)
  refine ⟨?_, ?_, fun k hk => hg.fresh k (List.mem_cons_of_mem _ hk), ?_⟩
  · rw [bucketCount_erase, hg.count]
  · obtain ⟨tail, htail, hperm⟩ := hg.tails (m.bucketOf key.1)
    have hkey : key ∈ tail.map Claim.pair := by
      rw [hperm.mem_iff]
      simp
    obtain ⟨c, hc, hpair⟩ := List.mem_map.1 hkey
    have hfound : (m'.chain key.1).findIdx? (·.isFor key.1 key.2) ≠ none := by
      rw [ne_eq, List.findIdx?_eq_none_iff]
      intro hall
      have := hall c (by
        rw [chain_eq_bucket, hg.bucketOf_eq, htail]
        exact List.mem_append_right _ hc)
      rw [Claim.isFor_iff.2 hpair] at this
      cases this
    have hsize := hg.size
    unfold AddressMap.erase
    split
    · show m'.size - 1 = _
      rw [hsize, List.length_cons]
      omega
    · contradiction
  · intro i
    obtain ⟨tail, htail, hperm⟩ := hg.tails i
    rw [bucket_erase, hg.bucketOf_eq]
    by_cases hi : i = m.bucketOf key.1
    · refine ⟨without tail key.1 key.2, ?_, ?_⟩
      · rw [if_pos hi, chain_eq_bucket, hg.bucketOf_eq, ← hi, htail, hi, without_append hold]
      · have hhead : (key :: keys).filter (fun k => m.bucketOf k.1 = i)
            = key :: keys.filter (fun k => m.bucketOf k.1 = i) := by simp [hi]
        rw [hhead] at hperm
        have herase : (tail.eraseP (·.isFor key.1 key.2)).map Claim.pair
            = (tail.map Claim.pair).erase key := by
          rw [List.erase_eq_eraseP, List.eraseP_map]
          congr 2
          funext c
          rw [Bool.eq_iff_iff, Claim.isFor_iff]
          show c.pair = key ↔ (key == c.pair) = true
          rw [beq_iff_eq]
          exact eq_comm
        refine ((without_perm _ _ _).map _).trans ?_
        rw [herase]
        simpa using hperm.erase key
    · refine ⟨tail, by rw [if_neg hi, htail], ?_⟩
      have hhead : (key :: keys).filter (fun k => m.bucketOf k.1 = i)
          = keys.filter (fun k => m.bucketOf k.1 = i) := by simp [Ne.symm hi]
      rw [hhead] at hperm
      exact hperm

theorem eraseAll (hg : Grown m m' keys) : m'.eraseAll keys = m := by
  induction keys generalizing m' with
  | nil => exact hg.eq_of_nil
  | cons key keys ih => exact ih hg.erase

end Grown

theorem insertFrom_outcome {h : Handle} {m m₀ : AddressMap} (keys done : List (Ipv4 × UInt16))
    (hg : Grown m m₀ done) :
    (∃ e, insertFrom h done m₀ keys = (.error e, m)) ∨
      ∃ m', insertFrom h done m₀ keys = (.ok (), m') ∧ Grown m m' (done ++ keys) := by
  induction keys generalizing done m₀ with
  | nil => exact Or.inr ⟨m₀, rfl, by rwa [List.append_nil]⟩
  | cons key keys ih =>
    unfold insertFrom
    cases hi : m₀.insert key.1 key.2 h with
    | error e =>
      refine Or.inl ⟨e, ?_⟩
      show (Except.error e, m₀.eraseAll done) = _
      rw [hg.eraseAll]
    | ok m₁ =>
      have := ih (done ++ [key]) (hg.insert hi)
      rwa [List.append_assoc] at this

/-- **A refused list of claims leaves the map as it was**, and a map that a list
was claimed in is as it was once the list is given up. -/
theorem insertAll_outcome (m : AddressMap) (keys : List (Ipv4 × UInt16)) (h : Handle) :
    (∃ e, m.insertAll keys h = (.error e, m)) ∨
      ∃ m', m.insertAll keys h = (.ok (), m') ∧ m'.eraseAll keys = m ∧
        m'.bucketCount = m.bucketCount := by
  rcases insertFrom_outcome (h := h) keys [] (Grown.refl m) with ⟨e, he⟩ | ⟨m', hok, hg⟩
  · exact Or.inl ⟨e, he⟩
  · exact Or.inr ⟨m', hok, hg.eraseAll, hg.count⟩

end AddressMap

end Lineup
