/-
  Lineup.Proofs.Extraction.Reports
  ────────────────────────────────
  **EXTENDED REPORTS ARE READ BACK.**  The settings that were read of any stream
  (`XrSettings.Sound`) ask only for what the stream can report, and every limit
  leaves room for the header.  Such settings are written as one attribute, and
  the words of that attribute give them back one by one, without a note.

  Main results:
    * `XrSettings.sound_of_read` — settings that were read are in order;
    * `XrSettings.Sound.read_attributes` — settings in order are read back.
-/
import Lineup.Proofs.Extraction.Endpoint

namespace Lineup

open Text

/-! ## §1. Steps of a check. -/

/-- What every step preserves holds after all of them. -/
theorem Check.foldlM_preserves {σ α : Type} {P : σ → Prop} {f : σ → α → Check σ}
    (hstep : ∀ s a s' w, P s → f s a = .passed s' w → P s') {as : List α} {s s' : σ}
    {w : List Warning} (hs : P s) (h : as.foldlM f s = .passed s' w) : P s' := by
  -- on the steps, from the first on
  induction as generalizing s w with
  | nil =>
    obtain ⟨rfl, -⟩ := Check.pure_eq_passed_iff.1 h
    exact hs
  | cons a as ih =>
    rw [List.foldlM_cons] at h
    obtain ⟨s₁, u, v, hfirst, hrest, -⟩ := Check.bind_eq_passed_iff.1 h
    exact ih (hstep s a s₁ u hs hfirst) hrest

/-! ## §2. What is read. -/

/-- A limit together with the header has 16 bits. -/
def RunLength.Sound : RunLength → Prop
  | unlimited => True
  | maxBytes bytes => bytes.toNat + xrHeaderBytes < UInt16.size

/-- Settings that a stream can have. -/
structure XrSettings.Sound (stream : StreamKind) (x : XrSettings) : Prop where
  lossRle : ∀ r, x.lossRle = some r → r.Sound
  postRepairLossRle : ∀ r, x.postRepairLossRle = some r → r.Sound
  masked : stream ≠ .primary → x.postRepairLossRle = none ∧ x.multicastAcq = false
    ∧ x.diagnosticCounters = false ∧ x.rtcpRsize = false

theorem RunLength.sound_of_read {stream : StreamKind} {token : String} {arg : Option (List Char)}
    {r : RunLength} {w : List Warning} (h : read stream token arg = .passed r w) : r.Sound := by
  unfold read at h
  cases arg with
  | none =>
    obtain ⟨rfl, -⟩ := Check.pure_eq_passed_iff.1 h
    exact trivial
  | some arg =>
    obtain ⟨bytes, -, hlast⟩ := Check.need_bind_eq_passed_iff.1 h
    have hlt := bytes.toNat_lt
    -- a limit that leaves no room for the header is taken as 0
    split at hlast
    · obtain ⟨_, _, _, _, hpure, -⟩ := Check.bind_eq_passed_iff.1 hlast
      obtain ⟨rfl, -⟩ := Check.pure_eq_passed_iff.1 hpure
      show (0 : UInt16).toNat + xrHeaderBytes < UInt16.size
      decide
    · next hbytes =>
      obtain ⟨rfl, -⟩ := Check.pure_eq_passed_iff.1 hlast
      show (UInt16.ofNat (bytes.toNat - xrHeaderBytes)).toNat + xrHeaderBytes < UInt16.size
      have hsize : UInt16.size = 65536 := rfl
      have hmod : (UInt16.ofNat (bytes.toNat - xrHeaderBytes)).toNat = bytes.toNat - xrHeaderBytes :=
        UInt16.toNat_ofNat_of_lt' (by omega)
      omega

namespace XrSettings

variable {stream : StreamKind} {x x' : XrSettings} {w : List Warning}

theorem sound_empty (stream : StreamKind) : empty.Sound stream := by
  refine ⟨?_, ?_, fun _ => ⟨rfl, rfl, rfl, rfl⟩⟩
  · intro r hr
    cases hr
  · intro r hr
    cases hr

theorem sound_addToken {token : List Char} (hx : x.Sound stream)
    (h : addToken stream x token = .passed x' w) : x'.Sound stream := by
  unfold addToken at h
  dsimp only at h
  split at h
  · obtain ⟨_, _, _, _, hpure, -⟩ := Check.bind_eq_passed_iff.1 h
    obtain ⟨rfl, -⟩ := Check.pure_eq_passed_iff.1 hpure
    exact hx
  · next block _ =>
    split at h
    · next havail =>
      -- only two blocks are there for every stream
      have hprimary : block ≠ .lossRle → block ≠ .statSummary → stream = .primary := by
        intro h₁ h₂
        cases block with
        | lossRle => exact absurd rfl h₁
        | statSummary => exact absurd rfl h₂
        | _ => exact beq_iff_eq.1 havail
      cases block with
      | lossRle =>
        obtain ⟨r, _, _, hr, hpure, -⟩ := Check.bind_eq_passed_iff.1 h
        obtain ⟨rfl, -⟩ := Check.pure_eq_passed_iff.1 hpure
        refine ⟨?_, hx.postRepairLossRle, hx.masked⟩
        rintro r' ⟨⟩
        exact RunLength.sound_of_read hr
      | postRepairLossRle =>
        obtain ⟨r, _, _, hr, hpure, -⟩ := Check.bind_eq_passed_iff.1 h
        obtain ⟨rfl, -⟩ := Check.pure_eq_passed_iff.1 hpure
        refine ⟨hx.lossRle, ?_, fun hno => absurd (hprimary (by decide) (by decide)) hno⟩
        rintro r' ⟨⟩
        exact RunLength.sound_of_read hr
      | statSummary =>
        obtain ⟨s, _, _, -, hpure, -⟩ := Check.bind_eq_passed_iff.1 h
        obtain ⟨rfl, -⟩ := Check.pure_eq_passed_iff.1 hpure
        exact ⟨hx.lossRle, hx.postRepairLossRle, hx.masked⟩
      | multicastAcq =>
        obtain ⟨rfl, -⟩ := Check.pure_eq_passed_iff.1 h
        exact ⟨hx.lossRle, hx.postRepairLossRle,
          fun hno => absurd (hprimary (by decide) (by decide)) hno⟩
      | diagnosticCounters =>
        obtain ⟨rfl, -⟩ := Check.pure_eq_passed_iff.1 h
        exact ⟨hx.lossRle, hx.postRepairLossRle,
          fun hno => absurd (hprimary (by decide) (by decide)) hno⟩
    · obtain ⟨_, _, _, _, hpure, -⟩ := Check.bind_eq_passed_iff.1 h
      obtain ⟨rfl, -⟩ := Check.pure_eq_passed_iff.1 hpure
      exact hx

theorem sound_readRsize {s : Section} (hx : x.Sound stream)
    (h : readRsize stream s x = .passed x' w) : x'.Sound stream := by
  unfold readRsize at h
  split at h
  · split at h
    · next hprimary =>
      obtain ⟨rfl, -⟩ := Check.pure_eq_passed_iff.1 h
      exact ⟨hx.lossRle, hx.postRepairLossRle, fun hno => absurd hprimary hno⟩
    · obtain ⟨_, _, _, _, hpure, -⟩ := Check.bind_eq_passed_iff.1 h
      obtain ⟨rfl, -⟩ := Check.pure_eq_passed_iff.1 hpure
      exact hx
  · obtain ⟨rfl, -⟩ := Check.pure_eq_passed_iff.1 h
    exact hx

/-- **Settings that were read are in order.** -/
theorem sound_of_read {s : Section} (h : read stream s = .passed x w) : x.Sound stream := by
  unfold read at h
  obtain ⟨x₀, _, _, hfold, hlast, -⟩ := Check.bind_eq_passed_iff.1 h
  refine sound_readRsize (Check.foldlM_preserves ?_ (sound_empty stream) hfold) hlast
  intro x token x' w hx hstep
  exact sound_addToken hx hstep

end XrSettings

/-! ## §3. Words that are written. -/

namespace RunLength

variable {stream : StreamKind} {block : XrBlock}

/-- The argument that a limit is written with. -/
def argument : RunLength → Option (List Char)
  | unlimited => none
  | maxBytes bytes => some (decimal (bytes.toNat + xrHeaderBytes)).toList

theorem read_argument {r : RunLength} (hr : r.Sound) (token : String) :
    read stream token r.argument = pure r := by
  cases r with
  | unlimited => rfl
  | maxBytes bytes =>
    have hlt : bytes.toNat + xrHeaderBytes < UInt16.size := hr
    have hnat : (UInt16.ofNat (bytes.toNat + xrHeaderBytes)).toNat = bytes.toNat + xrHeaderBytes :=
      UInt16.toNat_ofNat_of_lt' hlt
    -- the limit is written with the header and read without it
    have hnumber : uint16? (decimal (bytes.toNat + xrHeaderBytes)).toList
        = some (UInt16.ofNat (bytes.toNat + xrHeaderBytes)) := by
      unfold uint16?
      rw [number?_decimal hlt, Option.map_some]
    show (Check.need _ (uint16? _) >>= _) = _
    rw [hnumber]
    show (pure (UInt16.ofNat (bytes.toNat + xrHeaderBytes)) >>= _) = _
    rw [pure_bind, if_neg (by omega), hnat, Nat.add_sub_cancel, UInt16.ofNat_toNat]

theorem toList_toToken (bytes : UInt16) : ((maxBytes bytes).toToken block).toList
    = block.word.toList ++ '=' :: (decimal (bytes.toNat + xrHeaderBytes)).toList := by
  simp [toToken]

theorem cut_toToken (r : RunLength) :
    cut (· == '=') (r.toToken block).toList
      = r.argument.map fun arg => (block.word.toList, arg) := by
  -- no block has a `=` in its name
  have hfree : ∀ c ∈ block.word.toList, (c == '=') = false := by
    cases block with
    | _ => decide
  cases r with
  | unlimited => exact cut_eq_none hfree
  | maxBytes bytes =>
    rw [toList_toToken, cut_append hfree (by decide)]
    rfl

theorem isWord_toToken (r : RunLength) : IsWord isWhite (r.toToken block).toList := by
  have hword : IsWord isWhite block.word.toList := by
    cases block with
    | _ => exact ⟨by decide, by decide⟩
  cases r with
  | unlimited => exact hword
  | maxBytes bytes =>
    rw [toList_toToken]
    refine ⟨by simp, ?_⟩
    intro c hc
    rcases List.mem_append.1 hc with hc | hc
    · exact hword.2 c hc
    · rcases List.mem_cons.1 hc with rfl | hc
      · decide
      · exact (isWord_number _).2 c hc

end RunLength

theorem XrBlock.ofWord?_word (block : XrBlock) : ofWord? (.ofList block.word.toList) = some block := by
  cases block with
  | _ => decide

/-- The word that a summary is written as. -/
def StatSummary.token (s : StatSummary) : String :=
  XrBlock.statSummary.word ++ "=" ++ ",".intercalate s.flags

theorem StatSummary.isWord_token (s : StatSummary) : IsWord isWhite s.token.toList := by
  obtain ⟨loss, duplicates, jitter⟩ := s
  cases loss with
  | _ => cases duplicates with
    | _ => cases jitter with
      | _ => exact ⟨by decide, by decide⟩

namespace XrSettings

variable {stream : StreamKind} {x : XrSettings}

theorem isWord_of_mem_tokens {token : String} (h : token ∈ x.tokens) :
    IsWord isWhite token.toList := by
  unfold tokens at h
  simp only [List.mem_append, Option.mem_toList, Option.map_eq_some_iff] at h
  rcases h with (((⟨r, -, rfl⟩ | ⟨r, -, rfl⟩) | h) | h) | h
  · exact r.isWord_toToken
  · exact r.isWord_toToken
  · rw [eq_of_mem_ite h]
    exact x.statSummary.isWord_token
  · rw [eq_of_mem_ite h]
    exact ⟨by decide, by decide⟩
  · rw [eq_of_mem_ite h]
    exact ⟨by decide, by decide⟩

/-! ## §4. Words that are read. -/

theorem addToken_lossRle {r : RunLength} (hr : r.Sound) :
    addToken stream x (r.toToken .lossRle).toList = pure { x with lossRle := some r } := by
  cases r with
  | unlimited => rfl
  | maxBytes bytes =>
    unfold addToken
    rw [RunLength.cut_toToken]
    dsimp only [RunLength.argument, Option.map]
    rw [XrBlock.ofWord?_word]
    -- what is read as the argument is what was written as it
    show (RunLength.read stream _ (RunLength.maxBytes bytes).argument >>= _) = _
    rw [RunLength.read_argument hr, pure_bind]

theorem addToken_postRepairLossRle {r : RunLength} (hr : r.Sound) (hstream : stream = .primary) :
    addToken stream x (r.toToken .postRepairLossRle).toList
      = pure { x with postRepairLossRle := some r } := by
  rw [hstream]
  cases r with
  | unlimited => rfl
  | maxBytes bytes =>
    unfold addToken
    rw [RunLength.cut_toToken]
    dsimp only [RunLength.argument, Option.map]
    rw [XrBlock.ofWord?_word]
    show (RunLength.read .primary _ (RunLength.maxBytes bytes).argument >>= _) = _
    rw [RunLength.read_argument hr, pure_bind]

theorem addToken_statSummary (s : StatSummary) :
    addToken stream x s.token.toList = pure { x with statSummary := s } := by
  obtain ⟨loss, duplicates, jitter⟩ := s
  cases loss with
  | _ => cases duplicates with
    | _ => cases jitter with
      | _ => rfl

theorem addToken_multicastAcq (hstream : stream = .primary) :
    addToken stream x XrBlock.multicastAcq.word.toList = pure { x with multicastAcq := true } := by
  rw [hstream]
  rfl

theorem addToken_diagnosticCounters (hstream : stream = .primary) :
    addToken stream x XrBlock.diagnosticCounters.word.toList
      = pure { x with diagnosticCounters := true } := by
  rw [hstream]
  rfl

/-- The words of settings in order give the settings, but for the short reports. -/
theorem Sound.foldlM_tokens (hx : x.Sound stream) :
    (x.tokens.map String.toList).foldlM (addToken stream) empty
      = pure { x with rtcpRsize := false } := by
  -- block by block: each word sets its field and leaves those before it
  obtain ⟨loss, post, stat, acq, counters, rsize⟩ := x
  have hloss : ((loss.map (·.toToken .lossRle)).toList.map String.toList).foldlM
      (addToken stream) empty = pure ⟨loss, none, .empty, false, false, false⟩ := by
    cases loss with
    | none => rfl
    | some r =>
      show (addToken stream empty (r.toToken .lossRle).toList >>= pure) = _
      rw [addToken_lossRle (hx.lossRle r rfl), bind_pure]
      rfl
  have hpost : ((post.map (·.toToken .postRepairLossRle)).toList.map String.toList).foldlM
      (addToken stream) ⟨loss, none, .empty, false, false, false⟩
      = pure ⟨loss, post, .empty, false, false, false⟩ := by
    cases post with
    | none => rfl
    | some r =>
      have hstream : stream = .primary := by
        by_contra hne
        cases (hx.masked hne).1
      show (addToken stream _ (r.toToken .postRepairLossRle).toList >>= pure) = _
      rw [addToken_postRepairLossRle (hx.postRepairLossRle r rfl) hstream, bind_pure]
  have hstat : ((if stat.any then [stat.token] else []).map String.toList).foldlM
      (addToken stream) ⟨loss, post, .empty, false, false, false⟩
      = pure ⟨loss, post, stat, false, false, false⟩ := by
    by_cases hany : stat.any = true
    · rw [if_pos hany]
      show (addToken stream _ stat.token.toList >>= pure) = _
      rw [addToken_statSummary, bind_pure]
    · -- a summary that asks for nothing is not written
      have hnone : stat = .empty := by
        unfold StatSummary.any at hany
        simp only [Bool.or_eq_true, not_or, Bool.not_eq_true] at hany
        obtain ⟨⟨hl, hd⟩, hj⟩ := hany
        exact StatSummary.mk.injEq .. ▸ ⟨hl, hd, hj⟩
      rw [if_neg hany, hnone]
      rfl
  have hacq : ((if acq then [XrBlock.multicastAcq.word] else []).map String.toList).foldlM
      (addToken stream) ⟨loss, post, stat, false, false, false⟩
      = pure ⟨loss, post, stat, acq, false, false⟩ := by
    cases acq with
    | false => rfl
    | true =>
      have hstream : stream = .primary := by
        by_contra hne
        cases (hx.masked hne).2.1
      show (addToken stream _ XrBlock.multicastAcq.word.toList >>= pure) = _
      rw [addToken_multicastAcq hstream, bind_pure]
  have hcounters : ((if counters then [XrBlock.diagnosticCounters.word] else []).map
      String.toList).foldlM (addToken stream) ⟨loss, post, stat, acq, false, false⟩
      = pure ⟨loss, post, stat, acq, counters, false⟩ := by
    cases counters with
    | false => rfl
    | true =>
      have hstream : stream = .primary := by
        by_contra hne
        cases (hx.masked hne).2.2.1
      show (addToken stream _ XrBlock.diagnosticCounters.word.toList >>= pure) = _
      rw [addToken_diagnosticCounters hstream, bind_pure]
  unfold tokens
  simp only [List.map_append, List.foldlM_append]
  rw [hloss, pure_bind, hpost, pure_bind]
  show ((((if stat.any then [stat.token] else []).map String.toList).foldlM _ _ >>= _) >>= _) = _
  rw [hstat, pure_bind, hacq, pure_bind, hcounters]

end XrSettings

/-! ## §5. Whole settings. -/

/-- The words of the attribute that asks for the blocks. -/
theorem XrSettings.words_toValue? (x : XrSettings) :
    x.toValue?.toList.flatMap (fun v => words isWhite v.toList) = x.tokens.map String.toList := by
  unfold toValue?
  -- without any block there is no attribute
  by_cases hempty : x.tokens.isEmpty = true
  · rw [if_pos hempty, List.isEmpty_iff.1 hempty]
    rfl
  · rw [if_neg hempty, Option.toList_some, List.flatMap_singleton]
    refine words_of_toList String.toList_intercalate ?_
    intro w hw
    obtain ⟨token, htoken, rfl⟩ := List.mem_map.1 hw
    exact isWord_of_mem_tokens htoken

/-- **Settings in order are read from the attributes that ask for them**, without a
note, where no other attributes ask for reports. -/
theorem XrSettings.Sound.read_attributes {stream : StreamKind} {x : XrSettings} {s : Section}
    (hx : x.Sound stream) (hvalues : s.attributeValues "rtcp-xr" = x.toValue?.toList)
    (hrsize : s.hasAttribute "rtcp-rsize" = x.rtcpRsize) :
    XrSettings.read stream s = pure x := by
  unfold XrSettings.read tokensOf
  rw [hvalues, x.words_toValue?, hx.foldlM_tokens, pure_bind]
  unfold readRsize
  rw [hrsize]
  by_cases hr : x.rtcpRsize = true
  · have hstream : stream = .primary := by
      by_contra hne
      rw [(hx.masked hne).2.2.2] at hr
      cases hr
    rw [if_pos hr, if_pos hstream, ← hr]
  · have hno : x.rtcpRsize = false := by simpa using hr
    rw [if_neg hr, ← hno]

end Lineup
