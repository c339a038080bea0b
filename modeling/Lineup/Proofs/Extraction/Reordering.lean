/-
  Lineup.Proofs.Extraction.Reordering
  ───────────────────────────────────
  **ORDER THAT DOES NOT MATTER.**  Media streams are told apart by what they carry, so it
  does not matter how streams of different encodings alternate; only the streams for error
  correction are told apart by their order, and transport streams if none of them states a
  bit rate.  Groups are looked for by what they mean, and their tags are compared as sets.
  A session that is drawn as a channel is drawn as the same one when it is reordered.

  Main results:
    * `MediaLines.splitPrimary_of_perm` — a bit rate tells the primary stream in any order;
    * `Parts.exists_ofView_of_reordered` — the same streams play the same parts;
    * `Channel.checkGroups_of_regrouped` — the same groups are found;
    * `extractChannel_of_reordered` — so the same channel is drawn.
-/
import Lineup.Proofs.Extraction.Positions
import Lineup.Proofs.Extraction.Groups
import Mathlib.Data.List.Forall2

namespace Lineup

/-! ## §1. Reordered sessions. -/

/-- Whether a media stream of a session carries an encoding. -/
def Session.carries (s : Session) (encoding : Encoding) (m : Media) : Bool :=
  (s.view.lineOf? m).any (·.2 == encoding)

/-- A group with its tags in another order. -/
structure Group.Retagged (g h : Group) : Prop where
  semantics : g.semantics = h.semantics
  mids : g.mids.Perm h.mids

/-- Groups in another order, with their tags in another order. -/
def Group.Regrouped (gs hs : List Group) : Prop :=
  ∃ ks : List Group, gs.Perm ks ∧ List.Forall₂ Retagged ks hs

/-- A session whose media streams and groups are put in another order. Streams for error
correction keep their order, and so do transport streams if none states a bit rate. -/
structure Session.Reordered (s t : Session) : Prop where
  origin : s.origin = t.origin
  name : s.name = t.name
  timing : s.timing = t.timing
  connection : s.body.connection = t.body.connection
  attributes : s.body.attributes.filter (·.name != "group")
    = t.body.attributes.filter (·.name != "group")
  groups : Group.Regrouped s.groups t.groups
  media : s.media.Perm t.media
  fec : s.media.filter (s.carries .fec) = t.media.filter (s.carries .fec)
  mp2t : (∀ m ∈ s.media, s.carries .mp2t m = true → m.body.bandwidth "AS" = none) →
    s.media.filter (s.carries .mp2t) = t.media.filter (s.carries .mp2t)

/-! ## §2. Sorting. -/

section Perm

variable {s t : Session}

/-- A session's media streams, sorted. -/
theorem Session.hold_of_ofView {ls : MediaLines} (h : MediaLines.ofView s.view = .ok ls) :
    MediaLines.Hold s.view s.media ls := by
  have hprefix : MediaLines.ofView { s.view with mediaCount := s.media.length } = .ok ls := h
  have hhold := MediaLines.hold_of_ofView (fun _ => rfl) hprefix
  rwa [List.take_length] at hhold

/-- The streams of an encoding are those that carry it. -/
theorem Session.linesOf_filter (s : Session) (encoding : Encoding) (ms : List Media) :
    s.view.linesOf encoding (ms.filter (s.carries encoding)) = s.view.linesOf encoding ms := by
  unfold SessionView.linesOf
  rw [List.filterMap_filter]
  refine congrArg (List.filterMap · ms) (funext fun m => ?_)
  unfold Session.carries
  cases s.view.lineOf? m with
  | none => simp
  | some p => simp

theorem Session.Reordered.lineOf?_eq (h : s.Reordered t) (m : Media) :
    t.view.lineOf? m = s.view.lineOf? m := by
  have hconnection : t.view.connection = s.view.connection := h.connection.symm
  unfold SessionView.lineOf? SessionView.mediaLine SessionView.mediaConnection
  dsimp only
  rw [hconnection]

theorem Session.Reordered.linesOf_eq (h : s.Reordered t) (encoding : Encoding) (ms : List Media) :
    t.view.linesOf encoding ms = s.view.linesOf encoding ms := by
  unfold SessionView.linesOf
  simp only [h.lineOf?_eq]

theorem Session.carries_eq_true_iff {encoding : Encoding} {m : Media} :
    s.carries encoding m = true ↔ ∃ l, s.view.lineOf? m = some (l, encoding) := by
  unfold carries
  cases s.view.lineOf? m with
  | none => simp
  | some p => simp [Prod.ext_iff]

/-- At most one entry has no other order. -/
theorem eq_of_perm_toList {α : Type} {o : Option α} {as : List α} (h : as.Perm o.toList) :
    as = o.toList := by
  cases o with
  | none => exact h.eq_nil
  | some a => exact h.eq_singleton

namespace MediaLines

/-- Sorted media streams that are the same up to positions. Transport streams may be in another
order if one of them states a bit rate. -/
structure Shuffled (ls ks : MediaLines) : Prop where
  mp2t : (ls.mp2t.map (·.at 0)).Perm (ks.mp2t.map (·.at 0))
  inOrder : (∀ l ∈ ls.mp2t, hasBitRate l = false) →
    ls.mp2t.map (·.at 0) = ks.mp2t.map (·.at 0)
  rtx : ls.rtx.map (·.at 0) = ks.rtx.map (·.at 0)
  fec : ls.fec.map (·.at 0) = ks.fec.map (·.at 0)

theorem Hold.shuffled {ls ks : MediaLines} (h : s.Reordered t) (hls : Hold s.view s.media ls)
    (hks : Hold t.view t.media ks) : Shuffled ls ks := by
  have hperm : ∀ encoding : Encoding,
      (s.view.linesOf encoding s.media).Perm (t.view.linesOf encoding t.media) := by
    intro encoding
    rw [h.linesOf_eq]
    exact h.media.filterMap _
  -- streams that carry an encoding in the same order are read as the same list
  have hkept : ∀ encoding : Encoding,
      s.media.filter (s.carries encoding) = t.media.filter (s.carries encoding) →
      s.view.linesOf encoding s.media = t.view.linesOf encoding t.media := by
    intro encoding hfilter
    rw [h.linesOf_eq, ← s.linesOf_filter, hfilter, s.linesOf_filter]
  refine ⟨?_, ?_, ?_, ?_⟩
  · rw [hls.mp2t, hks.mp2t]
    exact hperm .mp2t
  · intro hrates
    rw [hls.mp2t, hks.mp2t]
    refine hkept .mp2t (h.mp2t ?_)
    intro m hm hcarries
    obtain ⟨l, hl⟩ := Session.carries_eq_true_iff.1 hcarries
    have hmem := SessionView.mem_linesOf hm hl
    rw [← hls.mp2t] at hmem
    obtain ⟨k, hk, rfl⟩ := List.mem_map.1 hmem
    have hmedia : k.media = m := SessionView.media_of_lineOf? hl
    rw [← hmedia]
    simpa [hasBitRate] using hrates k hk
  · have hrtx := hperm .rtx
    rw [← hls.rtx, ← hks.rtx, ← Option.toList_map, ← Option.toList_map] at hrtx
    simpa using congrArg List.head? (eq_of_perm_toList hrtx)
  · rw [hls.fec, hks.fec]
    exact hkept .fec h.fec

theorem exists_ofView_of_reordered {ls : MediaLines} (h : s.Reordered t)
    (hls : ofView s.view = .ok ls) : ∃ ks, ofView t.view = .ok ks ∧ Shuffled ls ks := by
  have hhold := Session.hold_of_ofView hls
  have hlength : ∀ encoding : Encoding, (t.view.linesOf encoding t.media).length
      = (s.view.linesOf encoding s.media).length := by
    intro encoding
    rw [h.linesOf_eq]
    exact ((h.media.filterMap _).length_eq).symm
  have hrtx : (t.view.linesOf .rtx t.media).length ≤ 1 := by
    rw [hlength, ← hhold.rtx, List.length_map]
    cases ls.rtx with
    | none => exact Nat.zero_le 1
    | some l => exact Nat.le_refl 1
  have hfec : (t.view.linesOf .fec t.media).length ≤ 2 := by
    rw [hlength, ← hhold.fec, List.length_map]
    exact hhold.two
  have hform : ∀ m ∈ t.media, (t.view.lineOf? m).isSome = true := by
    intro m hm
    rw [h.lineOf?_eq]
    exact hhold.form m (h.media.mem_iff.2 hm)
  obtain ⟨ks, hks⟩ := exists_ofView (v := t.view) (n := t.media.length) (fun _ => rfl)
    (Nat.le_refl _) hform hrtx hfec
  exact ⟨ks, hks, hhold.shuffled h (Session.hold_of_ofView hks)⟩

/-! ## §3. The primary stream and its copy. -/

theorem withResourced_toList (p : MediaLine) (r : Option MediaLine) :
    withResourced p r.toList = .ok (p, r) := by
  cases r with
  | _ => rfl

/-- **The stream that states its bit rate is the primary one in any order.** -/
theorem splitPrimary_of_perm {ls ks : List MediaLine} (hperm : ls.Perm ks)
    (horder : (∀ l ∈ ls, hasBitRate l = false) → ls = ks) {p : MediaLine} {r : Option MediaLine}
    (h : splitPrimary ls = .ok (p, r)) : splitPrimary ks = .ok (p, r) := by
  by_cases hnone : ∀ l ∈ ls, hasBitRate l = false
  · rwa [← horder hnone]
  · have hyes := hperm.filter hasBitRate
    have hno := hperm.filter (not ∘ hasBitRate)
    unfold splitPrimary at h ⊢
    rw [List.partition_eq_filter_filter] at h ⊢
    generalize hrates : ls.filter hasBitRate = rates at h hyes
    generalize ls.filter (not ∘ hasBitRate) = rest at h hno
    match rates with
    | [l] =>
      obtain ⟨rfl, rfl⟩ := withResourced_eq_ok h
      rw [hyes.symm.eq_singleton, eq_of_perm_toList hno.symm]
      exact withResourced_toList p r
    | _ :: _ :: _ => cases h
    | [] =>
      -- some stream states a bit rate
      refine absurd (fun l hl => ?_) hnone
      simpa using List.filter_eq_nil_iff.1 hrates l hl

end MediaLines

/-! ## §4. Parts. -/

/-- **A reordered session has the same parts**, at other positions. -/
theorem Parts.exists_ofView_of_reordered (h : s.Reordered t) {channelType : ChannelType}
    {p : Parts} (hp : ofView s.view channelType = .ok p) :
    ∃ q, ofView t.view channelType = .ok q ∧ p.unplaced = q.unplaced := by
  obtain ⟨ls, l, r, hls, hsplit, hrtp, rfl, hlinear⟩ := ofView_eq_ok_iff.1 hp
  obtain ⟨ks, hks, hsame⟩ := MediaLines.exists_ofView_of_reordered h hls
  have hmoved : MediaLines.splitPrimary (ks.mp2t.map (·.at 0)) = .ok (l.at 0, r.map (·.at 0)) := by
    refine MediaLines.splitPrimary_of_perm hsame.mp2t (fun hnone => hsame.inOrder ?_) ?_
    · intro k hk
      exact hnone (k.at 0) (List.mem_map_of_mem hk)
    · rw [MediaLines.splitPrimary_at, hsplit]
      rfl
  rw [MediaLines.splitPrimary_at] at hmoved
  cases hsplit' : MediaLines.splitPrimary ks.mp2t with
  | error e =>
    rw [hsplit'] at hmoved
    cases hmoved
  | ok split =>
    obtain ⟨l', r'⟩ := split
    rw [hsplit'] at hmoved
    obtain ⟨hl, hr⟩ := Prod.mk.inj (Except.ok.inj hmoved)
    have hunplaced : unplaced ⟨l, r, ls.rtx, ls.fec[0]?, ls.fec[1]?⟩
        = unplaced ⟨l', r', ks.rtx, ks.fec[0]?, ks.fec[1]?⟩ := by
      unfold unplaced
      simp only [← List.getElem?_map, hsame.fec, hsame.rtx, hl, hr]
    refine ⟨⟨l', r', ks.rtx, ks.fec[0]?, ks.fec[1]?⟩, ?_, hunplaced⟩
    refine ofView_eq_ok_iff.2 ⟨ks, l', r', hks, hsplit', ?_, rfl, ?_⟩
    · intro k hk
      rw [hk] at hr
      obtain ⟨k', hk', heq⟩ := Option.map_eq_some_iff.1 hr.symm
      have htransport : (k'.at 0).transport = (k.at 0).transport := congrArg MediaLine.transport heq
      rw [← k.transport_at 0, ← htransport]
      exact hrtp k' hk'
    · intro hyes
      rw [← checkLinear_unplaced, ← hunplaced, checkLinear_unplaced]
      exact hlinear hyes

/-! ## §5. Groups. -/

/-- Groups that are put in another order are found all the same. -/
theorem Group.Regrouped.exists_single {gs hs : List Group} (h : Group.Regrouped gs hs)
    {semantics : String} {g : Option Group}
    (hg : gs.filter (·.semantics == semantics) = g.toList) :
    ∃ g', hs.filter (·.semantics == semantics) = g'.toList
      ∧ Option.Rel Retagged g g' := by
  obtain ⟨ks, hperm, hrel⟩ := h
  have hks : ks.filter (·.semantics == semantics) = g.toList := by
    refine eq_of_perm_toList ?_
    rw [← hg]
    exact (hperm.filter _).symm
  have hfilter : List.Forall₂ Retagged
      (ks.filter (·.semantics == semantics)) (hs.filter (·.semantics == semantics)) := by
    refine List.rel_filter (fun k h hkh => ?_) hrel
    simp [hkh.semantics]
  rw [hks] at hfilter
  cases g with
  | none =>
    rw [Option.toList_none, List.forall₂_nil_left_iff] at hfilter
    exact ⟨none, hfilter, .none⟩
  | some g =>
    obtain ⟨g', rest, hgg', hrest, heq⟩ := List.forall₂_cons_left_iff.1 hfilter
    obtain rfl := List.forall₂_nil_left_iff.1 hrest
    exact ⟨some g', heq, .some hgg'⟩

namespace Channel

variable {c : Channel}

theorem checkMembers_of_retagged {g h : Group} {kinds : List StreamKind} (hgh : g.Retagged h)
    (hg : c.checkMembers g kinds = .ok ()) : c.checkMembers h kinds = .ok () := by
  obtain ⟨mids, hmids, hperm⟩ := checkMembers_eq_ok_iff.1 hg
  exact checkMembers_eq_ok_iff.2 ⟨mids, hmids, hgh.mids.symm.trans hperm⟩

theorem checkFid_of_retagged {fid fid' : Option Group}
    (hrel : Option.Rel Group.Retagged fid fid') (h : c.checkFid fid = .ok ()) :
    c.checkFid fid' = .ok () := by
  cases hrel with
  | none => exact h
  | some hgroup =>
    unfold checkFid at h ⊢
    cases hrtx : c.rtx with
    | none =>
      rw [hrtx] at h
      cases h
    | some r =>
      rw [hrtx] at h
      exact checkMembers_of_retagged hgroup h

theorem checkFec_of_retagged {fec fec' : Option Group}
    (hrel : Option.Rel Group.Retagged fec fec') (h : c.checkFec fec = .ok ()) :
    c.checkFec fec' = .ok () := by
  cases hrel with
  | none => exact h
  | some hgroup =>
    unfold checkFec at h ⊢
    dsimp only at h ⊢
    rw [refuse_eq_ok_iff] at h ⊢
    exact ⟨h.1, checkMembers_of_retagged hgroup h.2⟩

/-- **Neither the order of groups nor that of their tags matters.** -/
theorem checkGroups_of_regrouped {gs hs : List Group} (h : Group.Regrouped gs hs)
    (hgs : c.checkGroups gs = .ok ()) : c.checkGroups hs = .ok () := by
  obtain ⟨hmids, fid, fec, hfid, hfec, hcheckFid, hcheckFec⟩ := checkGroups_eq_ok_iff.1 hgs
  obtain ⟨fid', hfid', hrelFid⟩ := h.exists_single hfid
  obtain ⟨fec', hfec', hrelFec⟩ := h.exists_single hfec
  exact checkGroups_eq_ok_iff.2 ⟨hmids, fid', fec', hfid', hfec',
    checkFid_of_retagged hrelFid hcheckFid, checkFec_of_retagged hrelFec hcheckFec⟩

end Channel

/-! ## §6. Channels. -/

theorem Session.Reordered.feedbackMode_eq (h : s.Reordered t) :
    FeedbackMode.read t.view = FeedbackMode.read s.view := by
  -- an attribute of this name is no group
  have hfind : ∀ as : List Attribute, Attribute.find "rtcp-unicast" as
      = Attribute.find "rtcp-unicast" (as.filter (·.name != "group")) := by
    intro as
    unfold Attribute.find
    rw [List.find?_filter]
    refine congrArg (as.find? ·) (funext fun a => ?_)
    by_cases ha : a.name = "rtcp-unicast"
    · simp [ha]
    · simp [ha]
  have hattributes : Attribute.find "rtcp-unicast" t.view.attributes
      = Attribute.find "rtcp-unicast" s.view.attributes := by
    rw [hfind, hfind s.view.attributes]
    exact congrArg (Attribute.find "rtcp-unicast") h.attributes.symm
  unfold FeedbackMode.read
  rw [hattributes]

theorem Session.Reordered.channel_eq (h : s.Reordered t) (streams : Streams)
    (channelType : ChannelType) (identity : SessionIdentity) (feedbackMode : FeedbackMode)
    (roleMode : Role × Mode) :
    streams.channel t.view channelType identity feedbackMode roleMode
      = streams.channel s.view channelType identity feedbackMode roleMode := by
  have hname : t.view.name = s.view.name := h.name.symm
  have htiming : t.view.timing = s.view.timing := h.timing.symm
  unfold Streams.channel
  rw [hname, htiming]

/-- A reordered session passes all stages with the same results. -/
theorem Drawn.reordered (h : s.Reordered t) {channelType : ChannelType}
    {identity : SessionIdentity} {feedbackMode : FeedbackMode} {streams : Streams}
    {roleMode : Role × Mode} {notes : List Warning}
    (hs : Drawn s.view channelType identity feedbackMode streams roleMode notes) :
    Drawn t.view channelType identity feedbackMode streams roleMode notes := by
  obtain ⟨u, w, p, hfeedback, hparts, hstreams, hnotes⟩ := hs.parts
  obtain ⟨q, hq, hsame⟩ := Parts.exists_ofView_of_reordered h hparts
  have htiming : t.view.timing = s.view.timing := h.timing.symm
  have hcount : t.view.mediaCount = s.view.mediaCount := h.media.length_eq.symm
  refine {
    start := htiming ▸ hs.start
    count := hcount ▸ hs.count
    parts := ⟨u, w, q, ?_, hq, ?_, hnotes⟩
    role := hs.role
    apt := hs.apt
    groups := ?_
    consistency := ?_ }
  · rw [h.feedbackMode_eq]
    exact hfeedback
  · rw [← Parts.streams_unplaced_iff, ← hsame, Parts.streams_unplaced_iff]
    exact hstreams
  · rw [h.channel_eq]
    exact Channel.checkGroups_of_regrouped h.groups hs.groups
  · rw [h.channel_eq]
    exact hs.consistency

/-- **ORDER DOES NOT MATTER.** A session that is drawn as a channel is drawn as the same one, with
the same notes in the same order, when its media streams and groups are put in another order. -/
theorem extractChannel_of_reordered (h : s.Reordered t) {channelType : ChannelType}
    {e : Extraction} (he : extractChannel s.view channelType = .ok e) :
    extractChannel t.view channelType = .ok e := by
  obtain ⟨identity, hidentity, hpassed⟩ := extractChannel_eq_ok_iff.1 he
  obtain ⟨feedbackMode, streams, roleMode, hdrawn, heq⟩ :=
    SessionView.channel_eq_passed_iff.1 hpassed
  have horigin : t.view.origin = s.view.origin := h.origin.symm
  refine extractChannel_eq_ok_iff.2 ⟨identity, horigin ▸ hidentity, ?_⟩
  refine SessionView.channel_eq_passed_iff.2
    ⟨feedbackMode, streams, roleMode, hdrawn.reordered h, ?_⟩
  rw [h.channel_eq]
  exact heq

end Perm

/-- A media stream that is sent to an address. -/
def videoTo (address : String) (ttl : Option UInt8) (port : UInt16) (protocol format : String)
    (bandwidths : List Bandwidth) (attributes : List Attribute) : Media where
  media := "video"
  port := port
  portCount := none
  protocol := protocol
  formats := [format]
  body := ⟨none, some (.ip4 address ttl), bandwidths, attributes⟩

/-- An access node that repairs losses from a copy of the stream, with all five streams. -/
def orderlySession : Session where
  version := "0"
  origin := ⟨"-", "7", "3", "IN", "IP4", "10.0.0.1"⟩
  name := "Film"
  timing := ⟨0, 0⟩
  body := ⟨none, none, [], [.valued "group" "FID 2 3", .valued "rtcp-unicast" "rsi",
    .valued "group" "FEC 1 4 5"]⟩
  media := [
    videoTo "239.0.0.1" (some 64) 5000 "RTP/AVPF" "96" [⟨"AS", 4000⟩] [.flag "recvonly",
      .valued "rtpmap" "96 MP2T/90000", .valued "rtcp" "5001 IN IP4 10.0.0.9", .valued "mid" "1"],
    videoTo "239.0.0.2" (some 64) 5002 "RTP/AVP" "97" [] [.flag "sendonly",
      .valued "rtpmap" "97 MP2T/90000", .valued "mid" "2"],
    videoTo "10.0.0.9" none 6000 "RTP/AVPF" "98" [] [.flag "sendonly",
      .valued "rtpmap" "98 rtx/90000", .valued "fmtp" "98 apt=97", .valued "mid" "3"],
    videoTo "239.0.0.1" (some 64) 5010 "RTP/AVP" "99" []
      [.valued "rtpmap" "99 parityfec/90000", .valued "mid" "4"],
    videoTo "239.0.0.1" (some 64) 5020 "RTP/AVP" "100" []
      [.valued "rtpmap" "100 2dparityfec/90000", .valued "mid" "5"]]

/-- The same session with its media streams, its groups and their tags put in another order:
the primary stream stands behind its copy, and is known by its bit rate. -/
def shuffledSession : Session where
  version := orderlySession.version
  origin := orderlySession.origin
  name := orderlySession.name
  timing := orderlySession.timing
  body := ⟨none, none, [], [.valued "group" "FEC 5 1 4", .valued "group" "FID 3 2",
    .valued "rtcp-unicast" "rsi"]⟩
  media := [2, 3, 1, 4, 0].filterMap (orderlySession.media[·]?)

/-- It is drawn as the same channel, with five streams and five notes. -/
theorem extractChannel_of_reordered_shuffled :
    orderlySession.Reordered shuffledSession ∧
      ∃ e, extractChannel orderlySession.view .linear = .ok e
        ∧ (e.channel.mode = .source ∧ e.channel.fec2.isSome = true ∧ e.warnings.length = 5)
        ∧ extractChannel shuffledSession.view .linear = .ok e := by
  have hgroups : shuffledSession.groups
      = [⟨"FEC", ["5", "1", "4"]⟩, ⟨"FID", ["3", "2"]⟩] := by
    decide +kernel
  have hreordered : orderlySession.Reordered shuffledSession := {
    origin := rfl
    name := rfl
    timing := rfl
    connection := rfl
    attributes := by decide
    groups := ⟨[⟨"FEC", ["1", "4", "5"]⟩, ⟨"FID", ["2", "3"]⟩], by decide +kernel,
      hgroups ▸ .cons ⟨rfl, by decide⟩ (.cons ⟨rfl, by decide⟩ .nil)⟩
    media := by decide +kernel
    fec := by decide +kernel
    mp2t := by decide +kernel }
  obtain ⟨e, he, hmode⟩ := exists_ok_of_any (x := extractChannel orderlySession.view .linear)
    (p := fun e => e.channel.mode = .source ∧ e.channel.fec2.isSome = true
      ∧ e.warnings.length = 5) (by decide +kernel)
  exact ⟨hreordered, e, he, hmode, extractChannel_of_reordered hreordered he⟩

end Lineup
