/-
  Lineup.Proofs.Extraction.Media
  ──────────────────────────────
  **EVERY STREAM COMES BACK IN ITS PART.**  Sorting the media streams of a session
  loses none of them, and every part is played by a stream whose form allows it.
  The media streams that a channel is written as are sorted into the parts they
  were written for.

  Main results:
    * `Parts.formed_of_ofView` — what is known of the parts of any session;
    * `Endpoint.mediaLine_toMedia` — a canonical media stream has the right form;
    * `Channel.Formed.parts_written` — the streams of a channel, read as parts.
-/
import Lineup.Proofs.Extraction.Endpoint
import Lineup.Proofs.Except

namespace Lineup

open Text

/-! ## §1. The form of a media stream. -/

/-- What an encoding asks of the transport and the address. -/
def Encoding.Allows : Encoding → Transport → Ipv4 → Prop
  | .mp2t, _, _ => True
  | .rtx, t, addr => t = .rtpFeedback ∧ addr.isMulticast = false
  | .fec, t, _ => t.isRtp = true

/-- The encoding of the streams of a kind. -/
def StreamKind.encoding : StreamKind → Encoding
  | primary => .mp2t
  | resourced => .mp2t
  | retransmission => .rtx
  | fec1 => .fec
  | fec2 => .fec

theorem MediaLine.encoding_allows {l : MediaLine} {name : List Char} {enc : Encoding}
    (h : l.encoding name = .ok enc) : enc.Allows l.transport l.addr := by
  unfold encoding at h
  dsimp only at h
  split at h
  · cases h
    exact trivial
  · -- what `rtx` asks for is checked in two steps
    split at h
    · split at h
      · cases h
      · next ht =>
        split at h
        · cases h
        · next hm =>
          cases h
          exact ⟨not_not.1 ht, by simpa using hm⟩
    · split at h
      · split at h
        · next hrtp =>
          cases h
          exact hrtp
        · cases h
      · cases h

theorem MediaLine.encoding_canonical {l : MediaLine} {kind : StreamKind}
    (h : kind.encoding.Allows l.transport l.addr) :
    l.encoding kind.encodingName.toList = .ok kind.encoding := by
  unfold encoding
  cases kind with
  | primary => rfl
  | resourced => rfl
  | retransmission =>
    obtain ⟨ht, hm⟩ := h
    rw [ht, hm]
    rfl
  | fec1 =>
    have hrtp : l.transport.isRtp = true := h
    rw [hrtp]
    rfl
  | fec2 =>
    have hrtp : l.transport.isRtp = true := h
    rw [hrtp]
    rfl

/-- A media stream has the right form exactly if every part of it has. -/
theorem SessionView.mediaLine_eq_ok_iff {v : SessionView} {i : Nat} {l : MediaLine}
    {enc : Encoding} :
    v.mediaLine i = .ok (l, enc) ↔
      ∃ connection name, v.media? i = some l.media ∧ l.media.payloadType i = .ok l.payloadType
        ∧ Transport.ofProtocol? l.media.protocol = some l.transport
        ∧ v.mediaConnection i = some connection ∧ connection.ipv4 = .ok l.addr
        ∧ connection.ttl = l.ttl ∧ i = l.index
        ∧ l.media.encodingName i l.payloadType = .ok name ∧ l.encoding name = .ok enc := by
  constructor
  · intro h
    unfold mediaLine at h
    -- one stage after another, as they are run
    cases hmedia : v.media? i with
    | none =>
      rw [hmedia] at h
      cases h
    | some m =>
      rw [hmedia] at h
      obtain ⟨pt, hpt, h₁⟩ := bind_eq_ok_iff.1 h
      cases ht : Transport.ofProtocol? m.protocol with
      | none =>
        rw [ht] at h₁
        cases h₁
      | some t =>
        rw [ht] at h₁
        obtain ⟨_, ⟨⟩, h₂⟩ := bind_eq_ok_iff.1 h₁
        cases hc : v.mediaConnection i with
        | none =>
          rw [hc] at h₂
          cases h₂
        | some c =>
          rw [hc] at h₂
          obtain ⟨_, ⟨⟩, h₃⟩ := bind_eq_ok_iff.1 h₂
          obtain ⟨addr, haddr, h₄⟩ := bind_eq_ok_iff.1 h₃
          obtain ⟨name, hname, h₅⟩ := bind_eq_ok_iff.1 h₄
          obtain ⟨enc', henc, h₆⟩ := bind_eq_ok_iff.1 h₅
          obtain ⟨rfl, rfl⟩ := Prod.mk.inj (Except.ok.inj h₆)
          exact ⟨c, name, rfl, hpt, ht, rfl, haddr, rfl, rfl, hname, henc⟩
  · rintro ⟨c, name, hmedia, hpt, ht, hc, haddr, httl, rfl, hname, henc⟩
    unfold mediaLine
    rw [hmedia]
    refine bind_eq_ok_iff.2 ⟨l.payloadType, hpt, ?_⟩
    rw [ht, hc]
    refine bind_eq_ok_iff.2 ⟨l.transport, rfl, bind_eq_ok_iff.2 ⟨c, rfl, ?_⟩⟩
    refine bind_eq_ok_iff.2 ⟨l.addr, haddr, bind_eq_ok_iff.2 ⟨name, hname, ?_⟩⟩
    rw [httl]
    exact bind_eq_ok_iff.2 ⟨enc, henc, rfl⟩

theorem Media.isPayloadType_of_payloadType {m : Media} {i : Nat} {pt : UInt8}
    (h : m.payloadType i = .ok pt) : isPayloadType pt = true := by
  unfold payloadType at h
  split at h
  · split at h
    · split at h
      · next hpt =>
        cases h
        exact hpt
      · cases h
    · cases h
  · cases h

/-! ## §2. The form of a canonical media stream. -/

theorem checkPayloadType_decimal (index : Nat) (name : String) (pt : UInt8) :
    checkPayloadType index name pt (decimal pt.toNat).toList = .ok () := by
  have htrim : trim (decimal pt.toNat).toList = (decimal pt.toNat).toList :=
    trim_of_free (isWord_number pt.toNat).2
  unfold checkPayloadType
  rw [htrim, uint8?_decimal, if_pos rfl]

/-- The name behind the payload type of an `rtpmap` attribute. -/
theorem StreamKind.takeWhile_encodingName (kind : StreamKind) :
    (trim (kind.encodingName.toList ++ "/90000".toList)).takeWhile (· != '/')
      = kind.encodingName.toList := by
  cases kind with
  | _ => decide

section Canonical

variable {e : Endpoint} {kind : StreamKind} {fbt : Option Ipv4} {before : List Bandwidth}
  {behind : List Attribute}

theorem Endpoint.payloadType_toMedia (hpt : isPayloadType e.payloadType = true) (i : Nat) :
    (e.toMedia kind fbt before behind).payloadType i = .ok e.payloadType := by
  have hformats : (e.toMedia kind fbt before behind).formats = [decimal e.payloadType.toNat] := rfl
  unfold Media.payloadType
  rw [hformats]
  dsimp only
  rw [uint8?_decimal]
  dsimp only
  rw [if_pos hpt]

theorem Endpoint.encodingName_toMedia (hbehind : Special behind) (i : Nat) :
    (e.toMedia kind fbt before behind).encodingName i e.payloadType
      = .ok kind.encodingName.toList := by
  -- the payload type has digits only, so the first space ends it
  have hcut : cut (· == ' ') (e.ptText ++ " " ++ kind.encodingName ++ "/90000").toList
      = some (e.ptText.toList, kind.encodingName.toList ++ "/90000".toList) := by
    have hlist : (e.ptText ++ " " ++ kind.encodingName ++ "/90000").toList
        = e.ptText.toList ++ ' ' :: (kind.encodingName.toList ++ "/90000".toList) := by
      simp
    rw [hlist]
    refine cut_append (fun c hc => ?_) (by decide)
    have hne : c ≠ ' ' := ne_of_isDigit (isDigit_of_mem_decimal hc) (by decide)
    simpa using hne
  unfold Media.encodingName
  rw [attributeValue_rtpmap hbehind]
  dsimp only
  rw [hcut]
  show (checkPayloadType i "rtpmap" e.payloadType (decimal e.payloadType.toNat).toList >>= _) = _
  rw [checkPayloadType_decimal]
  show (if ((trim (kind.encodingName.toList ++ "/90000".toList)).takeWhile (· != '/')).isEmpty
    then _ else pure _) = _
  rw [kind.takeWhile_encodingName, if_neg]
  · rfl
  · cases kind with
    | _ => decide

theorem ipv4_ip4 (addr : Ipv4) (ttl : Option UInt8) :
    (Connection.ip4 (toString addr) ttl).ipv4 = .ok addr := by
  unfold Connection.ipv4 Connection.ip4
  rw [if_neg (by simp)]
  dsimp only
  rw [Ipv4.ofString?_toString]

/-- **A canonical media stream has the right form** for the kind it was written for. -/
theorem Endpoint.mediaLine_toMedia {v : SessionView} {i : Nat}
    (hmedia : v.media? i = some (e.toMedia kind fbt before behind))
    (hpt : isPayloadType e.payloadType = true)
    (hallows : kind.encoding.Allows e.transport e.addr) (hbehind : Special behind) :
    v.mediaLine i = .ok (e.line i (e.toMedia kind fbt before behind), kind.encoding) := by
  have hconnection : v.mediaConnection i = some (.ip4 (toString e.addr) e.ttl) := by
    unfold SessionView.mediaConnection
    rw [hmedia]
    rfl
  rw [SessionView.mediaLine_eq_ok_iff]
  exact ⟨_, _, hmedia, payloadType_toMedia hpt i, e.transport.ofProtocol?_protocol, hconnection,
    ipv4_ip4 e.addr e.ttl, rfl, rfl, encodingName_toMedia hbehind i,
    MediaLine.encoding_canonical hallows⟩

end Canonical

/-! ## §3. Sorting. -/

namespace MediaLines

/-- What is known once so many media streams are sorted. -/
structure Sorted (v : SessionView) (n : Nat) (ls : MediaLines) : Prop where
  mp2t : ∀ l ∈ ls.mp2t, ∃ i, v.mediaLine i = .ok (l, .mp2t)
  rtx : ∀ l, ls.rtx = some l → ∃ i, v.mediaLine i = .ok (l, .rtx)
  fec : ∀ l ∈ ls.fec, ∃ i, v.mediaLine i = .ok (l, .fec)
  two : ls.fec.length ≤ 2
  count : ls.mp2t.length + ls.rtx.toList.length + ls.fec.length = n

variable {v : SessionView} {n : Nat} {ls ls' : MediaLines} {l : MediaLine} {enc : Encoding}

/-- Each encoding adds to its own list, if that has room. -/
theorem add_eq_ok_iff : ls.add l enc = .ok ls' ↔
    (enc = .mp2t ∧ ls' = { ls with mp2t := ls.mp2t ++ [l] })
      ∨ (enc = .rtx ∧ ls.rtx = none ∧ ls' = { ls with rtx := some l })
      ∨ (enc = .fec ∧ ls.fec.length ≠ 2 ∧ ls' = { ls with fec := ls.fec ++ [l] }) := by
  have hok : ∀ ks : MediaLines,
      (.ok ks : Except ValidationError MediaLines) = .ok ls' ↔ ls' = ks := by
    intro ks
    rw [Except.ok.injEq, eq_comm]
  unfold add
  cases enc with
  | mp2t => simp [hok]
  | rtx => simp [refuse_eq_ok_iff, hok]
  | fec => simp [refuse_eq_ok_iff, hok]

/-- One step of sorting. -/
theorem ofView_succ_eq_ok_iff :
    ofView { v with mediaCount := n + 1 } = .ok ls ↔
      ∃ before l enc, ofView { v with mediaCount := n } = .ok before
        ∧ v.mediaLine n = .ok (l, enc) ∧ before.add l enc = .ok ls := by
  unfold ofView
  rw [List.range_succ, List.foldlM_append, bind_eq_ok_iff]
  refine exists_congr fun before => ?_
  constructor
  · intro h
    obtain ⟨hbefore, hlast⟩ := h
    obtain ⟨_, hstep, hnil⟩ := bind_eq_ok_iff.1 hlast
    obtain ⟨⟨l, enc⟩, hl, hadd⟩ := bind_eq_ok_iff.1 hstep
    cases hnil
    exact ⟨l, enc, hbefore, hl, hadd⟩
  · intro h
    obtain ⟨l, enc, hbefore, hl, hadd⟩ := h
    exact ⟨hbefore, bind_eq_ok_iff.2 ⟨ls, bind_eq_ok_iff.2 ⟨(l, enc), hl, hadd⟩, rfl⟩⟩

theorem Sorted.add {i : Nat} (h : Sorted v n ls) (hl : v.mediaLine i = .ok (l, enc))
    (hadd : ls.add l enc = .ok ls') : Sorted v (n + 1) ls' := by
  have hcount := h.count
  have hnew : ∀ ks : List MediaLine, (∀ k ∈ ks, ∃ i, v.mediaLine i = .ok (k, enc)) →
      ∀ k ∈ ks ++ [l], ∃ i, v.mediaLine i = .ok (k, enc) := by
    intro ks hks k hk
    rcases List.mem_append.1 hk with hk | hk
    · exact hks k hk
    · rw [List.mem_singleton.1 hk]
      exact ⟨i, hl⟩
  -- each encoding adds to one list; a second `rtx` and a third `fec` are refused
  rcases add_eq_ok_iff.1 hadd with ⟨rfl, rfl⟩ | ⟨rfl, hnone, rfl⟩ | ⟨rfl, hroom, rfl⟩
  · refine ⟨hnew _ h.mp2t, h.rtx, h.fec, h.two, ?_⟩
    show (ls.mp2t ++ [l]).length + ls.rtx.toList.length + ls.fec.length = n + 1
    rw [List.length_append, List.length_singleton]
    omega
  · refine ⟨h.mp2t, ?_, h.fec, h.two, ?_⟩
    · intro l' hl'
      obtain rfl := Option.some.inj hl'
      exact ⟨i, hl⟩
    · rw [hnone, Option.toList_none, List.length_nil] at hcount
      show ls.mp2t.length + 1 + ls.fec.length = n + 1
      omega
  · have htwo := h.two
    have hlength : (ls.fec ++ [l]).length = ls.fec.length + 1 := List.length_append
    refine ⟨h.mp2t, h.rtx, hnew _ h.fec, ?_, ?_⟩
    · show (ls.fec ++ [l]).length ≤ 2
      omega
    · show ls.mp2t.length + ls.rtx.toList.length + (ls.fec ++ [l]).length = n + 1
      omega

/-- Sorting loses no media stream. -/
theorem sorted_ofView (h : ofView v = .ok ls) : Sorted v v.mediaCount ls := by
  have hpart : ∀ (n : Nat) (ls : MediaLines), ofView { v with mediaCount := n } = .ok ls →
      Sorted v n ls := by
    intro n
    -- on the number of media streams; the last one was added last
    induction n with
    | zero =>
      intro ls h
      cases h
      exact ⟨by simp [empty], by simp [empty], by simp [empty], by decide, rfl⟩
    | succ n ih =>
      intro ls h
      obtain ⟨before, l, enc, hbefore, hl, hadd⟩ := ofView_succ_eq_ok_iff.1 h
      exact (ih before hbefore).add hl hadd
  exact hpart v.mediaCount ls h

/-! ## §4. The primary stream and its copy. -/

theorem withResourced_eq_ok {l p : MediaLine} {rest : List MediaLine} {r : Option MediaLine}
    (h : withResourced l rest = .ok (p, r)) : p = l ∧ rest = r.toList := by
  unfold withResourced at h
  split at h
  · cases h
    exact ⟨rfl, rfl⟩
  · cases h
    exact ⟨rfl, rfl⟩
  · cases h

/-- Telling the primary stream from its copy loses no transport stream. -/
theorem perm_of_splitPrimary {mp2t : List MediaLine} {p : MediaLine} {r : Option MediaLine}
    (h : splitPrimary mp2t = .ok (p, r)) : mp2t.Perm (p :: r.toList) := by
  have hperm : mp2t.Perm ((mp2t.partition hasBitRate).1 ++ (mp2t.partition hasBitRate).2) := by
    rw [List.partition_eq_filter_filter]
    exact (List.filter_append_perm hasBitRate mp2t).symm
  -- the primary is the only stream with a bit rate, or else the first
  unfold splitPrimary at h
  split at h
  · next l rest heq =>
    obtain ⟨rfl, hrest⟩ := withResourced_eq_ok h
    rw [heq, hrest] at hperm
    exact hperm
  · cases h
  · next l rest heq =>
    obtain ⟨rfl, hrest⟩ := withResourced_eq_ok h
    rw [heq, hrest] at hperm
    exact hperm
  · cases h

end MediaLines

/-! ## §5. Parts. -/

/-- How many media streams play a part. -/
def Parts.count (p : Parts) : Nat :=
  1 + p.resourced.toList.length + p.rtx.toList.length + p.fec1.toList.length + p.fec2.toList.length

/-- What is known of the parts of a session of a channel type. -/
structure Parts.Formed (v : SessionView) (channelType : ChannelType) (p : Parts) : Prop where
  primary : ∃ i, v.mediaLine i = .ok (p.primary, .mp2t)
  resourced : ∀ l, p.resourced = some l →
    (∃ i, v.mediaLine i = .ok (l, .mp2t)) ∧ l.transport.isRtp = true
  rtx : ∀ l, p.rtx = some l → ∃ i, v.mediaLine i = .ok (l, .rtx)
  fec1 : ∀ l, p.fec1 = some l → ∃ i, v.mediaLine i = .ok (l, .fec)
  fec2 : ∀ l, p.fec2 = some l → ∃ i, v.mediaLine i = .ok (l, .fec)
  inOrder : p.fec1 = none → p.fec2 = none
  linear : channelType = .linear →
    (∀ x ∈ p.distribution, x.2.addr.isMulticast = true) ∧ p.primary.media.port ≠ 0
  count : p.count = v.mediaCount

theorem Parts.checkLinear_eq_ok_iff {p : Parts} :
    p.checkLinear = .ok () ↔
      (∀ x ∈ p.distribution, x.2.addr.isMulticast = true) ∧ p.primary.media.port ≠ 0 := by
  have hone : ∀ x, checkMulticast x = .ok () ↔ x.2.addr.isMulticast = true := by
    rintro ⟨kind, l⟩
    unfold checkMulticast
    by_cases h : l.addr.isMulticast = true
    · simp [h]
    · simp [h]
  unfold checkLinear
  rw [check_bind_eq_ok_iff, forM_eq_ok_iff]
  simp only [hone]
  refine and_congr_right fun _ => ?_
  by_cases hport : p.primary.media.port = 0
  · simp [hport]
  · simp [hport, pure, Except.pure]

/-- What it takes to tell the parts of a session. -/
theorem Parts.ofView_eq_ok_iff {v : SessionView} {channelType : ChannelType} {p : Parts} :
    ofView v channelType = .ok p ↔
      ∃ ls q r, MediaLines.ofView v = .ok ls ∧ MediaLines.splitPrimary ls.mp2t = .ok (q, r)
        ∧ (∀ l, r = some l → l.transport.isRtp = true)
        ∧ p = ⟨q, r, ls.rtx, ls.fec[0]?, ls.fec[1]?⟩
        ∧ (channelType = .linear → p.checkLinear = .ok ()) := by
  -- the last check is for one channel type only
  have hlast : ∀ p' : Parts,
      (if channelType = .linear then do
        p'.checkLinear
        pure p'
      else pure p') = (.ok p : Except ValidationError Parts) ↔
      p = p' ∧ (channelType = .linear → p.checkLinear = .ok ()) := by
    intro p'
    have hpure : (pure p' : Except ValidationError Parts) = .ok p ↔ p = p' := by
      rw [eq_comm (a := p)]
      exact Except.ok.injEq p' p ▸ Iff.rfl
    by_cases hlinear : channelType = .linear
    · rw [if_pos hlinear, check_bind_eq_ok_iff, hpure]
      constructor
      · rintro ⟨hcheck, rfl⟩
        exact ⟨rfl, fun _ => hcheck⟩
      · rintro ⟨rfl, hcheck⟩
        exact ⟨hcheck hlinear, rfl⟩
    · rw [if_neg hlinear, hpure]
      exact ⟨fun h => ⟨h, fun hl => absurd hl hlinear⟩, fun h => h.1⟩
  constructor
  · intro h
    unfold ofView at h
    obtain ⟨ls, hls, h₁⟩ := bind_eq_ok_iff.1 h
    obtain ⟨⟨q, r⟩, hsplit, h₂⟩ := bind_eq_ok_iff.1 h₁
    cases r with
    | none =>
      refine ⟨ls, q, none, hls, hsplit, ?_, (hlast _).1 h₂⟩
      intro l hl
      cases hl
    | some l =>
      dsimp only at h₂
      by_cases hrtp : l.transport.isRtp = true
      · rw [if_neg (by simp [hrtp])] at h₂
        refine ⟨ls, q, some l, hls, hsplit, ?_, (hlast _).1 h₂⟩
        rintro l' ⟨⟩
        exact hrtp
      · rw [if_pos (by simpa using hrtp)] at h₂
        cases h₂
  · rintro ⟨ls, q, r, hls, hsplit, hrtp, hp, hlinear⟩
    unfold ofView
    refine bind_eq_ok_iff.2 ⟨ls, hls, bind_eq_ok_iff.2 ⟨(q, r), hsplit, ?_⟩⟩
    cases r with
    | none => exact (hlast _).2 ⟨hp, hlinear⟩
    | some l =>
      dsimp only
      rw [if_neg (by simp [hrtp l rfl])]
      exact (hlast _).2 ⟨hp, hlinear⟩

/-- The first two entries of a list without more. -/
theorem length_firstTwo {α : Type} {l : List α} (hle : l.length ≤ 2) :
    l[0]?.toList.length + l[1]?.toList.length = l.length := by
  cases l with
  | nil => simp
  | cons a l =>
    cases l with
    | nil => simp
    | cons b l =>
      cases l with
      | nil => simp
      | cons c l =>
        simp only [List.length_cons] at hle
        omega

/-- **The parts of a session** are media streams of it, every one in the form that its
part asks for, and there are as many of them as there are media streams. -/
theorem Parts.formed_of_ofView {v : SessionView} {channelType : ChannelType} {p : Parts}
    (h : ofView v channelType = .ok p) : p.Formed v channelType := by
  obtain ⟨ls, q, r, hls, hsplit, hrtp, rfl, hlinear⟩ := ofView_eq_ok_iff.1 h
  have hsorted := MediaLines.sorted_ofView hls
  have hperm := MediaLines.perm_of_splitPrimary hsplit
  refine ⟨?_, ?_, hsorted.rtx, ?_, ?_, ?_, ?_, ?_⟩
  · -- the primary
    exact hsorted.mp2t q (hperm.mem_iff.2 List.mem_cons_self)
  · intro l hl
    refine ⟨hsorted.mp2t l (hperm.mem_iff.2 (List.mem_cons_of_mem q ?_)), hrtp l hl⟩
    rw [Option.mem_toList]
    exact hl
  · intro l hl
    exact hsorted.fec l (List.mem_of_getElem? hl)
  · intro l hl
    exact hsorted.fec l (List.mem_of_getElem? hl)
  · intro hnone
    have hlen := List.getElem?_eq_none_iff.1 hnone
    exact List.getElem?_eq_none_iff.2 (hlen.trans (Nat.zero_le 1))
  · intro hlin
    exact checkLinear_eq_ok_iff.1 (hlinear hlin)
  · -- every stream is in one list, and every entry of a list has a part
    have hmp2t := hperm.length_eq
    have hcount := hsorted.count
    have htwo := hsorted.two
    have hboth := length_firstTwo htwo
    rw [List.length_cons] at hmp2t
    show 1 + r.toList.length + ls.rtx.toList.length + ls.fec[0]?.toList.length
      + ls.fec[1]?.toList.length = v.mediaCount
    omega

/-- The media stream that plays the part of a kind. -/
def Parts.line? (p : Parts) : StreamKind → Option MediaLine
  | .primary => some p.primary
  | .resourced => p.resourced
  | .retransmission => p.rtx
  | .fec1 => p.fec1
  | .fec2 => p.fec2

theorem Parts.mem_distribution {p : Parts} {kind : StreamKind} {l : MediaLine}
    (hkind : kind ≠ .retransmission) (hl : p.line? kind = some l) :
    (kind, l) ∈ p.distribution := by
  unfold distribution
  cases kind with
  | primary =>
    obtain rfl := Option.some.inj hl
    simp
  | resourced =>
    have hpart : p.resourced = some l := hl
    simp [hpart]
  | retransmission => exact absurd rfl hkind
  | fec1 =>
    have hpart : p.fec1 = some l := hl
    simp [hpart]
  | fec2 =>
    have hpart : p.fec2 = some l := hl
    simp [hpart]

/-- Every part is played by a media stream with the encoding of its kind. -/
theorem Parts.Formed.mediaLine {v : SessionView} {channelType : ChannelType} {p : Parts}
    (h : p.Formed v channelType) {kind : StreamKind} {l : MediaLine}
    (hl : p.line? kind = some l) : ∃ i, v.mediaLine i = .ok (l, kind.encoding) := by
  cases kind with
  | primary =>
    obtain rfl := Option.some.inj hl
    exact h.primary
  | resourced => exact (h.resourced l hl).1
  | retransmission => exact h.rtx l hl
  | fec1 => exact h.fec1 l hl
  | fec2 => exact h.fec2 l hl

/-! ## §6. The media streams of a channel. -/

/-- A stream with the part it plays and the media stream it is written as. -/
structure Written where
  /-- Which part it plays. -/
  kind : StreamKind
  /-- What it is. -/
  endpoint : Endpoint
  /-- What is written of it. -/
  media : Media

/-- What a written stream is read as at a position. -/
def Written.entry (index : Nat) (w : Written) : MediaLine × Encoding :=
  (w.endpoint.line index w.media, w.kind.encoding)

namespace Channel

/-- The streams of a channel, as they are written. -/
def written (c : Channel) : List Written :=
  [⟨.primary, c.primary.endpoint, c.primaryMedia⟩]
    ++ (c.resourced.map fun e => ⟨.resourced, e, plainMedia .resourced e⟩).toList
    ++ (c.rtx.map fun r => ⟨.retransmission, r.endpoint, rtxMedia r⟩).toList
    ++ (c.fec1.map fun e => ⟨.fec1, e, plainMedia .fec1 e⟩).toList
    ++ (c.fec2.map fun e => ⟨.fec2, e, plainMedia .fec2 e⟩).toList

theorem map_media_written (c : Channel) : c.written.map (·.media) = c.toMedia := by
  unfold written toMedia
  cases c.resourced with
  | _ => cases c.rtx with
    | _ => cases c.fec1 with
      | _ => cases c.fec2 with
        | _ => rfl

theorem map_endpoint_written (c : Channel) :
    c.written.map (fun w => (w.kind, w.endpoint)) = c.endpoints := by
  unfold written endpoints streamOrder
  simp only [List.filterMap_cons, List.filterMap_nil, endpoint?]
  cases c.resourced with
  | _ => cases c.rtx with
    | _ => cases c.fec1 with
      | _ => cases c.fec2 with
        | _ => rfl

/-- What stands behind the attributes that every stream has is special to its kind. -/
theorem canonical_of_mem_written {c : Channel} {w : Written} (hw : w ∈ c.written) :
    ∃ fbt before behind, w.media = w.endpoint.toMedia w.kind fbt before behind
      ∧ Special behind := by
  have hnil : Special [] := by
    intro a ha
    cases ha
  unfold written at hw
  simp only [List.mem_append, List.mem_singleton, Option.mem_toList, Option.map_eq_some_iff] at hw
  -- the primary and the stream for repair have attributes of their own
  rcases hw with (((rfl | ⟨e, -, rfl⟩) | ⟨r, -, rfl⟩) | ⟨e, -, rfl⟩) | ⟨e, -, rfl⟩
  · refine ⟨_, _, _, rfl, ?_⟩
    intro a ha
    rcases List.mem_append.1 ha with ha | ha
    · rcases List.mem_append.1 ha with ha | ha
      · rw [eq_of_mem_ite ha]
        exact List.mem_cons_self
      · rw [eq_of_mem_ite ha]
        exact List.mem_cons_self
    · exact XrSettings.special_attributes _ a ha
  · exact ⟨_, _, _, rfl, hnil⟩
  · refine ⟨_, _, _, rfl, ?_⟩
    intro a ha
    rcases List.mem_cons.1 ha with rfl | ha
    · simp [Attribute.valued]
    · exact XrSettings.special_attributes _ a ha
  · exact ⟨_, _, _, rfl, hnil⟩
  · exact ⟨_, _, _, rfl, hnil⟩

/-- The streams of a channel have the form that their parts ask for. -/
structure Formed (c : Channel) : Prop where
  form : ∀ x ∈ c.endpoints, isPayloadType x.2.payloadType = true
    ∧ x.1.encoding.Allows x.2.transport x.2.addr
  resourced : ∀ e, c.resourced = some e → e.transport.isRtp = true
  inOrder : c.fec1 = none → c.fec2 = none
  linear : c.channelType = .linear →
    (∀ x ∈ c.distributed, x.2.addr.isMulticast = true) ∧ c.primary.endpoint.rtpPort ≠ 0

end Channel

/-! ## §7. Sorting what was written. -/

namespace MediaLines

variable {v : SessionView} {ls : MediaLines}

/-- Sorting goes through the media streams in order. -/
theorem ofView_eq {entries : List (MediaLine × Encoding)} (hcount : v.mediaCount = entries.length)
    (h : ∀ i (hi : i < entries.length), v.mediaLine i = .ok entries[i]) :
    ofView v = entries.foldlM (fun (ls : MediaLines) p => ls.add p.1 p.2) empty := by
  -- by induction on the entries, from any position on
  have hfrom : ∀ (k : Nat) (ls : MediaLines),
      (∀ i (hi : i < entries.length), v.mediaLine (k + i) = .ok entries[i]) →
      (List.range' k entries.length).foldlM (fun (ls : MediaLines) index =>
        v.mediaLine index >>= fun p => ls.add p.1 p.2) ls
        = entries.foldlM (fun (ls : MediaLines) p => ls.add p.1 p.2) ls := by
    clear hcount h
    induction entries with
    | nil =>
      intro k ls _
      rfl
    | cons p entries ih =>
      intro k ls h
      have hfirst : v.mediaLine k = .ok p := h 0 (Nat.succ_pos _)
      have hrest : ∀ i (hi : i < entries.length), v.mediaLine (k + 1 + i) = .ok entries[i] := by
        intro i hi
        rw [Nat.add_assoc, Nat.add_comm 1 i]
        exact h (i + 1) (Nat.succ_lt_succ hi)
      rw [List.length_cons, List.range'_succ, List.foldlM_cons, List.foldlM_cons, hfirst]
      show (ls.add p.1 p.2 >>= fun ls => _) = _
      refine congrArg _ (funext fun ls' => ?_)
      exact ih (k + 1) ls' hrest
  unfold ofView
  rw [hcount, List.range_eq_range']
  refine hfrom 0 empty fun i hi => ?_
  rw [Nat.zero_add]
  exact h i hi

theorem foldlM_mp2t (ls : MediaLines) (o : Option MediaLine) :
    (o.map (·, Encoding.mp2t)).toList.foldlM (fun (ls : MediaLines) p => ls.add p.1 p.2) ls
      = .ok { ls with mp2t := ls.mp2t ++ o.toList } := by
  cases o with
  | none =>
    show Except.ok ls = _
    rw [Option.toList_none, List.append_nil]
  | some l => rfl

theorem foldlM_rtx (h : ls.rtx = none) (o : Option MediaLine) :
    (o.map (·, Encoding.rtx)).toList.foldlM (fun (ls : MediaLines) p => ls.add p.1 p.2) ls
      = .ok { ls with rtx := o } := by
  cases o with
  | none =>
    show Except.ok ls = .ok ⟨ls.mp2t, none, ls.fec⟩
    rw [← h]
  | some l =>
    show (if ls.rtx.isSome then _ else _) >>= pure = _
    rw [h]
    rfl

theorem foldlM_fec (o : Option MediaLine) (h : ls.fec.length < 2) :
    (o.map (·, Encoding.fec)).toList.foldlM (fun (ls : MediaLines) p => ls.add p.1 p.2) ls
      = .ok { ls with fec := ls.fec ++ o.toList } := by
  cases o with
  | none =>
    show Except.ok ls = _
    rw [Option.toList_none, List.append_nil]
  | some l =>
    show (if ls.fec.length = 2 then _ else _) >>= pure = _
    rw [if_neg (Nat.ne_of_lt h)]
    rfl

/-- The first transport stream is the primary one if no other states a bit rate. -/
theorem splitPrimary_cons {p : MediaLine} {r : Option MediaLine}
    (hr : ∀ l, r = some l → hasBitRate l = false) :
    splitPrimary (p :: r.toList) = .ok (p, r) := by
  have hrest : ∀ l ∈ r.toList, hasBitRate l = false := by
    intro l hl
    exact hr l (Option.mem_toList.1 hl)
  have hwith : withResourced p r.toList = .ok (p, r) := by
    cases r with
    | _ => rfl
  unfold splitPrimary
  rw [List.partition_eq_filter_filter]
  -- the primary may state a bit rate or not; either way it comes first
  by_cases hp : hasBitRate p = true
  · have hyes : (p :: r.toList).filter hasBitRate = [p] := by
      rw [List.filter_cons_of_pos hp, List.filter_eq_nil_iff.2]
      intro l hl
      simp [hrest l hl]
    have hno : (p :: r.toList).filter (not ∘ hasBitRate) = r.toList := by
      rw [List.filter_cons_of_neg (by simp [hp]), List.filter_eq_self.2]
      intro l hl
      simp [hrest l hl]
    rw [hyes, hno]
    exact hwith
  · have hyes : (p :: r.toList).filter hasBitRate = [] := by
      rw [List.filter_cons_of_neg hp, List.filter_eq_nil_iff.2]
      intro l hl
      simp [hrest l hl]
    have hno : (p :: r.toList).filter (not ∘ hasBitRate) = p :: r.toList := by
      rw [List.filter_cons_of_pos (by simp [hp]), List.filter_eq_self.2]
      intro l hl
      simp [hrest l hl]
    rw [hyes, hno]
    exact hwith

end MediaLines

/-! ## §8. The parts of a channel. -/

/-- The bandwidths of the control protocol are no bit rate. -/
theorem Endpoint.find_bandwidths (e : Endpoint) :
    e.bandwidths.find? (·.kind == "AS") = none := by
  rw [List.find?_eq_none]
  intro b hb
  unfold bandwidths at hb
  simp only [List.mem_append, Option.mem_toList, Option.map_eq_some_iff] at hb
  rcases hb with ⟨n, -, rfl⟩ | ⟨n, -, rfl⟩
  · simp
  · simp

/-- Parts that are played by the streams of a channel, at some positions. -/
structure Parts.Play (p : Parts) (c : Channel) : Prop where
  primary : ∃ i, p.primary = c.primary.endpoint.line i c.primaryMedia
  resourced : ∃ i, p.resourced = c.resourced.map fun e => e.line i (Channel.plainMedia .resourced e)
  rtx : ∃ i, p.rtx = c.rtx.map fun r => r.endpoint.line i (Channel.rtxMedia r)
  fec1 : ∃ i, p.fec1 = c.fec1.map fun e => e.line i (Channel.plainMedia .fec1 e)
  fec2 : ∃ i, p.fec2 = c.fec2.map fun e => e.line i (Channel.plainMedia .fec2 e)

theorem Parts.Play.map_addr_distribution {p : Parts} {c : Channel} (h : p.Play c) :
    p.distribution.map (·.2.addr) = c.distributed.map (·.2.addr) := by
  obtain ⟨⟨i, hprimary⟩, ⟨j, hresourced⟩, -, ⟨l, hfec1⟩, ⟨m, hfec2⟩⟩ := h
  unfold distribution Channel.distributed Channel.endpoints Channel.streamOrder
  rw [hprimary, hresourced, hfec1, hfec2]
  simp only [List.filterMap_cons, List.filterMap_nil, Channel.endpoint?]
  cases c.resourced with
  | _ => cases c.rtx with
    | _ => cases c.fec1 with
      | _ => cases c.fec2 with
        | _ => rfl

namespace Channel.Formed

variable {c : Channel} {v : SessionView}

theorem mediaLine_written (h : c.Formed) (hmedia : ∀ i, v.media? i = c.toMedia[i]?) {i : Nat}
    (hi : i < c.written.length) : v.mediaLine i = .ok (c.written[i].entry i) := by
  have hmem : c.written[i] ∈ c.written := List.getElem_mem hi
  obtain ⟨fbt, before, behind, hcanon, hspecial⟩ := canonical_of_mem_written hmem
  obtain ⟨hpt, hallows⟩ := h.form (c.written[i].kind, c.written[i].endpoint) (by
    rw [← c.map_endpoint_written]
    exact List.mem_map_of_mem hmem)
  have hview : v.media? i = some c.written[i].media := by
    rw [hmedia, ← c.map_media_written, List.getElem?_map, List.getElem?_eq_getElem hi]
    rfl
  unfold Written.entry
  rw [hcanon] at hview ⊢
  exact Endpoint.mediaLine_toMedia hview hpt hallows hspecial

theorem sorted_written (h : c.Formed) (hmedia : ∀ i, v.media? i = c.toMedia[i]?)
    (hcount : v.mediaCount = c.toMedia.length) :
    ∃ i j k l m, MediaLines.ofView v = .ok
      ⟨c.primary.endpoint.line i c.primaryMedia
          :: (c.resourced.map fun e => e.line j (plainMedia .resourced e)).toList,
        c.rtx.map fun r => r.endpoint.line k (rtxMedia r),
        (c.fec1.map fun e => e.line l (plainMedia .fec1 e)).toList
          ++ (c.fec2.map fun e => e.line m (plainMedia .fec2 e)).toList⟩ := by
  have hentries : MediaLines.ofView v
      = (c.written.mapIdx Written.entry).foldlM (fun (ls : MediaLines) p => ls.add p.1 p.2)
        MediaLines.empty := by
    refine MediaLines.ofView_eq ?_ ?_
    · rw [hcount, ← c.map_media_written, List.length_map, List.length_mapIdx]
    · intro i hi
      rw [List.getElem_mapIdx]
      exact h.mediaLine_written hmedia (by simpa using hi)
  -- the positions depend on which streams there are
  obtain ⟨j, k, l, m, hwritten⟩ : ∃ j k l m, c.written.mapIdx Written.entry
      = [(c.primary.endpoint.line 0 c.primaryMedia, .mp2t)]
        ++ ((c.resourced.map fun e => e.line j (plainMedia .resourced e)).map (·, .mp2t)).toList
        ++ ((c.rtx.map fun r => r.endpoint.line k (rtxMedia r)).map (·, .rtx)).toList
        ++ ((c.fec1.map fun e => e.line l (plainMedia .fec1 e)).map (·, .fec)).toList
        ++ ((c.fec2.map fun e => e.line m (plainMedia .fec2 e)).map (·, .fec)).toList := by
    refine ⟨1, 1 + c.resourced.toList.length, 1 + c.resourced.toList.length + c.rtx.toList.length,
      1 + c.resourced.toList.length + c.rtx.toList.length + c.fec1.toList.length, ?_⟩
    unfold written
    cases c.resourced with
    | _ => cases c.rtx with
      | _ => cases c.fec1 with
        | _ => cases c.fec2 with
          | _ => rfl
  refine ⟨0, j, k, l, m, ?_⟩
  rw [hentries, hwritten]
  simp only [List.foldlM_append]
  refine bind_eq_ok_iff.2 ⟨_, bind_eq_ok_iff.2 ⟨_, bind_eq_ok_iff.2 ⟨_, bind_eq_ok_iff.2 ⟨_, rfl,
    MediaLines.foldlM_mp2t _ _⟩, MediaLines.foldlM_rtx rfl _⟩, MediaLines.foldlM_fec _ ?_⟩,
    MediaLines.foldlM_fec _ ?_⟩
  · -- there is room for both `fec` streams
    exact Nat.zero_lt_two
  · cases c.fec1 with
    | none => exact Nat.zero_lt_two
    | some e => exact Nat.one_lt_two

theorem hasBitRate_plain (kind : StreamKind) (e : Endpoint) (index : Nat) :
    MediaLines.hasBitRate (e.line index (plainMedia kind e)) = false := by
  show ((e.bandwidths.find? (·.kind == "AS")).map (·.value)).isSome = false
  rw [e.find_bandwidths]
  rfl

/-- **The media streams that a channel is written as** play the parts that the streams
of the channel play. -/
theorem parts_written (h : c.Formed) (hmedia : ∀ i, v.media? i = c.toMedia[i]?)
    (hcount : v.mediaCount = c.toMedia.length) :
    ∃ p, Parts.ofView v c.channelType = .ok p ∧ p.Play c := by
  obtain ⟨i, j, k, l, m, hsorted⟩ := h.sorted_written hmedia hcount
  -- a second `fec` stream comes only behind a first
  have hfec : ∀ f g : Option MediaLine, (f = none → g = none) →
      (f.toList ++ g.toList)[0]? = f ∧ (f.toList ++ g.toList)[1]? = g := by
    intro f g hfg
    cases f with
    | none =>
      rw [hfg rfl]
      exact ⟨rfl, rfl⟩
    | some f =>
      cases g with
      | _ => exact ⟨rfl, rfl⟩
  obtain ⟨hfec1, hfec2⟩ := hfec (c.fec1.map fun e => e.line l (plainMedia .fec1 e))
    (c.fec2.map fun e => e.line m (plainMedia .fec2 e)) (by simpa using h.inOrder)
  have hplay : (Parts.mk (c.primary.endpoint.line i c.primaryMedia)
      (c.resourced.map fun e => e.line j (plainMedia .resourced e))
      (c.rtx.map fun r => r.endpoint.line k (rtxMedia r))
      (c.fec1.map fun e => e.line l (plainMedia .fec1 e))
      (c.fec2.map fun e => e.line m (plainMedia .fec2 e))).Play c :=
    ⟨⟨i, rfl⟩, ⟨j, rfl⟩, ⟨k, rfl⟩, ⟨l, rfl⟩, ⟨m, rfl⟩⟩
  refine ⟨_, ?_, hplay⟩
  refine Parts.ofView_eq_ok_iff.2 ⟨_, _, _, hsorted, MediaLines.splitPrimary_cons ?_, ?_, ?_, ?_⟩
  · intro line hline
    obtain ⟨e, -, rfl⟩ := Option.map_eq_some_iff.1 hline
    exact hasBitRate_plain .resourced e j
  · intro line hline
    obtain ⟨e, he, rfl⟩ := Option.map_eq_some_iff.1 hline
    exact h.resourced e he
  · rw [hfec1, hfec2]
  · intro hlinear
    obtain ⟨hmulti, hport⟩ := h.linear hlinear
    refine Parts.checkLinear_eq_ok_iff.2 ⟨?_, hport⟩
    intro x hx
    -- addresses are all that the check looks at
    have haddr := List.mem_map_of_mem (f := fun x : StreamKind × MediaLine => x.2.addr) hx
    rw [hplay.map_addr_distribution] at haddr
    obtain ⟨y, hy, heq⟩ := List.mem_map.1 haddr
    rw [← heq]
    exact hmulti y hy

end Channel.Formed

end Lineup
