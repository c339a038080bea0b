/-
  Lineup.Proofs.Extraction.Endpoint
  ─────────────────────────────────
  **WHAT A STREAM SAYS OF ITSELF IS READ BACK.**  An endpoint that was read from any
  media stream is in order (`Endpoint.Sound`), and an endpoint in order is read
  from its own canonical media stream, with no note but that a multicast stream has
  no source filter.

  Main results:
    * `MediaLine.endpoint_eq_passed_iff` — what it takes to read an endpoint;
    * `MediaLine.sound_of_endpoint` — an endpoint that was read is in order;
    * `Endpoint.Sound.endpoint_line` — an endpoint in order is read back.
-/
import Lineup.Proofs.Extraction.Stages
import Lineup.Proofs.Extraction.Attributes
import Lineup.Proofs.Session.Written

namespace Lineup

open Text

/-! ## §1. Reading an endpoint. -/

/-- An endpoint is what its parts are. -/
theorem MediaLine.endpoint_eq_passed_iff {l : MediaLine} {stream : StreamKind} {e : Endpoint}
    {fbt : Option Ipv4} {w : List Warning} :
    l.endpoint stream = .passed (e, fbt) w ↔
      ∃ port bw filter, l.control stream = .ok (port, fbt)
        ∧ RtcpBandwidth.read stream l.media.body = .ok bw
        ∧ l.sourceFilter stream = .passed filter w
        ∧ e = ⟨l.addr, l.ttl, filter, l.transport, l.media.port, port, l.payloadType, bw,
          .ofSection l.media.body, l.media.body.attributeValue "mid"⟩ := by
  unfold endpoint
  rw [Check.liftM_bind_eq_passed_iff]
  constructor
  · rintro ⟨⟨port, addr⟩, hcontrol, h⟩
    obtain ⟨bw, hbw, h⟩ := Check.liftM_bind_eq_passed_iff.1 h
    obtain ⟨filter, u, v, hfilter, hlast, rfl⟩ := Check.bind_eq_passed_iff.1 h
    obtain ⟨heq, rfl⟩ := Check.pure_eq_passed_iff.1 hlast
    obtain ⟨rfl, rfl⟩ := Prod.mk.inj heq
    rw [List.append_nil]
    exact ⟨port, bw, filter, hcontrol, hbw, hfilter, rfl⟩
  · rintro ⟨port, bw, filter, hcontrol, hbw, hfilter, rfl⟩
    refine ⟨(port, fbt), hcontrol, ?_⟩
    refine Check.liftM_bind_eq_passed_iff.2 ⟨bw, hbw, ?_⟩
    refine Check.bind_eq_passed_iff.2 ⟨filter, w, [], hfilter, ?_, (List.append_nil w).symm⟩
    exact Check.pure_eq_passed_iff.2 ⟨rfl, rfl⟩

/-- An endpoint in order, with the address that is named with its control port. -/
structure Endpoint.Sound (e : Endpoint) (fbt : Option Ipv4) : Prop where
  payloadType : isPayloadType e.payloadType = true
  control : e.transport.isRtp = true → ∃ p, e.rtcpPort = some p ∧ p ≠ 0
  bare : e.transport.isRtp = false → e.rtcpPort = none ∧ fbt = none
  filter : e.addr.isMulticast = false → e.srcFilter = none
  mid : ∀ m, e.mid = some m → NeatText m

/-- Without the address an endpoint is in order as well. -/
theorem Endpoint.Sound.plain {e : Endpoint} {fbt : Option Ipv4} (h : e.Sound fbt) :
    e.Sound none :=
  ⟨h.payloadType, h.control, fun hb => ⟨(h.bare hb).1, rfl⟩, h.filter, h.mid⟩

/-! ## §2. Ports. -/

theorem port?_eq_some {cs : List Char} {p : UInt16} (h : rtcpValue?.port? cs = some p) : p ≠ 0 := by
  unfold rtcpValue?.port? at h
  simpa using (Option.filter_eq_some_iff.1 h).2

theorem ne_zero_of_rtcpValue? {cs : List Char} {p : UInt16} {addr : Option Ipv4}
    (h : rtcpValue? cs = some (p, addr)) : p ≠ 0 := by
  unfold rtcpValue? at h
  -- a port alone, a port with an address, or anything else
  split at h
  · obtain ⟨q, hq, h⟩ := Option.bind_eq_some_iff.1 h
    obtain ⟨rfl, -⟩ := Prod.mk.inj (Option.some.inj h)
    exact port?_eq_some hq
  · split at h
    · obtain ⟨a, -, h⟩ := Option.bind_eq_some_iff.1 h
      obtain ⟨q, hq, h⟩ := Option.bind_eq_some_iff.1 h
      obtain ⟨rfl, -⟩ := Prod.mk.inj (Option.some.inj h)
      exact port?_eq_some hq
    · cases h
  · cases h

/-- A stream without RTP has no control port; with RTP it has the port of its `rtcp`
attribute, or without one the port behind its data port. -/
theorem MediaLine.control_cases {l : MediaLine} {stream : StreamKind} {port : Option UInt16}
    {addr : Option Ipv4} (h : l.control stream = .ok (port, addr)) :
    (l.transport.isRtp = false ∧ port = none ∧ addr = none) ∨
    (l.transport.isRtp = true ∧ ∃ value p, l.media.body.attributeValue "rtcp" = some value
      ∧ rtcpValue? value.toList = some (p, addr) ∧ port = some p) ∨
    (l.transport.isRtp = true ∧ l.media.body.attributeValue "rtcp" = none ∧ addr = none
      ∧ ∃ p, port = some p ∧ p.toNat = l.media.port.toNat + 1) := by
  unfold control at h
  by_cases hrtp : l.transport.isRtp = true
  · rw [if_pos hrtp] at h
    split at h
    · next value hattribute =>
      split at h
      · next p a hvalue =>
        obtain ⟨rfl, rfl⟩ := Prod.mk.inj (Except.ok.inj h)
        exact Or.inr (Or.inl ⟨hrtp, value, p, hattribute, hvalue, rfl⟩)
      · cases h
    · next hattribute =>
      rw [refuse_eq_ok_iff] at h
      obtain ⟨hport, h⟩ := h
      obtain ⟨rfl, rfl⟩ := Prod.mk.inj (Except.ok.inj h)
      refine Or.inr (Or.inr ⟨hrtp, hattribute, rfl, _, rfl, ?_⟩)
      -- only the last port has no successor
      have hlast : l.media.port.toNat ≠ 65535 := fun heq =>
        hport (Or.inr (UInt16.toNat_inj.1 heq))
      have hlt := l.media.port.toNat_lt
      have hone : (1 : UInt16).toNat = 1 := rfl
      rw [UInt16.toNat_add, hone]
      omega
  · rw [if_neg hrtp] at h
    obtain ⟨rfl, rfl⟩ := Prod.mk.inj (Except.ok.inj h)
    exact Or.inl ⟨by simpa using hrtp, rfl, rfl⟩

theorem MediaLine.control_sound {l : MediaLine} {stream : StreamKind} {port : Option UInt16}
    {addr : Option Ipv4} (h : l.control stream = .ok (port, addr)) :
    (l.transport.isRtp = true → ∃ p, port = some p ∧ p ≠ 0)
      ∧ (l.transport.isRtp = false → port = none ∧ addr = none) := by
  rcases control_cases h with ⟨hrtp, hport, haddr⟩ | ⟨hrtp, value, p, -, hvalue, hport⟩ |
    ⟨hrtp, -, -, p, hport, hnext⟩
  · refine ⟨fun hyes => ?_, fun _ => ⟨hport, haddr⟩⟩
    rw [hrtp] at hyes
    cases hyes
  · refine ⟨fun _ => ⟨p, hport, ne_zero_of_rtcpValue? hvalue⟩, fun hno => ?_⟩
    rw [hrtp] at hno
    cases hno
  · refine ⟨fun _ => ⟨p, hport, ?_⟩, fun hno => ?_⟩
    · rintro rfl
      exact absurd hnext.symm (Nat.succ_ne_zero _)
    · rw [hrtp] at hno
      cases hno

theorem port?_decimal {p : UInt16} (hp : p ≠ 0) :
    rtcpValue?.port? (decimal p.toNat).toList = some p := by
  unfold rtcpValue?.port?
  rw [uint16?_decimal]
  simp [Option.filter, hp]

theorem ofChars?_toString (ip : Ipv4) : Ipv4.ofChars? (toString ip).toList = some ip :=
  Ipv4.ofString?_toString ip

/-- A control port is read back, with the address behind it. -/
theorem Endpoint.rtcpValue?_rtcpText {e : Endpoint} {p : UInt16} (hp : p ≠ 0)
    (hport : e.rtcpPort = some p) (fbt : Option Ipv4) :
    ∃ value, e.rtcpText fbt = some value ∧ rtcpValue? value.toList = some (p, fbt) := by
  unfold rtcpText
  rw [hport]
  -- one word, or four with an address behind the port
  cases fbt with
  | none =>
    refine ⟨decimal p.toNat ++ "", rfl, ?_⟩
    have hwords : words isWhite (decimal p.toNat ++ "").toList = [(decimal p.toNat).toList] :=
      words_of_toList (by simp) (by simpa using isWord_number _)
    unfold rtcpValue?
    rw [hwords]
    simp [port?_decimal hp]
  | some addr =>
    refine ⟨decimal p.toNat ++ (" IN IP4 " ++ toString addr), rfl, ?_⟩
    have hwords : words isWhite (decimal p.toNat ++ (" IN IP4 " ++ toString addr)).toList
        = [(decimal p.toNat).toList, "IN".toList, "IP4".toList, (toString addr).toList] := by
      refine words_of_toList (by simp [List.intercalate_cons_cons]) ?_
      simp only [List.forall_mem_cons]
      exact ⟨isWord_number _, ⟨by decide, by decide⟩, ⟨by decide, by decide⟩, isWord_address _,
        by simp⟩
    unfold rtcpValue?
    rw [hwords]
    simp [port?_decimal hp, ofChars?_toString]

/-! ## §3. Bandwidths. -/

theorem bitsPerSecond_toUInt64 (stream : StreamKind) (kind : String) (n : UInt32) :
    bitsPerSecond stream ⟨kind, n.toUInt64⟩ = .ok n := by
  unfold bitsPerSecond
  rw [UInt32.toNat_toUInt64, if_pos n.toNat_lt_size]
  simp

/-- Bandwidths that may stand before those of the control protocol: the bit rate of
the primary stream. -/
def Leading (stream : StreamKind) (bs : List Bandwidth) : Prop :=
  ∀ b ∈ bs, b.kind = "AS" ∧ stream = .primary

theorem RtcpBandwidth.foldlM_leading {stream : StreamKind} {bs : List Bandwidth}
    (h : Leading stream bs) (r : RtcpBandwidth) :
    bs.foldlM (add stream) r = .ok r := by
  induction bs with
  | nil => rfl
  | cons b bs ih =>
    obtain ⟨hkind, hstream⟩ := h b List.mem_cons_self
    -- `AS` is taken by the primary stream and is no bandwidth of the control protocol
    have hadd : add stream r b = .ok r := by
      unfold add
      rw [hkind, hstream]
      simp
    rw [List.foldlM_cons, hadd]
    exact ih fun c hc => h c (List.mem_cons_of_mem _ hc)

theorem RtcpBandwidth.foldlM_bandwidths (stream : StreamKind) (e : Endpoint) :
    e.bandwidths.foldlM (add stream) .empty = .ok { e.rtcpBw with perReceiver := none } := by
  -- each kind sets its own field
  have hsender : ∀ n : UInt32, add stream .empty ⟨"RS", n.toUInt64⟩
      = .ok { empty with sender := some n } := by
    intro n
    unfold add
    rw [if_pos rfl, bitsPerSecond_toUInt64]
    rfl
  have hreceiver : ∀ (r : RtcpBandwidth) (n : UInt32), add stream r ⟨"RR", n.toUInt64⟩
      = .ok { r with receiver := some n } := by
    intro r n
    unfold add
    rw [if_neg (by simp), if_pos rfl, bitsPerSecond_toUInt64]
    rfl
  unfold Endpoint.bandwidths
  obtain ⟨sender, receiver, perReceiver⟩ := e.rtcpBw
  rw [List.foldlM_append]
  cases sender with
  | none =>
    cases receiver with
    | none => rfl
    | some m =>
      show add stream .empty ⟨"RR", m.toUInt64⟩ >>= pure = _
      rw [hreceiver]
      rfl
  | some n =>
    show ((add stream .empty ⟨"RS", n.toUInt64⟩ >>= pure) >>= _) = _
    rw [hsender]
    cases receiver with
    | none => rfl
    | some m =>
      show add stream _ ⟨"RR", m.toUInt64⟩ >>= pure = _
      rw [hreceiver]
      rfl

/-- The bandwidths of an endpoint are read back. -/
theorem RtcpBandwidth.read_toMedia {stream : StreamKind} {before : List Bandwidth}
    {behind : List Attribute} (hbefore : Leading stream before) (hbehind : Special behind)
    (e : Endpoint) (fbt : Option Ipv4) :
    read stream (e.toMedia stream fbt before behind).body = .ok e.rtcpBw := by
  -- the bandwidth per receiver stands in an attribute
  have hper : perReceiver? stream (e.toMedia stream fbt before behind).body
      = .ok e.rtcpBw.perReceiver := by
    unfold perReceiver?
    rw [Endpoint.attributeValue_perReceiver hbehind]
    cases e.rtcpBw.perReceiver with
    | none => rfl
    | some n =>
      dsimp only [Option.map_some]
      rw [uint32?_decimal]
  unfold read
  rw [hper]
  show ((before ++ e.bandwidths).foldlM (add stream) .empty >>= _) = _
  rw [List.foldlM_append, foldlM_leading hbefore]
  show (e.bandwidths.foldlM (add stream) .empty >>= _) = _
  rw [foldlM_bandwidths]
  rfl

/-! ## §4. Source filters. -/

theorem MediaLine.sourceFilter_sound {l : MediaLine} {stream : StreamKind} {f : Option Ipv4}
    {w : List Warning} (h : l.sourceFilter stream = .passed f w)
    (hunicast : l.addr.isMulticast = false) : f = none := by
  unfold sourceFilter at h
  rw [if_neg (by simp [hunicast])] at h
  exact (Check.pure_eq_passed_iff.1 h).1

/-- The canonical source filter of an address is read back. -/
theorem readSourceFilter_canonical (stream : StreamKind) (dest src : Ipv4) :
    readSourceFilter stream dest ("incl IN IP4 " ++ toString dest ++ " " ++ toString src)
      = .ok src := by
  have hwords : words isWhite ("incl IN IP4 " ++ toString dest ++ " " ++ toString src).toList
      = ["incl".toList, "IN".toList, "IP4".toList, (toString dest).toList,
        (toString src).toList] := by
    refine words_of_toList (by simp [List.intercalate_cons_cons]) ?_
    simp only [List.forall_mem_cons]
    exact ⟨⟨by decide, by decide⟩, ⟨by decide, by decide⟩, ⟨by decide, by decide⟩,
      isWord_address _, isWord_address _, by simp⟩
  unfold readSourceFilter
  rw [hwords]
  simp [ofChars?_toString]

/-! ## §5. Whole endpoints. -/

namespace Endpoint

/-- The media line that an endpoint stands in. -/
def line (e : Endpoint) (index : Nat) (m : Media) : MediaLine :=
  ⟨index, m, e.payloadType, e.transport, e.addr, e.ttl⟩

/-- What is noted of an endpoint: that a multicast group has no source filter. -/
def notes (e : Endpoint) (kind : StreamKind) : List Warning :=
  if e.addr.isMulticast = true ∧ e.srcFilter = none then [.missingSourceFilter kind] else []

end Endpoint

theorem Section.Neat.attributeValue {s : Section} (hs : s.Neat) {name v : String}
    (h : s.attributeValue name = some v) : NeatText v := by
  obtain ⟨hprint, htidy⟩ := hs
  obtain ⟨a, ha, hv⟩ := Option.bind_eq_some_iff.1 h
  have hmem : a ∈ s.attributes := List.mem_of_find?_eq_some ha
  -- a section that is tidy as a whole is so attribute by attribute
  have hall : s.attributes.map Attribute.tidy = s.attributes := congrArg Section.attributes htidy
  have hself : a.tidy = a := List.map_inj_left.1 (hall.trans (List.map_id _).symm) a hmem
  refine ⟨(hprint.attributes a hmem).value v hv, ?_⟩
  have hvalue := congrArg Attribute.value hself
  unfold Attribute.tidy at hvalue
  rw [hv] at hvalue
  exact Option.some.inj hvalue

/-- **An endpoint that was read is in order.** -/
theorem MediaLine.sound_of_endpoint {l : MediaLine} {stream : StreamKind} {e : Endpoint}
    {fbt : Option Ipv4} {w : List Warning} (hpt : isPayloadType l.payloadType = true)
    (hneat : l.media.Neat) (h : l.endpoint stream = .passed (e, fbt) w) : e.Sound fbt := by
  obtain ⟨port, bw, filter, hcontrol, -, hfilter, rfl⟩ := endpoint_eq_passed_iff.1 h
  obtain ⟨hrtp, hbare⟩ := control_sound hcontrol
  exact ⟨hpt, hrtp, hbare, sourceFilter_sound hfilter, fun m hm => hneat.body.attributeValue hm⟩

section Canonical

variable {e : Endpoint} {stream : StreamKind} {fbt : Option Ipv4} {before : List Bandwidth}
  {behind : List Attribute}

theorem Endpoint.Sound.control_line (he : e.Sound fbt) (hbehind : Special behind) (index : Nat) :
    (e.line index (e.toMedia stream fbt before behind)).control stream
      = .ok (e.rtcpPort, fbt) := by
  have hbody : (e.line index (e.toMedia stream fbt before behind)).media.body
      = (e.toMedia stream fbt before behind).body := rfl
  have htransport : (e.line index (e.toMedia stream fbt before behind)).transport = e.transport :=
    rfl
  unfold MediaLine.control
  rw [htransport, hbody]
  -- without RTP no control port is written, and none is looked for
  by_cases hrtp : e.transport.isRtp = true
  · obtain ⟨p, hport, hp⟩ := he.control hrtp
    obtain ⟨value, hvalue, hread⟩ := rtcpValue?_rtcpText hp hport fbt
    rw [if_pos hrtp, attributeValue_rtcp hbehind, hvalue]
    dsimp only
    rw [hread, hport]
  · obtain ⟨hport, hfbt⟩ := he.bare (by simpa using hrtp)
    rw [if_neg hrtp, hport, hfbt]

theorem Endpoint.Sound.sourceFilter_line (he : e.Sound fbt) (hbehind : Special behind)
    (index : Nat) :
    (e.line index (e.toMedia stream fbt before behind)).sourceFilter stream
      = .passed e.srcFilter (e.notes stream) := by
  have hbody : (e.line index (e.toMedia stream fbt before behind)).media.body
      = (e.toMedia stream fbt before behind).body := rfl
  have haddr : (e.line index (e.toMedia stream fbt before behind)).addr = e.addr := rfl
  unfold notes MediaLine.sourceFilter
  rw [haddr, hbody]
  -- a unicast endpoint in order has no filter, and no attribute is read
  by_cases hmulti : e.addr.isMulticast = true
  · rw [if_pos hmulti, attributeValue_sourceFilter hbehind]
    cases hsrc : e.srcFilter with
    | none =>
      rw [if_pos ⟨hmulti, rfl⟩]
      rfl
    | some src =>
      show (liftM (readSourceFilter stream e.addr _) >>= _) = _
      rw [readSourceFilter_canonical]
      simp
      rfl
  · rw [if_neg hmulti, if_neg fun h => hmulti h.1, he.filter (by simpa using hmulti)]
    rfl

/-- **An endpoint in order is read from its own media stream**, and nothing else is
noted but a missing source filter. -/
theorem Endpoint.Sound.endpoint_line (he : e.Sound fbt) (hbefore : Leading stream before)
    (hbehind : Special behind) (index : Nat) :
    (e.line index (e.toMedia stream fbt before behind)).endpoint stream
      = .passed (e, fbt) (e.notes stream) := by
  rw [MediaLine.endpoint_eq_passed_iff]
  refine ⟨e.rtcpPort, e.rtcpBw, e.srcFilter, he.control_line hbehind index,
    RtcpBandwidth.read_toMedia hbefore hbehind e fbt, he.sourceFilter_line hbehind index, ?_⟩
  show e = ⟨e.addr, e.ttl, e.srcFilter, e.transport, e.rtpPort, e.rtcpPort, e.payloadType,
    e.rtcpBw, .ofSection (e.toMedia stream fbt before behind).body,
    (e.toMedia stream fbt before behind).body.attributeValue "mid"⟩
  rw [direction_toMedia before hbehind, attributeValue_mid hbehind]

/-- A stream other than the primary is read back in the same way. -/
theorem Endpoint.Sound.ownEndpoint_line (he : e.Sound none) (hbefore : Leading stream before)
    (hbehind : Special behind) (index : Nat) :
    (e.line index (e.toMedia stream none before behind)).ownEndpoint stream
      = .passed e (e.notes stream) := by
  unfold MediaLine.ownEndpoint
  rw [he.endpoint_line hbefore hbehind index]
  simp [Check.bind_passed, Check.pure_eq]

end Canonical

/-- What it takes to read a stream other than the primary. -/
theorem MediaLine.endpoint_of_ownEndpoint {l : MediaLine} {stream : StreamKind} {e : Endpoint}
    {w : List Warning} (h : l.ownEndpoint stream = .passed e w) :
    ∃ addr, l.endpoint stream = .passed (e, addr) w := by
  unfold ownEndpoint at h
  obtain ⟨⟨e', addr⟩, u, v, he, hlast, rfl⟩ := Check.bind_eq_passed_iff.1 h
  have hkey : ∀ {w : List Warning}, (pure e' : Check Endpoint) = .passed e w →
      e = e' ∧ w = [] := Check.pure_eq_passed_iff.1
  refine ⟨addr, ?_⟩
  -- an address there must be that of the stream itself
  cases addr with
  | none =>
    obtain ⟨rfl, rfl⟩ := hkey hlast
    rw [List.append_nil]
    exact he
  | some a =>
    dsimp only at hlast
    split at hlast
    · cases hlast
    · obtain ⟨rfl, rfl⟩ := hkey hlast
      rw [List.append_nil]
      exact he

end Lineup
