/-
  Lineup.Proofs.Extraction.Rules
  ──────────────────────────────
  **THE RULES OF CHANNELS.**  What holds of every channel that is drawn, whatever the
  session was: rules for each stream by itself, rules for the streams side by side, and
  rules that tie them to role, mode and layout (`Channel.Lawful`).  Each rule is checked
  at one stage only, often on something that is not the channel yet: on the form of a
  media stream, on the parts that media streams play, on streams without a role.  No later
  stage loses what an earlier one has checked.

  Main results:
    * `Channel.checkConsistency_eq_ok_iff` — what the last stage checks;
    * `Channel.Checked.lawful` — what all stages check together;
    * `Channel.lawful_of_extractChannel` — so every channel that is drawn keeps all rules,
      and its ports are those that the session states.
-/
import Lineup.Proofs.Extraction.Streams
import Lineup.Proofs.Extraction.Groups

namespace Lineup

/-! ## §1. The rules. -/

/-- The rules for a stream of a kind by itself. -/
structure Endpoint.Lawful (kind : StreamKind) (e : Endpoint) : Prop where
  payloadType : e.payloadType = 33 ∨ 96 ≤ e.payloadType ∧ e.payloadType ≤ 127
  onlyPrimaryUdp : e.transport = .udp → kind = .primary
  bare : e.rtcpPort = none ↔ e.transport = .udp
  control : ∀ port, e.rtcpPort = some port → port ≠ 0 ∧ port ≠ e.rtpPort
  filter : e.srcFilter.isSome = true → e.addr.isMulticast = true

/-- The rules for the tags of a channel: no two streams have one, and the streams that a
group has to name have one. -/
structure Channel.Tagged (c : Channel) : Prop where
  nodup : c.mids.Nodup
  repair : c.mode = .source ∨ c.mode = .lookaside →
    ∀ kind ∈ fidMembers c.mode, ∃ e, c.endpoint? kind = some e ∧ e.mid.isSome = true
  fec : c.fec1.isSome = true →
    ∀ kind ∈ c.fecMembers, ∃ e, c.endpoint? kind = some e ∧ e.mid.isSome = true

/-- The rules for a channel. -/
structure Channel.Lawful (c : Channel) : Prop where
  streams : ∀ x ∈ c.endpoints, x.2.Lawful x.1
  /-- A broadcast is distributed to multicast groups. -/
  linear : c.channelType = .linear →
    (∀ x ∈ c.distributed, x.2.addr.isMulticast = true) ∧ c.primary.endpoint.rtpPort ≠ 0
  /-- Repair packets are sent to single receivers, which send feedback. -/
  rtx : ∀ r, c.rtx = some r →
    r.endpoint.transport = .rtpFeedback ∧ r.endpoint.addr.isMulticast = false
  bitRate : ∀ n, c.primary.bitRate = some n → ∃ k, 1 ≤ k ∧ k ≤ 40000 ∧ n.toNat = 1000 * k
  fec : c.fec2.isSome = true → c.fec1.isSome = true
  fecMode : (c.fecMode = none ↔ c.fec1 = none)
    ∧ (c.fecMode = some .oneDimensional ↔ c.fec1.isSome = true ∧ c.fec2 = none)
    ∧ (c.fecMode = some .twoDimensional ↔ c.fec2.isSome = true)
  /-- The directions of the streams decide on role and mode. -/
  role : Activity.roleMode? (.ofDirection c.primary.endpoint.direction)
    (.ofStream? (c.resourced.map (·.direction))) (.ofStream? (c.rtx.map (·.endpoint.direction)))
      = some (c.role, c.mode)
  source : c.mode = .source → c.resourced.isSome = true ∧ c.rtx.isSome = true
  lookaside : c.mode = .lookaside → c.rtx.isSome = true
  /-- What is repaired is the copy in source mode, and otherwise the primary stream. -/
  apt : ∀ r, c.rtx = some r →
    (c.mode = .source → ∃ e, c.resourced = some e ∧ r.apt = e.payloadType) ∧
    (c.mode ≠ .source → r.apt = c.primary.endpoint.payloadType)
  tags : c.Tagged
  /-- Feedback goes to where repair packets come from, on a port of its own. -/
  feedback : ∀ fbt r, c.fbtAddr = some fbt → c.rtx = some r →
    fbt = r.endpoint.addr ∧ c.primary.endpoint.rtcpPort ≠ some r.endpoint.rtpPort
  target : c.primary.endpoint.transport = .udp → c.fbtAddr = none
  rtxControl : ∀ r, c.rtx = some r → r.endpoint.rtcpPort ≠ c.primary.endpoint.rtcpPort
  /-- Streams that are distributed to one address share no port. -/
  apart : c.distributed.Pairwise fun x y =>
    x.2.addr = y.2.addr → ∀ port ∈ x.2.ports, port ∉ y.2.ports
  bandwidth : c.role = .videoAccessNode → c.active = true →
    c.primary.bitRate.isSome = true ∨ c.primary.endpoint.rtcpBw.isSignalled = true
  reports : c.primary.xr.Sound .primary ∧ ∀ r, c.rtx = some r → r.xr.Sound .retransmission
  active : c.active = true ↔ c.stopTime = 0
  complete : c.complete = true ↔ c.key.username ≠ "" ∧ c.key.sessionId ≠ ""
  checksum : c.checksum = Md5.hex c.toText.toUTF8
  unmarked : c.used = false

/-- A media stream states the ports of a stream: the port for data, and for control either
the port of its `rtcp` attribute or, without one, the port behind that for data. -/
structure Media.StatesPorts (m : Media) (e : Endpoint) : Prop where
  rtp : e.rtpPort = m.port
  rtcp : ∀ port, e.rtcpPort = some port →
    (∃ value addr, m.body.attributeValue "rtcp" = some value
      ∧ rtcpValue? value.toList = some (port, addr)) ∨
    m.body.attributeValue "rtcp" = none ∧ port.toNat = e.rtpPort.toNat + 1

/-- What a channel has from its session. -/
structure Channel.StatedBy (c : Channel) (v : SessionView) (channelType : ChannelType) : Prop where
  type : c.channelType = channelType
  name : c.name = v.name
  time : v.timing.start = 0 ∧ c.stopTime = v.timing.stop
  /-- Every media stream of the session is a stream of the channel. -/
  count : c.endpoints.length = v.mediaCount
  enough : channelType.minMedia ≤ c.endpoints.length ∧ c.endpoints.length ≤ 5
  ports : ∀ x ∈ c.endpoints, ∃ i m, v.media? i = some m ∧ m.StatesPorts x.2

/-! ## §2. What the checks of whole channels say. -/

theorem firstRepeated_eq_none_iff {seen ss : List String} :
    firstRepeated seen ss = none ↔ ss.Nodup ∧ ∀ s ∈ ss, s ∉ seen := by
  induction ss generalizing seen with
  | nil => simp [firstRepeated]
  | cons s ss ih =>
    rw [firstRepeated, List.nodup_cons, List.forall_mem_cons]
    by_cases hs : s ∈ seen
    · simp [hs]
    · rw [if_neg hs, ih]
      constructor
      · rintro ⟨hnodup, hnew⟩
        exact ⟨⟨fun hmem => hnew s hmem List.mem_cons_self, hnodup⟩, hs,
          fun t ht hseen => hnew t ht (List.mem_cons_of_mem _ hseen)⟩
      · rintro ⟨⟨hself, hnodup⟩, -, hnew⟩
        refine ⟨hnodup, fun t ht hmem => ?_⟩
        rcases List.mem_cons.1 hmem with rfl | hseen
        · exact hself ht
        · exact hnew t ht hseen

namespace Channel

variable {c : Channel}

theorem checkMids_eq_ok_iff : c.checkMids = .ok () ↔ c.mids.Nodup := by
  unfold checkMids
  have hnone : firstRepeated [] c.mids = none ↔ c.mids.Nodup ∧ ∀ mid ∈ c.mids, mid ∉ [] :=
    firstRepeated_eq_none_iff
  cases h : firstRepeated [] c.mids with
  | none => simpa using hnone.1 h
  | some mid =>
    rw [h] at hnone
    simpa using hnone

theorem checkPorts_eq_ok_iff {x : StreamKind × Endpoint} :
    checkPorts x = .ok () ↔ x.2.rtcpPort ≠ some x.2.rtpPort := by
  unfold checkPorts
  rw [refuse_eq_ok_iff]
  exact and_iff_left rfl

theorem sharedPort?_eq_none_iff {a b : Endpoint} :
    sharedPort? a b = none ↔ (a.addr = b.addr → ∀ port ∈ a.ports, port ∉ b.ports) := by
  unfold sharedPort?
  by_cases haddr : a.addr = b.addr
  · rw [if_pos haddr, List.find?_eq_none]
    simp [haddr]
  · simp [haddr]

theorem checkPair_eq_ok_iff {x y : StreamKind × Endpoint} :
    checkPair x y = .ok () ↔ (x.2.addr = y.2.addr → ∀ port ∈ x.2.ports, port ∉ y.2.ports) := by
  rw [← sharedPort?_eq_none_iff]
  unfold checkPair
  cases sharedPort? x.2 y.2 with
  | none => simp
  | some port => simp

theorem checkApart_eq_ok_iff {es : List (StreamKind × Endpoint)} :
    checkApart es = .ok () ↔
      es.Pairwise fun x y => x.2.addr = y.2.addr → ∀ port ∈ x.2.ports, port ∉ y.2.ports := by
  induction es with
  | nil => simp [checkApart]
  | cons e es ih =>
    unfold checkApart
    rw [check_bind_eq_ok_iff, forM_eq_ok_iff, ih, List.pairwise_cons]
    simp only [checkPair_eq_ok_iff]

theorem checkRepair_eq_ok_iff :
    c.checkRepair = .ok () ↔ ∀ r, c.rtx = some r →
      (∀ port, r.endpoint.rtcpPort = some port → c.primary.endpoint.rtcpPort ≠ some port) ∧
      ∀ fbt, c.fbtAddr = some fbt →
        fbt = r.endpoint.addr ∧ c.primary.endpoint.rtcpPort ≠ some r.endpoint.rtpPort := by
  have hdone : ((pure () : Except ValidationError Unit) = .ok ()) = True := eq_true rfl
  unfold checkRepair
  cases c.rtx with
  | none => simp
  | some r =>
    simp only [Option.some.injEq, forall_eq']
    -- the two control ports and the target may each be missing
    cases r.endpoint.rtcpPort with
    | _ => cases c.primary.endpoint.rtcpPort with
      | _ => cases c.fbtAddr with
        | _ =>
          simp only [error_bind, refuse_eq_ok_iff, hdone]
          grind

theorem checkBandwidth_eq_ok_iff :
    c.checkBandwidth = .ok () ↔ (c.role = .videoAccessNode → c.active = true →
      c.primary.bitRate.isSome = true ∨ c.primary.endpoint.rtcpBw.isSignalled = true) := by
  unfold checkBandwidth
  rw [refuse_eq_ok_iff]
  constructor
  · rintro ⟨h, -⟩ hrole hactive
    by_contra hnone
    rw [not_or] at hnone
    exact h ⟨hrole, hactive, by simpa using hnone.1, by simpa using hnone.2⟩
  · intro h
    refine ⟨?_, rfl⟩
    rintro ⟨hrole, hactive, hrate, hsignalled⟩
    rcases h hrole hactive with hsome | hsome
    · rw [Option.isNone_iff_eq_none.1 hrate] at hsome
      cases hsome
    · rw [hsome] at hsignalled
      cases hsignalled

/-- **What the last stage checks.** -/
theorem checkConsistency_eq_ok_iff :
    c.checkConsistency = .ok () ↔ (∀ x ∈ c.endpoints, x.2.rtcpPort ≠ some x.2.rtpPort)
      ∧ c.checkRepair = .ok ()
      ∧ (c.distributed.Pairwise fun x y =>
        x.2.addr = y.2.addr → ∀ port ∈ x.2.ports, port ∉ y.2.ports)
      ∧ c.checkBandwidth = .ok () := by
  unfold checkConsistency
  rw [check_bind_eq_ok_iff, check_bind_eq_ok_iff, check_bind_eq_ok_iff, forM_eq_ok_iff,
    checkApart_eq_ok_iff]
  simp only [checkPorts_eq_ok_iff]

end Channel

theorem Streams.checkApt_eq_ok_iff {s : Streams} {mode : Mode} :
    s.checkApt mode = .ok () ↔ ∀ r, s.rtx = some r → r.apt = s.repairedType mode := by
  unfold checkApt
  cases s.rtx with
  | none => simp
  | some r => simp

/-- What is repaired in source mode is the copy, -/
theorem Streams.repairedType_source {s : Streams} {e : Endpoint} (h : s.resourced = some e) :
    s.repairedType .source = e.payloadType := by
  unfold repairedType
  rw [h]

/-- and in any other mode the primary stream. -/
theorem Streams.repairedType_of_ne {s : Streams} {mode : Mode} (h : mode ≠ .source) :
    s.repairedType mode = s.primary.stream.endpoint.payloadType := by
  unfold repairedType
  split
  · exact absurd rfl h
  · rfl

/-! ## §3. Groups and roles. -/

/-- Where a group is checked, the streams it has to name have tags. -/
theorem Channel.exists_mid_of_checkMembers {c : Channel} {g : Group} {kinds : List StreamKind}
    (h : c.checkMembers g kinds = .ok ()) {kind : StreamKind} (hkind : kind ∈ kinds) :
    ∃ e, c.endpoint? kind = some e ∧ e.mid.isSome = true := by
  obtain ⟨mids, hmids, -⟩ := checkMembers_eq_ok_iff.1 h
  clear h
  -- the tags are looked for one by one
  induction kinds generalizing mids with
  | nil => cases hkind
  | cons k kinds ih =>
    unfold midsOf at hmids
    split at hmids
    · cases hmids
    · next mid hmid =>
      obtain ⟨rest, hrest, -⟩ := bind_eq_ok_iff.1 hmids
      rcases List.mem_cons.1 hkind with rfl | hkind
      · obtain ⟨e, he, hsome⟩ := Option.bind_eq_some_iff.1 hmid
        exact ⟨e, he, Option.isSome_of_eq_some hsome⟩
      · exact ih hkind rest hrest

/-- What the check of groups says of tags, where repair has a stream. -/
theorem Channel.tagged_of_checkGroups {c : Channel} {groups : List Group}
    (h : c.checkGroups groups = .ok ())
    (hrtx : c.mode = .source ∨ c.mode = .lookaside → c.rtx.isSome = true) : c.Tagged := by
  obtain ⟨hmids, fid, fec, -, -, hfid, hfec⟩ := checkGroups_eq_ok_iff.1 h
  refine ⟨checkMids_eq_ok_iff.1 hmids, fun hmode kind hkind => ?_, fun hsome kind hkind => ?_⟩
  · -- without a group the check of a repairing mode fails
    obtain ⟨r, hr⟩ := Option.isSome_iff_exists.1 (hrtx hmode)
    unfold checkFid at hfid
    rw [hr] at hfid
    cases fid with
    | none =>
      dsimp only at hfid
      rw [if_pos hmode] at hfid
      cases hfid
    | some g => exact exists_mid_of_checkMembers hfid hkind
  · have hcount : c.fecCount ≠ 0 := by
      obtain ⟨e, he⟩ := Option.isSome_iff_exists.1 hsome
      unfold fecCount
      rw [he]
      simp
    unfold checkFec at hfec
    cases fec with
    | none =>
      dsimp only at hfec
      rw [if_neg hcount] at hfec
      cases hfec
    | some g =>
      dsimp only at hfec
      rw [if_neg hcount] at hfec
      exact exists_mid_of_checkMembers hfec hkind

/-- The repairing modes need the streams that they repair with. -/
theorem Activity.ne_off_of_roleMode? {p r x : Activity} {role : Role} {mode : Mode}
    (h : roleMode? p r x = some (role, mode)) :
    (mode = .source → r ≠ off ∧ x ≠ off) ∧ (mode = .lookaside → x ≠ off) := by
  unfold roleMode? at h
  split at h
  all_goals
    cases h
  all_goals
    decide

theorem Activity.isSome_of_ofStream? {direction : Option Direction}
    (h : ofStream? direction ≠ off) : direction.isSome = true := by
  cases direction with
  | none => exact absurd rfl h
  | some d => rfl

/-! ## §4. Streams. -/

theorem Transport.isRtp_eq_false_iff {t : Transport} : t.isRtp = false ↔ t = .udp := by
  cases t with
  | _ => decide

theorem isPayloadType_iff {pt : UInt8} :
    isPayloadType pt = true ↔ pt = 33 ∨ 96 ≤ pt ∧ pt ≤ 127 := by
  unfold isPayloadType mp2tPayloadType
  simp

/-- The ports of a stream are those that its media stream states. -/
theorem MediaLine.statesPorts {l : MediaLine} {kind : StreamKind} {e : Endpoint}
    {fbt : Option Ipv4} {w : List Warning} (h : l.endpoint kind = .passed (e, fbt) w) :
    l.media.StatesPorts e := by
  obtain ⟨port, bw, filter, hcontrol, -, -, rfl⟩ := endpoint_eq_passed_iff.1 h
  refine ⟨rfl, fun p hp => ?_⟩
  obtain rfl : port = some p := hp
  rcases control_cases hcontrol with ⟨-, hnone, -⟩ | ⟨-, value, q, hattribute, hvalue, hq⟩ |
    ⟨-, hattribute, -, q, hq, hnext⟩
  · cases hnone
  · obtain rfl := Option.some.inj hq
    exact Or.inl ⟨value, fbt, hattribute, hvalue⟩
  · obtain rfl := Option.some.inj hq
    exact Or.inr ⟨hattribute, hnext⟩

/-- A stream that was read from a media stream of its kind, and whose ports are two, keeps
the rules for a stream by itself. -/
theorem MediaLine.lawful_endpoint {v : SessionView} {i : Nat} {l : MediaLine} {kind : StreamKind}
    {e : Endpoint} {fbt : Option Ipv4} {w : List Warning}
    (hl : v.mediaLine i = .ok (l, kind.encoding)) (he : l.endpoint kind = .passed (e, fbt) w)
    (hcopy : kind = .resourced → l.transport.isRtp = true) (hports : e.rtcpPort ≠ some e.rtpPort) :
    e.Lawful kind := by
  obtain ⟨_, _, -, hpt, -, -, -, -, -, -, henc⟩ := SessionView.mediaLine_eq_ok_iff.1 hl
  have hallows := encoding_allows henc
  obtain ⟨port, bw, filter, hcontrol, -, hfilter, rfl⟩ := endpoint_eq_passed_iff.1 he
  obtain ⟨hrtp, hbare⟩ := control_sound hcontrol
  refine ⟨isPayloadType_iff.1 (Media.isPayloadType_of_payloadType hpt), ?_, ?_, ?_, ?_⟩
  · intro hudp
    have hno : l.transport.isRtp = false := Transport.isRtp_eq_false_iff.2 hudp
    cases kind with
    | primary => rfl
    | resourced =>
      rw [hcopy rfl] at hno
      cases hno
    | retransmission =>
      rw [hallows.1] at hno
      cases hno
    | fec1 =>
      rw [show l.transport.isRtp = true from hallows] at hno
      cases hno
    | fec2 =>
      rw [show l.transport.isRtp = true from hallows] at hno
      cases hno
  · constructor
    · rintro (rfl : port = none)
      by_contra hudp
      obtain ⟨p, hp, -⟩ := hrtp (by simpa using mt Transport.isRtp_eq_false_iff.1 hudp)
      cases hp
    · intro hudp
      exact (hbare (Transport.isRtp_eq_false_iff.2 hudp)).1
  · rintro p (rfl : port = some p)
    refine ⟨?_, fun heq => hports (congrArg some heq)⟩
    by_cases hyes : l.transport.isRtp = true
    · obtain ⟨q, hq, hzero⟩ := hrtp hyes
      obtain rfl := Option.some.inj hq
      exact hzero
    · cases (hbare (by simpa using hyes)).1
  · intro hsome
    by_contra hunicast
    obtain rfl : filter = none := sourceFilter_sound hfilter (by simpa using hunicast)
    cases hsome

theorem IsBitRate.exists_kilobits {n : UInt32} (h : IsBitRate n) :
    ∃ k, 1 ≤ k ∧ k ≤ 40000 ∧ n.toNat = 1000 * k := by
  obtain ⟨k, hone, hmax, rfl⟩ := h
  have hle : k.toNat ≤ 40000 := UInt64.le_iff_toNat_le.1 hmax
  have hge : 1 ≤ k.toNat := UInt64.le_iff_toNat_le.1 hone
  refine ⟨k.toNat, hge, hle, ?_⟩
  have hsize : UInt32.size = 4294967296 := rfl
  rw [UInt32.toNat_ofNat_of_lt' (by omega), Nat.mul_comm]

/-! ## §5. What is drawn keeps the rules. -/

/-- The layout of streams for error correction of which the second comes behind the first. -/
theorem FecMode.ofCount_iff {α : Type} {fec1 fec2 : Option α} {mode : Option FecMode}
    (hmode : mode = ofCount (fec1.toList.length + fec2.toList.length))
    (h : fec2.isSome = true → fec1.isSome = true) :
    (mode = none ↔ fec1 = none) ∧ (mode = some .oneDimensional ↔ fec1.isSome = true ∧ fec2 = none)
      ∧ (mode = some .twoDimensional ↔ fec2.isSome = true) := by
  subst hmode
  cases fec1 with
  | none =>
    cases fec2 with
    | none => simp [ofCount]
    | some e => cases h rfl
  | some d =>
    cases fec2 with
    | none => simp [ofCount]
    | some e => simp [ofCount]

/-- What the stages say of a channel that passed them all. -/
structure Channel.Checked (v : SessionView) (channelType : ChannelType) (p : Parts)
    (w : List Warning) (c : Channel) : Prop where
  formed : p.Formed v c.channelType
  streams : p.streams = .passed c.streams w
  role : Activity.roleMode? (.ofDirection c.primary.endpoint.direction)
    (.ofStream? (c.resourced.map (·.direction))) (.ofStream? (c.rtx.map (·.endpoint.direction)))
      = some (c.role, c.mode)
  apt : ∀ r, c.rtx = some r → r.apt = c.streams.repairedType c.mode
  tags : c.Tagged
  consistency : c.checkConsistency = .ok ()
  type : c.channelType = channelType
  fecMode : c.fecMode = FecMode.ofCount (c.fec1.toList.length + c.fec2.toList.length)
  active : c.active = (c.stopTime == 0)
  complete : c.complete = (c.key.username != "" && c.key.sessionId != "")
  checksum : c.checksum = Md5.hex c.toText.toUTF8
  unmarked : c.used = false

/-- A channel is not another one for its fingerprint. -/
theorem Drawn.checked {v : SessionView} {channelType : ChannelType} {identity : SessionIdentity}
    {feedbackMode : FeedbackMode} {streams : Streams} {roleMode : Role × Mode}
    {notes : List Warning} (h : Drawn v channelType identity feedbackMode streams roleMode notes) :
    ∃ p w, (streams.channel v channelType identity feedbackMode roleMode).sealed.Checked
      v channelType p w := by
  obtain ⟨_, w, parts, -, hparts, hstreams, -⟩ := h.parts
  have hrole := resolveRole_eq_ok_iff.1 h.role
  obtain ⟨hsource, hlookaside⟩ := Activity.ne_off_of_roleMode? hrole
  have hrtx : roleMode.2 = .source ∨ roleMode.2 = .lookaside → streams.rtx.isSome = true := by
    intro hmode
    have hoff := hmode.elim (fun hmode => (hsource hmode).2) hlookaside
    simpa using Activity.isSome_of_ofStream? hoff
  obtain ⟨hnodup, hrepair, hfec⟩ := Channel.tagged_of_checkGroups h.groups hrtx
  exact ⟨parts, w, Parts.formed_of_ofView hparts, hstreams, hrole,
    Streams.checkApt_eq_ok_iff.1 h.apt, ⟨hnodup, hrepair, hfec⟩, h.consistency,
    rfl, rfl, rfl, rfl, rfl, rfl⟩

namespace Channel.Checked

variable {v : SessionView} {channelType : ChannelType} {p : Parts} {c : Channel} {w : List Warning}

theorem lawful_endpoint (h : c.Checked v channelType p w) :
    ∀ x ∈ c.endpoints, x.2.Lawful x.1 := by
  rintro ⟨kind, e⟩ hx
  obtain ⟨hports, -⟩ := checkConsistency_eq_ok_iff.1 h.consistency
  obtain ⟨i, l, _, _, hl, hi, hread⟩ := h.formed.exists_mediaLine h.streams (mem_endpoints.1 hx)
  refine MediaLine.lawful_endpoint hi hread (fun hkind => ?_) (hports _ hx)
  subst hkind
  exact (h.formed.resourced l hl).2

/-- The repairing modes have the streams that they repair with. -/
theorem isSome_rtx (h : c.Checked v channelType p w) :
    (c.mode = .source → c.resourced.isSome = true ∧ c.rtx.isSome = true)
      ∧ (c.mode = .lookaside → c.rtx.isSome = true) := by
  obtain ⟨hsource, hlookaside⟩ := Activity.ne_off_of_roleMode? h.role
  refine ⟨fun hmode => ?_, fun hmode => ?_⟩
  · obtain ⟨hresourced, hrtx⟩ := hsource hmode
    exact ⟨by simpa using Activity.isSome_of_ofStream? hresourced,
      by simpa using Activity.isSome_of_ofStream? hrtx⟩
  · simpa using Activity.isSome_of_ofStream? (hlookaside hmode)

theorem apt_form (h : c.Checked v channelType p w) {r : RtxStream} (hr : c.rtx = some r) :
    (c.mode = .source → ∃ e, c.resourced = some e ∧ r.apt = e.payloadType)
      ∧ (c.mode ≠ .source → r.apt = c.primary.endpoint.payloadType) := by
  have hrepaired := h.apt r hr
  refine ⟨fun hmode => ?_, fun hmode => ?_⟩
  · obtain ⟨e, he⟩ := Option.isSome_iff_exists.1 (h.isSome_rtx.1 hmode).1
    rw [hmode, Streams.repairedType_source (s := c.streams) he] at hrepaired
    exact ⟨e, he, hrepaired⟩
  · rwa [Streams.repairedType_of_ne hmode] at hrepaired

/-- Bare datagrams have no feedback target. -/
theorem fbtAddr_eq_none (h : c.Checked v channelType p w)
    (hudp : c.primary.endpoint.transport = .udp) : c.fbtAddr = none := by
  obtain ⟨⟨_, hprimary⟩, -⟩ := Parts.primary_form h.streams
  obtain ⟨port, _, _, hcontrol, -, -, heq⟩ := MediaLine.endpoint_eq_passed_iff.1 hprimary
  rw [heq] at hudp
  exact ((MediaLine.control_sound hcontrol).2 (Transport.isRtp_eq_false_iff.2 hudp)).2

/-- Repair packets have the form that their encoding asks for. -/
theorem rtx_form (h : c.Checked v channelType p w) {r : RtxStream} (hr : c.rtx = some r) :
    r.endpoint.transport = .rtpFeedback ∧ r.endpoint.addr.isMulticast = false := by
  have he : c.endpoint? .retransmission = some r.endpoint :=
    Option.map_eq_some_iff.2 ⟨r, hr, rfl⟩
  exact (h.formed.form h.streams he).2

/-- The two control ports differ: a stream for repair has one. -/
theorem rtcpPort_ne (h : c.Checked v channelType p w) {r : RtxStream} (hr : c.rtx = some r) :
    r.endpoint.rtcpPort ≠ c.primary.endpoint.rtcpPort := by
  obtain ⟨-, hrepair, -⟩ := checkConsistency_eq_ok_iff.1 h.consistency
  obtain ⟨hports, -⟩ := checkRepair_eq_ok_iff.1 hrepair r hr
  have hlawful := h.lawful_endpoint (.retransmission, r.endpoint)
    (mem_endpoints.2 (Option.map_eq_some_iff.2 ⟨r, hr, rfl⟩))
  intro heq
  cases hport : r.endpoint.rtcpPort with
  | none =>
    have hudp := hlawful.bare.1 hport
    rw [(h.rtx_form hr).1] at hudp
    cases hudp
  | some port => exact hports port hport (heq ▸ hport)

/-- **A channel that passed all stages keeps all rules.** -/
theorem lawful (h : c.Checked v channelType p w) : c.Lawful := by
  obtain ⟨-, hrepair, hapart, hbandwidth⟩ := checkConsistency_eq_ok_iff.1 h.consistency
  obtain ⟨-, hbitRate⟩ := Parts.primary_form h.streams
  have hfec : c.fec2.isSome = true → c.fec1.isSome = true := by
    intro hsome
    rw [Option.isSome_iff_ne_none] at hsome ⊢
    exact mt (h.formed.fec_inOrder h.streams) hsome
  have hformed := h.formed
  exact {
    streams := h.lawful_endpoint
    linear := fun hlinear => Parts.Formed.linear_form (hlinear ▸ hformed) h.streams
    rtx := fun r hr => h.rtx_form hr
    bitRate := fun n hn => (hbitRate n hn).exists_kilobits
    fec := hfec
    fecMode := FecMode.ofCount_iff h.fecMode hfec
    role := h.role
    source := h.isSome_rtx.1
    lookaside := h.isSome_rtx.2
    apt := fun r hr => h.apt_form hr
    tags := h.tags
    feedback := fun fbt r hfbt hr => (checkRepair_eq_ok_iff.1 hrepair r hr).2 fbt hfbt
    target := h.fbtAddr_eq_none
    rtxControl := fun r hr => h.rtcpPort_ne hr
    apart := hapart
    bandwidth := checkBandwidth_eq_ok_iff.1 hbandwidth
    reports := Parts.sound_xr h.streams
    active := by rw [h.active, beq_iff_eq]
    complete := by rw [h.complete, Bool.and_eq_true, bne_iff_ne, bne_iff_ne]
    checksum := h.checksum
    unmarked := h.unmarked }

end Channel.Checked

/-! ## §6. Sessions. -/

theorem checkMediaCount_eq_ok_iff {channelType : ChannelType} {count : Nat} :
    checkMediaCount channelType count = .ok () ↔ channelType.minMedia ≤ count ∧ count ≤ 5 := by
  unfold checkMediaCount ChannelType.maxMedia
  rw [refuse_eq_ok_iff, not_or, Nat.not_lt, Nat.not_lt]
  exact and_iff_left rfl

theorem Channel.length_endpoints (c : Channel) : c.endpoints.length = c.toMedia.length := by
  rw [← c.map_endpoint_written, ← c.map_media_written, List.length_map, List.length_map]

/-- Every channel that is drawn from a session passed all stages. -/
theorem checked_of_extractChannel {v : SessionView} {channelType : ChannelType} {e : Extraction}
    (h : extractChannel v channelType = .ok e) : ∃ p w, e.channel.Checked v channelType p w := by
  obtain ⟨identity, -, hpassed⟩ := extractChannel_eq_ok_iff.1 h
  obtain ⟨fm, streams, rm, hdrawn, heq⟩ := SessionView.channel_eq_passed_iff.1 hpassed
  rw [heq]
  exact hdrawn.checked

/-- **Every channel that is drawn from a session keeps all rules**, and has its name, its
time and its ports from the session. -/
theorem Channel.lawful_of_extractChannel {v : SessionView} {channelType : ChannelType}
    {e : Extraction} (h : extractChannel v channelType = .ok e) :
    e.channel.Lawful ∧ e.channel.StatedBy v channelType := by
  obtain ⟨identity, -, hpassed⟩ := extractChannel_eq_ok_iff.1 h
  obtain ⟨fm, streams, rm, hdrawn, heq⟩ := SessionView.channel_eq_passed_iff.1 hpassed
  obtain ⟨p, w, hchecked⟩ := hdrawn.checked
  have hname : e.channel.name = v.name := by
    rw [heq]
    rfl
  have hstop : e.channel.stopTime = v.timing.stop := by
    rw [heq]
    rfl
  rw [← heq] at hchecked
  have hcount : e.channel.endpoints.length = v.mediaCount := by
    rw [e.channel.length_endpoints]
    exact hchecked.formed.length_endpoints hchecked.streams
  refine ⟨hchecked.lawful, hchecked.type, hname, ⟨hdrawn.start, hstop⟩, hcount, ?_, ?_⟩
  · rw [hcount]
    exact checkMediaCount_eq_ok_iff.1 hdrawn.count
  · rintro ⟨kind, endpoint⟩ hx
    obtain ⟨i, l, _, _, -, hi, hread⟩ := hchecked.formed.exists_mediaLine hchecked.streams
      (mem_endpoints.1 hx)
    obtain ⟨_, _, hmedia, -⟩ := SessionView.mediaLine_eq_ok_iff.1 hi
    exact ⟨i, l.media, hmedia, l.statesPorts hread⟩

/-- An access node that repairs losses from a copy of the stream, with all five streams. -/
def sourceText : String :=
  .ofList <| Document.unlines <| ["v=0", "o=- 7 3 IN IP4 10.0.0.1", "s=Film", "t=0 0",
    "a=rtcp-unicast:rsi", "a=group:FID 2 3", "a=group:FEC 1 4 5",
    "m=video 5000 RTP/AVPF 96", "c=IN IP4 239.0.0.1/64", "b=AS:4000", "a=recvonly",
    "a=rtpmap:96 MP2T/90000", "a=rtcp:5001 IN IP4 10.0.0.9", "a=rtcp-fb:96 nack", "a=mid:1",
    "m=video 5002 RTP/AVP 97", "c=IN IP4 239.0.0.2/64", "a=sendonly", "a=rtpmap:97 MP2T/90000",
    "a=source-filter:incl IN IP4 239.0.0.2 10.0.0.2", "a=mid:2",
    "m=video 6000 RTP/AVPF 98", "c=IN IP4 10.0.0.9", "a=sendonly", "a=rtpmap:98 rtx/90000",
    "a=fmtp:98 apt=97", "a=mid:3",
    "m=video 5010 RTP/AVP 99", "c=IN IP4 239.0.0.1/64", "a=rtpmap:99 parityfec/90000", "a=mid:4",
    "m=video 5020 RTP/AVP 100", "c=IN IP4 239.0.0.1/64", "a=rtpmap:100 2dparityfec/90000",
    "a=mid:5"].map String.toList

/-- It is drawn, and keeps the rules. -/
theorem Channel.lawful_of_extractChannel_source :
    ∃ s e, Session.ofText sourceText = .ok s ∧ extractChannel s.view .linear = .ok e
      ∧ (e.channel.mode = .source ∧ e.channel.fec2.isSome = true)
      ∧ e.channel.Lawful ∧ e.channel.StatedBy s.view .linear := by
  obtain ⟨e, he, hmode⟩ := exists_ok_of_any (x := extractText sourceText .linear)
    (p := fun e => e.channel.mode = .source ∧ e.channel.fec2.isSome = true) (by
      rw [sourceText, extractText_ofList]
      decide +kernel)
  obtain ⟨s, hs, hdrawn⟩ := extractText_eq_ok_iff.1 he
  exact ⟨s, e, hs, hdrawn, hmode, lawful_of_extractChannel hdrawn⟩

end Lineup
