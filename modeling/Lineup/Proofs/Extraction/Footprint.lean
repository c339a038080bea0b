/-
  Lineup.Proofs.Extraction.Footprint
  ──────────────────────────────────
  **WHAT IS READ OF A SESSION.**  Of all that a session may say only some kinds of lines
  are read: its origin, name and time, its groups, its feedback mode, and of every media
  stream the ports, formats, address, three kinds of bandwidths, directions and nine kinds
  of attributes.  Two sessions that agree on these give the same channel with the same
  notes, or are refused for the same reason.

  The proof runs both sessions side by side (`Agree`): every stage gives the same, up to
  what is not read, or complains in the same way.  Nothing is assumed of either run, so
  refusals are covered as well as channels.

  Main results:
    * `SessionView.mediaLine_agree` — media streams that agree have the same form;
    * `MediaLine.Agrees.primaryStream_eq`, `MediaLine.Agrees.rtxStream_eq` — and are read
      as the same streams;
    * `extractChannel_eq_of_sameFootprint` — so nothing else matters.
-/
import Lineup.Extraction.Channel
import Lineup.Proofs.Except
import Mathlib.Data.List.Forall2

namespace Lineup

open Text

/-! ## §1. The footprint. -/

/-- The kinds of bandwidths that are read. -/
def Bandwidth.readKinds : List String := ["AS", "RS", "RR"]

/-- The attributes that state a direction. -/
def Attribute.directionNames : List String := ["sendonly", "recvonly", "sendrecv", "inactive"]

/-- The attributes of a media stream that are read each for itself. -/
def Attribute.readNames : List String :=
  ["rtpmap", "rtcp", "rtcp-per-rcvr-bw", "source-filter", "mid", "rtcp-fb", "fmtp", "rtcp-xr",
    "rtcp-rsize"]

/-- Sections that agree on what is read of a media stream: in each kind of lines, but not in
how the kinds alternate. -/
structure Section.Agrees (s t : Section) : Prop where
  bandwidths : s.bandwidths.filter (·.kind ∈ Bandwidth.readKinds)
    = t.bandwidths.filter (·.kind ∈ Bandwidth.readKinds)
  directions : s.attributes.filter (·.name ∈ Attribute.directionNames)
    = t.attributes.filter (·.name ∈ Attribute.directionNames)
  attributes : ∀ name ∈ Attribute.readNames, s.attributesNamed name = t.attributesNamed name

/-- Media streams that agree on what is read, where `c` and `d` are the connections of their
sessions. -/
structure Media.Agrees (c d : Option Connection) (m n : Media) : Prop where
  port : m.port = n.port
  protocol : m.protocol = n.protocol
  formats : m.formats = n.formats
  connection : (m.body.connection <|> c) = (n.body.connection <|> d)
  body : m.body.Agrees n.body

/-- Sessions that agree on what is read. -/
structure Session.SameFootprint (s t : Session) : Prop where
  origin : s.origin = t.origin
  name : s.name = t.name
  timing : s.timing = t.timing
  groups : s.body.attributesNamed "group" = t.body.attributesNamed "group"
  feedback : s.firstAttribute "rtcp-unicast" = t.firstAttribute "rtcp-unicast"
  media : List.Forall₂ (Media.Agrees s.body.connection t.body.connection) s.media t.media

/-! ## §2. Sections. -/

section Lists

variable {α β ε : Type} {p : α → Bool}

/-- A search passes over what it does not look for. -/
theorem findSome?_filter_of_none {f : α → Option β} (h : ∀ a, p a = false → f a = none)
    (as : List α) : (as.filter p).findSome? f = as.findSome? f := by
  induction as with
  | nil => rfl
  | cons a as ih =>
    by_cases hp : p a = true
    · rw [List.filter_cons_of_pos hp, List.findSome?_cons, List.findSome?_cons, ih]
    · have hno : p a = false := by simpa using hp
      rw [List.filter_cons_of_neg hp, List.findSome?_cons, h a hno, ih]

/-- Steps that change nothing can be left out. -/
theorem foldlM_filter_of_ok {f : β → α → Except ε β} (h : ∀ b a, p a = false → f b a = .ok b)
    (as : List α) (b : β) : (as.filter p).foldlM f b = as.foldlM f b := by
  induction as generalizing b with
  | nil => rfl
  | cons a as ih =>
    by_cases hp : p a = true
    · rw [List.filter_cons_of_pos hp, List.foldlM_cons, List.foldlM_cons]
      exact congrArg (f b a >>= ·) (funext ih)
    · have hno : p a = false := by simpa using hp
      rw [List.filter_cons_of_neg hp, List.foldlM_cons, h b a hno, ih]
      rfl

/-- Lists that are related entry by entry are so at every position. -/
theorem rel_getElem? {γ : Type} {R : α → γ → Prop} {as : List α} {cs : List γ}
    (h : List.Forall₂ R as cs) (i : Nat) : Option.Rel R as[i]? cs[i]? := by
  induction h generalizing i with
  | nil => exact .none
  | cons hac _ ih =>
    cases i with
    | zero => exact .some hac
    | succ i => exact ih i

end Lists

/-- A bandwidth of another kind is no bandwidth of the control protocol. -/
theorem RtcpBandwidth.add_of_not_read (stream : StreamKind) (r : RtcpBandwidth) (b : Bandwidth)
    (h : (b.kind ∈ Bandwidth.readKinds : Bool) = false) : add stream r b = .ok r := by
  simp only [Bandwidth.readKinds, List.mem_cons, List.not_mem_nil, or_false,
    decide_eq_false_iff_not, not_or] at h
  obtain ⟨has, hrs, hrr⟩ := h
  unfold add
  rw [if_neg hrs, if_neg hrr, if_neg fun h => has h.1]

/-- An attribute of another name states no direction. -/
theorem Direction.ofAttributeName?_eq_none (a : Attribute)
    (h : (a.name ∈ Attribute.directionNames : Bool) = false) : ofAttributeName? a.name = none := by
  simp only [Attribute.directionNames, List.mem_cons, List.not_mem_nil, or_false,
    decide_eq_false_iff_not, not_or] at h
  unfold ofAttributeName?
  rw [List.lookup_eq_none_iff]
  simpa using h

theorem Section.firstAttribute_eq_head? (s : Section) (name : String) :
    s.firstAttribute name = (s.attributesNamed name).head? :=
  List.head?_filter.symm

namespace Section.Agrees

variable {s t : Section} (h : s.Agrees t) {name : String} (hname : name ∈ Attribute.readNames)

include h

include hname in
theorem firstAttribute_eq : s.firstAttribute name = t.firstAttribute name := by
  rw [firstAttribute_eq_head?, firstAttribute_eq_head?, h.attributes name hname]

include hname in
theorem attributeValue_eq : s.attributeValue name = t.attributeValue name := by
  unfold attributeValue
  rw [h.firstAttribute_eq hname]

include hname in
theorem hasAttribute_eq : s.hasAttribute name = t.hasAttribute name := by
  unfold hasAttribute
  rw [h.firstAttribute_eq hname]

include hname in
theorem attributeValues_eq : s.attributeValues name = t.attributeValues name :=
  congrArg (List.filterMap Attribute.value) (h.attributes name hname)

theorem bandwidth_eq : s.bandwidth "AS" = t.bandwidth "AS" := by
  -- the first of the kind is the first among those that are read
  have hfind : ∀ bs : List Bandwidth, bs.find? (·.kind == "AS")
      = (bs.filter (·.kind ∈ Bandwidth.readKinds)).find? (·.kind == "AS") := by
    intro bs
    rw [List.find?_filter]
    refine congrArg (bs.find? ·) (funext fun b => ?_)
    by_cases hb : b.kind = "AS"
    · simp [hb, Bandwidth.readKinds]
    · simp [hb]
  unfold bandwidth
  rw [hfind, hfind t.bandwidths, h.bandwidths]

theorem direction_eq : Direction.ofSection s = Direction.ofSection t := by
  unfold Direction.ofSection
  rw [← findSome?_filter_of_none Direction.ofAttributeName?_eq_none, h.directions,
    findSome?_filter_of_none Direction.ofAttributeName?_eq_none]

theorem rtcpBandwidth_eq (stream : StreamKind) :
    RtcpBandwidth.read stream s = RtcpBandwidth.read stream t := by
  unfold RtcpBandwidth.read RtcpBandwidth.perReceiver?
  rw [← foldlM_filter_of_ok (RtcpBandwidth.add_of_not_read stream), h.bandwidths,
    foldlM_filter_of_ok (RtcpBandwidth.add_of_not_read stream), h.attributeValue_eq (by decide)]

theorem readBitRate_eq : readBitRate s = readBitRate t := by
  unfold readBitRate
  rw [h.bandwidth_eq]

theorem readXr_eq (stream : StreamKind) : XrSettings.read stream s = XrSettings.read stream t := by
  unfold XrSettings.read XrSettings.tokensOf XrSettings.readRsize
  rw [h.attributeValues_eq (by decide), h.hasAttribute_eq (by decide)]

end Section.Agrees

/-! ## §3. Streams. -/

/-- Media streams in form that agree on what is read. -/
structure MediaLine.Agrees (l k : MediaLine) : Prop where
  index : l.index = k.index
  payloadType : l.payloadType = k.payloadType
  transport : l.transport = k.transport
  addr : l.addr = k.addr
  ttl : l.ttl = k.ttl
  port : l.media.port = k.media.port
  body : l.media.body.Agrees k.media.body

namespace MediaLine.Agrees

variable {l k : MediaLine} (h : l.Agrees k) (stream : StreamKind)

include h

theorem control_eq : l.control stream = k.control stream := by
  unfold control
  rw [h.transport, h.port, h.body.attributeValue_eq (by decide)]

theorem sourceFilter_eq : l.sourceFilter stream = k.sourceFilter stream := by
  unfold sourceFilter
  rw [h.addr, h.body.attributeValue_eq (by decide)]

theorem endpoint_eq : l.endpoint stream = k.endpoint stream := by
  unfold endpoint
  rw [h.control_eq, h.body.rtcpBandwidth_eq, h.sourceFilter_eq, h.addr, h.ttl, h.transport, h.port,
    h.payloadType, h.body.direction_eq, h.body.attributeValue_eq (by decide)]

theorem ownEndpoint_eq : l.ownEndpoint stream = k.ownEndpoint stream := by
  unfold ownEndpoint
  rw [h.endpoint_eq]

theorem requests_eq : Requests.read l = Requests.read k := by
  have hadd : Requests.add l = Requests.add k := by
    unfold Requests.add
    rw [h.index, h.payloadType]
  unfold Requests.read
  rw [hadd, h.body.attributeValues_eq (by decide)]

/-- The primary stream is read as the same one. -/
theorem primaryStream_eq : l.primaryStream = k.primaryStream := by
  unfold primaryStream
  rw [h.endpoint_eq, h.body.readBitRate_eq, h.requests_eq, h.body.readXr_eq]

/-- The stream for repair is read as the same one. -/
theorem rtxStream_eq : l.rtxStream = k.rtxStream := by
  unfold rtxStream
  rw [h.ownEndpoint_eq, h.body.attributeValue_eq (by decide), h.body.readXr_eq, h.index,
    h.payloadType]

theorem hasBitRate_eq : MediaLines.hasBitRate l = MediaLines.hasBitRate k := by
  unfold MediaLines.hasBitRate
  rw [h.body.bandwidth_eq]

theorem encoding_eq (name : List Char) : l.encoding name = k.encoding name := by
  unfold encoding
  rw [h.transport, h.addr, h.index]

end MediaLine.Agrees

/-! ## §4. The form of a media stream. -/

/-- Views that agree on what is read. -/
structure SessionView.Agrees (v w : SessionView) : Prop where
  origin : v.origin = w.origin
  name : v.name = w.name
  timing : v.timing = w.timing
  groups : Group.ofAttributes v.attributes = Group.ofAttributes w.attributes
  feedback : Attribute.find "rtcp-unicast" v.attributes = Attribute.find "rtcp-unicast" w.attributes
  count : v.mediaCount = w.mediaCount
  media : ∀ i, Option.Rel (Media.Agrees v.connection w.connection) (v.media? i) (w.media? i)

section Views

variable {v w : SessionView} (h : v.Agrees w)

include h

/-- Media streams that agree have the same form and encoding, or the same fault. -/
theorem SessionView.mediaLine_agree (i : Nat) :
    Agree (fun p q => p.1.Agrees q.1 ∧ p.2 = q.2) (v.mediaLine i) (w.mediaLine i) := by
  have hmedia := h.media i
  have hconnection : v.mediaConnection i = w.mediaConnection i := by
    unfold mediaConnection
    generalize v.media? i = o at hmedia
    generalize w.media? i = o' at hmedia
    cases hmedia with
    | some hmn => exact hmn.connection
    | none => rfl
  unfold mediaLine
  rw [hconnection]
  generalize v.media? i = o at hmedia
  generalize w.media? i = o' at hmedia
  cases hmedia with
  | none => exact .error _
  | @some m n hmn =>
    have hpayloadType : m.payloadType i = n.payloadType i := by
      unfold Media.payloadType
      rw [hmn.formats]
    have hname : m.encodingName i = n.encodingName i := by
      unfold Media.encodingName
      rw [hmn.body.attributeValue_eq (by decide)]
    dsimp only
    rw [hpayloadType, hmn.protocol, hname]
    -- the same stages follow in both, and the same values go through them
    refine (Agree.refl _).bind ?_
    rintro pt _ rfl
    cases Transport.ofProtocol? n.protocol with
    | none => exact .error _
    | some transport =>
      cases w.mediaConnection i with
      | none => exact .error _
      | some connection =>
        refine (Agree.refl connection.ipv4).bind ?_
        rintro addr _ rfl
        refine (Agree.refl _).bind ?_
        rintro name _ rfl
        have hline : MediaLine.Agrees ⟨i, m, pt, transport, addr, connection.ttl⟩
            ⟨i, n, pt, transport, addr, connection.ttl⟩ :=
          ⟨rfl, rfl, rfl, rfl, rfl, hmn.port, hmn.body⟩
        rw [hline.encoding_eq]
        refine (Agree.refl _).bind ?_
        rintro encoding _ rfl
        exact .ok ⟨hline, rfl⟩

end Views

/-! ## §5. Parts. -/

/-- Sorted media streams that agree. -/
structure MediaLines.Agrees (ls ks : MediaLines) : Prop where
  mp2t : List.Forall₂ MediaLine.Agrees ls.mp2t ks.mp2t
  rtx : Option.Rel MediaLine.Agrees ls.rtx ks.rtx
  fec : List.Forall₂ MediaLine.Agrees ls.fec ks.fec

/-- Parts that agree. -/
structure Parts.Agrees (p q : Parts) : Prop where
  primary : p.primary.Agrees q.primary
  resourced : Option.Rel MediaLine.Agrees p.resourced q.resourced
  rtx : Option.Rel MediaLine.Agrees p.rtx q.rtx
  fec1 : Option.Rel MediaLine.Agrees p.fec1 q.fec1
  fec2 : Option.Rel MediaLine.Agrees p.fec2 q.fec2

namespace MediaLines

variable {ls ks : MediaLines} {l k : MediaLine}

theorem Agrees.add (h : ls.Agrees ks) (hl : l.Agrees k) (encoding : Encoding) :
    Agree Agrees (ls.add l encoding) (ks.add k encoding) := by
  have hone : List.Forall₂ MediaLine.Agrees [l] [k] := .cons hl .nil
  obtain ⟨hmp2t, hrtx, hfec⟩ := h
  cases encoding with
  | mp2t => exact .ok ⟨List.rel_append hmp2t hone, hrtx, hfec⟩
  | rtx =>
    obtain ⟨mp2t, rtx, fec⟩ := ls
    obtain ⟨mp2t', rtx', fec'⟩ := ks
    unfold MediaLines.add
    dsimp only at hrtx ⊢
    cases hrtx with
    | some => exact .error _
    | none => exact .ok ⟨hmp2t, .some hl, hfec⟩
  | fec =>
    unfold MediaLines.add
    dsimp only
    rw [hfec.length_eq]
    by_cases htwo : ks.fec.length = 2
    · rw [if_pos htwo, if_pos htwo]
      exact .error _
    · rw [if_neg htwo, if_neg htwo]
      exact .ok ⟨hmp2t, hrtx, List.rel_append hfec hone⟩

theorem ofView_agree {v w : SessionView} (h : v.Agrees w) : Agree Agrees (ofView v) (ofView w) := by
  unfold ofView
  rw [h.count]
  refine Agree.foldlM (fun ls ks i hls => ?_) _ ⟨.nil, .none, .nil⟩
  refine (SessionView.mediaLine_agree h i).bind ?_
  rintro ⟨l, encoding⟩ ⟨k, _⟩ ⟨hl, rfl⟩
  exact hls.add hl encoding

theorem withResourced_agree (hl : l.Agrees k) {ms ns : List MediaLine}
    (h : List.Forall₂ MediaLine.Agrees ms ns) :
    Agree (fun p q => p.1.Agrees q.1 ∧ Option.Rel MediaLine.Agrees p.2 q.2)
      (withResourced l ms) (withResourced k ns) := by
  cases h with
  | nil => exact .ok ⟨hl, .none⟩
  | cons hm h =>
    cases h with
    | nil => exact .ok ⟨hl, .some hm⟩
    | cons => exact .error _

/-- The same streams are told to be the primary one and its copy. -/
theorem splitPrimary_agree {ms ns : List MediaLine} (h : List.Forall₂ MediaLine.Agrees ms ns) :
    Agree (fun p q => p.1.Agrees q.1 ∧ Option.Rel MediaLine.Agrees p.2 q.2)
      (splitPrimary ms) (splitPrimary ns) := by
  have hyes : List.Forall₂ MediaLine.Agrees (ms.filter hasBitRate) (ns.filter hasBitRate) :=
    List.rel_filter (fun l k hlk => by simp [hlk.hasBitRate_eq]) h
  have hno : List.Forall₂ MediaLine.Agrees (ms.filter (not ∘ hasBitRate))
      (ns.filter (not ∘ hasBitRate)) :=
    List.rel_filter (fun l k hlk => by simp [hlk.hasBitRate_eq]) h
  unfold splitPrimary
  rw [List.partition_eq_filter_filter, List.partition_eq_filter_filter]
  generalize ms.filter hasBitRate = yes at hyes
  generalize ns.filter hasBitRate = yes' at hyes
  generalize ms.filter (not ∘ hasBitRate) = no at hno
  generalize ns.filter (not ∘ hasBitRate) = no' at hno
  cases hyes with
  | nil =>
    cases hno with
    | nil => exact .error _
    | cons hl hrest => exact withResourced_agree hl hrest
  | cons hl hyes =>
    cases hyes with
    | nil => exact withResourced_agree hl hno
    | cons => exact .error _

end MediaLines

namespace Parts.Agrees

variable {p q : Parts} (h : p.Agrees q)

include h

theorem checkLinear_eq : p.checkLinear = q.checkLinear := by
  -- only kinds and addresses are looked at
  have hone : ∀ {l k : MediaLine} (kind : StreamKind), l.Agrees k →
      checkMulticast (kind, l) = checkMulticast (kind, k) := by
    intro l k kind hlk
    unfold checkMulticast
    dsimp only
    rw [hlk.addr]
  have heach : ∀ {xs ys : List (StreamKind × MediaLine)},
      List.Forall₂ (fun x y => x.1 = y.1 ∧ x.2.Agrees y.2) xs ys →
      xs.forM checkMulticast = ys.forM checkMulticast := by
    intro xs ys hxs
    induction hxs with
    | nil => rfl
    | @cons x y xs ys hxy _ ih =>
      obtain ⟨kind, l⟩ := x
      obtain ⟨_, k⟩ := y
      obtain ⟨rfl, hlk⟩ := hxy
      show (checkMulticast (kind, l) >>= fun _ => xs.forM checkMulticast) = _
      rw [hone kind hlk, ih]
      rfl
  have hoption : ∀ {o o' : Option MediaLine} (kind : StreamKind), Option.Rel MediaLine.Agrees o o' →
      List.Forall₂ (fun x y => x.1 = y.1 ∧ x.2.Agrees y.2)
        (o.map fun l => (kind, l)).toList (o'.map fun l => (kind, l)).toList := by
    intro o o' kind ho
    cases ho with
    | none => exact .nil
    | some hlk => exact .cons ⟨rfl, hlk⟩ .nil
  have hdistribution : p.distribution.forM checkMulticast = q.distribution.forM checkMulticast :=
    heach (.cons ⟨rfl, h.primary⟩ (List.rel_append (List.rel_append (hoption .resourced h.resourced)
      (hoption .fec1 h.fec1)) (hoption .fec2 h.fec2)))
  unfold checkLinear
  rw [hdistribution, h.primary.port]

/-- Parts that agree are read as the same streams. -/
theorem streams_eq : p.streams = q.streams := by
  have hoption : ∀ {α : Type} {o o' : Option MediaLine} {f : MediaLine → Check α},
      Option.Rel MediaLine.Agrees o o' → (∀ l k, l.Agrees k → f l = f k) →
      Check.ofOption f o = Check.ofOption f o' := by
    intro α o o' f ho hf
    cases ho with
    | none => rfl
    | some hlk =>
      unfold Check.ofOption
      dsimp only
      rw [hf _ _ hlk]
  unfold streams
  rw [h.primary.primaryStream_eq, hoption h.resourced fun l k hlk => hlk.ownEndpoint_eq .resourced,
    hoption h.rtx fun l k hlk => hlk.rtxStream_eq,
    hoption h.fec1 fun l k hlk => hlk.ownEndpoint_eq .fec1,
    hoption h.fec2 fun l k hlk => hlk.ownEndpoint_eq .fec2]

end Parts.Agrees

theorem Parts.ofView_agree {v w : SessionView} (h : v.Agrees w) (channelType : ChannelType) :
    Agree Parts.Agrees (ofView v channelType) (ofView w channelType) := by
  have hlast : ∀ {p q : Parts}, p.Agrees q → Agree Parts.Agrees
      (do if channelType = .linear then p.checkLinear
          return p : Except ValidationError Parts)
      (do if channelType = .linear then q.checkLinear
          return q) := by
    intro p q hpq
    by_cases hlinear : channelType = .linear
    · rw [if_pos hlinear, if_pos hlinear, hpq.checkLinear_eq]
      exact (Agree.refl _).bind fun _ _ _ => .ok hpq
    · rw [if_neg hlinear, if_neg hlinear]
      exact .ok hpq
  unfold ofView
  refine (MediaLines.ofView_agree h).bind fun ls ks hls => ?_
  refine (MediaLines.splitPrimary_agree hls.mp2t).bind ?_
  rintro ⟨l, o⟩ ⟨k, o'⟩ ⟨hlk, ho⟩
  have hparts : Parts.Agrees ⟨l, o, ls.rtx, ls.fec[0]?, ls.fec[1]?⟩
      ⟨k, o', ks.rtx, ks.fec[0]?, ks.fec[1]?⟩ :=
    ⟨hlk, ho, hls.rtx, rel_getElem? hls.fec 0, rel_getElem? hls.fec 1⟩
  dsimp only at ho ⊢
  cases ho with
  | none => exact hlast hparts
  | some hcopy =>
    dsimp only
    rw [hcopy.transport, hcopy.index]
    split
    · exact .error _
    · exact hlast hparts

/-! ## §6. Channels. -/

/-- A check that goes on with what two computations agree on. -/
theorem Check.bind_eq_of_agree {α β γ : Type} {R : α → β → Prop} {x : Except ValidationError α}
    {y : Except ValidationError β} {f : α → Check γ} {g : β → Check γ} (h : Agree R x y)
    (hf : ∀ a b, R a b → f a = g b) :
    ((liftM x : Check α) >>= f) = ((liftM y : Check β) >>= g) := by
  show (ofExcept x >>= f) = (ofExcept y >>= g)
  cases h with
  | @ok a b hab =>
    show (passed a [] >>= f) = (passed b [] >>= g)
    rw [bind_passed, bind_passed, hf a b hab]
  | error e => rfl

/-- **Views that agree on what is read give the same channel**, with the same notes, or the
same complaint. -/
theorem extractChannel_eq_of_agrees {v w : SessionView} (h : v.Agrees w)
    (channelType : ChannelType) : extractChannel v channelType = extractChannel w channelType := by
  have hchannel : ∀ identity, v.channel channelType identity = w.channel channelType identity := by
    intro identity
    have hfeedback : FeedbackMode.read v = FeedbackMode.read w := by
      unfold FeedbackMode.read
      rw [h.feedback]
    unfold SessionView.channel
    rw [h.timing, hfeedback, h.count]
    refine congrArg (_ >>= ·) (funext fun _ => ?_)
    refine congrArg (_ >>= ·) (funext fun feedbackMode => ?_)
    refine congrArg (_ >>= ·) (funext fun _ => ?_)
    refine Check.bind_eq_of_agree (Parts.ofView_agree h channelType) fun p q hpq => ?_
    -- what follows reads the name, the time and the groups, and nothing else of the session
    have hsame : ∀ (s : Streams) (roleMode : Role × Mode),
        s.channel v channelType identity feedbackMode roleMode
          = s.channel w channelType identity feedbackMode roleMode := by
      intro s roleMode
      unfold Streams.channel
      rw [h.name, h.timing]
    rw [hpq.streams_eq, h.groups]
    simp only [hsame]
  unfold extractChannel
  rw [h.origin]
  cases SessionIdentity.ofOrigin w.origin with
  | error e => rfl
  | ok identity =>
    dsimp only
    rw [hchannel]

/-! ## §7. Sessions. -/

theorem Session.SameFootprint.view {s t : Session} (h : s.SameFootprint t) :
    s.view.Agrees t.view where
  origin := h.origin
  name := h.name
  timing := h.timing
  groups := congrArg (fun as => (as.filterMap Attribute.value).filterMap Group.ofValue?) h.groups
  feedback := h.feedback
  count := h.media.length_eq
  media := rel_getElem? h.media

/-- **NOTHING ELSE OF A SESSION MATTERS.** Two sessions that agree on what is read give the same
channel with the same notes, or are refused for the same reason, whatever they say besides,
and in whatever way lines of different kinds alternate. -/
theorem extractChannel_eq_of_sameFootprint {s t : Session} (h : s.SameFootprint t)
    (channelType : ChannelType) :
    extractChannel s.view channelType = extractChannel t.view channelType :=
  extractChannel_eq_of_agrees h.view channelType

/-- A broadcast that says what is read and nothing else. -/
def terseSession : Session where
  version := "0"
  origin := ⟨"-", "1", "1", "IN", "IP4", "10.0.0.1"⟩
  name := "News"
  timing := ⟨0, 0⟩
  body := .empty
  media := [{
    media := "video", port := 5000, portCount := none, protocol := "RTP/AVP", formats := ["33"]
    body := {
      information := none, connection := some (.ip4 "239.0.0.1" (some 64))
      bandwidths := [⟨"AS", 4000⟩], attributes := [.flag "sendonly", .valued "mid" "1"] } }]

/-- The same broadcast, with the connection in the section of the session, attributes in
another order, and much that is not read. -/
def wordySession : Session where
  version := "0"
  origin := ⟨"-", "1", "1", "IN", "IP4", "10.0.0.1"⟩
  name := "News"
  timing := ⟨0, 0⟩
  body := {
    information := some "Every hour", connection := some (.ip4 "239.0.0.1" (some 64))
    bandwidths := [⟨"CT", 9000⟩], attributes := [.valued "tool" "encoder"] }
  media := [{
    media := "audio", port := 5000, portCount := some 2, protocol := "RTP/AVP", formats := ["33"]
    body := {
      information := some "Main", connection := none
      bandwidths := [⟨"TIAS", 1⟩, ⟨"AS", 4000⟩]
      attributes := [.valued "mid" "1", .valued "ptime" "20", .flag "sendonly"] } }]

/-- Both are drawn as one channel. -/
theorem extractChannel_eq_of_sameFootprint_wordy :
    terseSession.SameFootprint wordySession ∧
      (∃ e, extractChannel terseSession.view .linear = .ok e) ∧
      extractChannel terseSession.view .linear = extractChannel wordySession.view .linear := by
  have hbody : ∀ m ∈ terseSession.media, ∀ n ∈ wordySession.media, m.body.Agrees n.body := by
    intro m hm n hn
    rw [List.mem_singleton.1 hm, List.mem_singleton.1 hn]
    exact ⟨by decide, by decide, by decide⟩
  have hsame : terseSession.SameFootprint wordySession :=
    ⟨rfl, rfl, rfl, rfl, rfl,
      .cons ⟨rfl, rfl, rfl, rfl, hbody _ List.mem_cons_self _ List.mem_cons_self⟩ .nil⟩
  obtain ⟨e, he, -⟩ := exists_ok_of_any (x := extractChannel terseSession.view .linear)
    (p := fun e => e.channel.primary.endpoint.rtpPort = 5000) (by decide +kernel)
  exact ⟨hsame, ⟨e, he⟩, extractChannel_eq_of_sameFootprint hsame .linear⟩

end Lineup
