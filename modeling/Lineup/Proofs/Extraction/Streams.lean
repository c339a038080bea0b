/-
  Lineup.Proofs.Extraction.Streams
  ────────────────────────────────
  **THE STREAMS OF A CHANNEL ARE READ BACK.**  What the primary stream and the
  stream for repair have of their own is written in one unit and read in another:
  bit rates in kilobits, requests as feedback attributes, repair as parameters.
  Every channel that was drawn is in order (`Channel.Sound`), and a channel in
  order gives all its streams back.

  Main results:
    * `Parts.Formed.exists_mediaLine` — every stream was read from a media stream that has
      its encoding;
    * `Parts.Formed.sound_channel` — a channel that was drawn is in order;
    * `Channel.Sound.streams_written` — its streams are read back.
-/
import Lineup.Proofs.Extraction.Media
import Lineup.Proofs.Extraction.Reports

namespace Lineup

open Text

/-! ## §1. Bit rates. -/

/-- A bit rate that a primary stream can have: whole kilobits, up to the limit. -/
def IsBitRate (n : UInt32) : Prop :=
  ∃ k : UInt64, 1 ≤ k ∧ k ≤ maxBitRate ∧ n = UInt32.ofNat (k.toNat * 1000)

theorem isBitRate_of_read {s : Section} {n : UInt32} (h : readBitRate s = .ok (some n)) :
    IsBitRate n := by
  unfold readBitRate at h
  split at h
  · cases h
  · next k _ =>
    split at h
    · next hk =>
      cases h
      exact ⟨k, hk.1, hk.2, rfl⟩
    · cases h

/-- A bit rate in kilobits is the number it was made from. -/
theorem IsBitRate.div_toUInt64 {k : UInt64} (hk : k ≤ maxBitRate) :
    (UInt32.ofNat (k.toNat * 1000) / 1000).toUInt64 = k := by
  -- the limit keeps the bits within 32
  have hle : k.toNat ≤ 40000 := UInt64.le_iff_toNat_le.1 hk
  have hsize : UInt32.size = 4294967296 := rfl
  have hmul : (UInt32.ofNat (k.toNat * 1000)).toNat = k.toNat * 1000 :=
    UInt32.toNat_ofNat_of_lt' (by omega)
  apply UInt64.toNat_inj.1
  have hthousand : (1000 : UInt32).toNat = 1000 := rfl
  rw [UInt32.toNat_toUInt64, UInt32.toNat_div, hmul, hthousand]
  omega

theorem readBitRate_written {s : Section} {bitRate : Option UInt32} {e : Endpoint}
    (hrate : ∀ n, bitRate = some n → IsBitRate n)
    (hs : s.bandwidths = (bitRate.map fun n => (⟨"AS", (n / 1000).toUInt64⟩ : Bandwidth)).toList
      ++ e.bandwidths) : readBitRate s = .ok bitRate := by
  -- the other bandwidths are of other kinds
  have hfind : s.bandwidth "AS" = bitRate.map fun n => (n / 1000).toUInt64 := by
    unfold Section.bandwidth
    rw [hs, List.find?_append, e.find_bandwidths, Option.or_none]
    cases bitRate with
    | _ => rfl
  unfold readBitRate
  rw [hfind]
  cases bitRate with
  | none => rfl
  | some n =>
    obtain ⟨k, hone, hmax, rfl⟩ := hrate n rfl
    rw [Option.map_some, IsBitRate.div_toUInt64 hmax]
    dsimp only
    rw [if_pos ⟨hone, hmax⟩]

/-! ## §2. Requests. -/

theorem cutWhite_ptText (e : Endpoint) (rest : List Char) :
    cutWhite (e.ptText.toList ++ ' ' :: rest) = (e.ptText.toList, rest) := by
  have hfree : ∀ c ∈ e.ptText.toList, isWhite c = false := (isWord_number e.payloadType.toNat).2
  unfold cutWhite
  rw [cut_append hfree (by decide)]
  rfl

section Requests

variable {e : Endpoint} {index : Nat} {m : Media}

/-- What an attribute about the stream's own payload type allows. -/
theorem Requests.add_written (r : Requests) (feedback : String) :
    add (e.line index m) r (e.ptText ++ (" " ++ feedback))
      = if words isWhite feedback.toList = ["nack".toList] then .ok { r with er := true }
        else if words isWhite feedback.toList = ["nack".toList, "pli".toList] then
          .ok { r with fcc := true }
        else .ok r := by
  have hlist : (e.ptText ++ (" " ++ feedback)).toList
      = e.ptText.toList ++ ' ' :: feedback.toList := by
    simp
  -- digits are never the mark for all payload types
  have hstar : e.ptText.toList ≠ ['*'] := by
    intro hstar
    have hmem : '*' ∈ e.ptText.toList := by
      rw [hstar]
      exact List.mem_cons_self
    exact absurd (isDigit_of_mem_decimal hmem) (by decide)
  unfold add
  rw [hlist, cutWhite_ptText]
  dsimp only
  rw [if_pos hstar]
  show (checkPayloadType index "rtcp-fb" e.payloadType (decimal e.payloadType.toNat).toList
    >>= _) = _
  rw [checkPayloadType_decimal]
  rfl

theorem Requests.read_written {er fcc : Bool}
    (hvalues : m.body.attributeValues "rtcp-fb"
      = (if er then [e.ptText ++ " nack"] else [])
        ++ if fcc then [e.ptText ++ " nack pli"] else []) :
    read (e.line index m) = .ok ⟨er, fcc⟩ := by
  have hnack : ∀ r : Requests, add (e.line index m) r (e.ptText ++ " nack")
      = .ok { r with er := true } := by
    intro r
    have hspace : " nack" = " " ++ "nack" := by decide
    rw [hspace, add_written, if_pos (by decide)]
  have hpli : ∀ r : Requests, add (e.line index m) r (e.ptText ++ " nack pli")
      = .ok { r with fcc := true } := by
    intro r
    have hspace : " nack pli" = " " ++ "nack pli" := by decide
    rw [hspace, add_written, if_neg (by decide), if_pos (by decide)]
  show (m.body.attributeValues "rtcp-fb").foldlM (add (e.line index m)) ⟨false, false⟩ = _
  rw [hvalues, List.foldlM_append]
  -- both requests in turn, each there or not
  cases er with
  | false =>
    cases fcc with
    | false => rfl
    | true =>
      simp only [Bool.false_eq_true, if_false, if_true, List.foldlM_nil, List.foldlM_cons, hpli]
      rfl
  | true =>
    cases fcc with
    | false =>
      simp only [Bool.false_eq_true, if_false, if_true, List.foldlM_nil, List.foldlM_cons, hnack]
      rfl
    | true =>
      simp only [if_true, List.foldlM_nil, List.foldlM_cons, hnack]
      show add (e.line index m) ⟨true, false⟩ _ >>= pure = _
      rw [hpli]
      rfl

end Requests

/-! ## §3. The primary stream. -/

/-- What it takes to read the primary stream. -/
theorem MediaLine.primaryStream_eq_passed_iff {l : MediaLine} {p : PrimaryParts}
    {w : List Warning} :
    l.primaryStream = .passed p w ↔
      ∃ u v, l.endpoint .primary = .passed (p.stream.endpoint, p.fbtAddr) u
        ∧ readBitRate l.media.body = .ok p.stream.bitRate ∧ Requests.read l = .ok p.requests
        ∧ XrSettings.read .primary l.media.body = .passed p.stream.xr v ∧ w = u ++ v := by
  unfold primaryStream
  constructor
  · intro h
    obtain ⟨⟨e, fbt⟩, u, rest, he, h₁, rfl⟩ := Check.bind_eq_passed_iff.1 h
    obtain ⟨rate, hrate, h₂⟩ := Check.liftM_bind_eq_passed_iff.1 h₁
    obtain ⟨requests, hrequests, h₃⟩ := Check.liftM_bind_eq_passed_iff.1 h₂
    obtain ⟨xr, v, last, hxr, hlast, rfl⟩ := Check.bind_eq_passed_iff.1 h₃
    obtain ⟨rfl, rfl⟩ := Check.pure_eq_passed_iff.1 hlast
    rw [List.append_nil]
    exact ⟨u, v, he, hrate, hrequests, hxr, rfl⟩
  · rintro ⟨u, v, he, hrate, hrequests, hxr, rfl⟩
    refine Check.bind_eq_passed_iff.2 ⟨_, u, v, he, ?_, rfl⟩
    refine Check.liftM_bind_eq_passed_iff.2 ⟨_, hrate, ?_⟩
    refine Check.liftM_bind_eq_passed_iff.2 ⟨_, hrequests, ?_⟩
    exact Check.bind_eq_passed_iff.2 ⟨_, v, [], hxr, rfl, (List.append_nil v).symm⟩

/-- The attributes that ask for reports, behind others that do not. -/
theorem XrSettings.valuesOf_attributes {x : XrSettings} {as : List Attribute}
    (has : ∀ a ∈ as, a.name ∈ ["rtcp-fb", "fmtp"]) :
    Attribute.valuesOf "rtcp-xr" (as ++ x.attributes) = x.toValue?.toList
      ∧ (Attribute.find "rtcp-rsize" (as ++ x.attributes)).isSome = x.rtcpRsize := by
  -- what stands in front has other names
  have hne : ∀ name ∈ ["rtcp-xr", "rtcp-rsize"], ∀ a ∈ as, a.name ≠ name := by
    rintro name hname a ha rfl
    have hspecial := has a ha
    simp only [List.mem_cons, List.not_mem_nil, or_false] at hname hspecial
    rcases hname with hname | hname
    all_goals
      rw [hname] at hspecial
      simp at hspecial
  constructor
  · rw [Attribute.valuesOf_append, Attribute.valuesOf_eq_nil (hne _ (by simp)), List.nil_append]
    unfold attributes
    rw [Attribute.valuesOf_append, Attribute.valuesOf_optional, if_pos rfl]
    cases x.rtcpRsize with
    | _ => simp [Attribute.valuesOf, Attribute.flag]
  · rw [Attribute.find_append, Attribute.find_eq_none (hne _ (by simp)), Option.none_or]
    unfold attributes
    rw [Attribute.find_append, Attribute.find_optional, if_neg (by decide), Option.none_or]
    cases x.rtcpRsize with
    | _ => rfl

/-- The attributes that only the primary stream has. -/
def Channel.requestAttributes (c : Channel) : List Attribute :=
  (if c.erEnable then [.valued "rtcp-fb" (c.primary.endpoint.ptText ++ " nack")] else [])
    ++ if c.fccEnable then [.valued "rtcp-fb" (c.primary.endpoint.ptText ++ " nack pli")] else []

theorem Channel.name_of_mem_requestAttributes {c : Channel} {a : Attribute}
    (h : a ∈ c.requestAttributes) : a.name = "rtcp-fb" := by
  rcases List.mem_append.1 h with h | h
  · rw [eq_of_mem_ite h]
    rfl
  · rw [eq_of_mem_ite h]
    rfl

theorem Channel.special_requestAttributes (c : Channel) :
    Special (c.requestAttributes ++ c.primary.xr.attributes) := by
  intro a ha
  rcases List.mem_append.1 ha with ha | ha
  · rw [name_of_mem_requestAttributes ha]
    exact List.mem_cons_self
  · exact XrSettings.special_attributes _ a ha

/-- The primary stream of a channel in order is read back. -/
theorem Channel.primaryStream_line {c : Channel} (index : Nat)
    (hendpoint : c.primary.endpoint.Sound c.fbtAddr)
    (hrate : ∀ n, c.primary.bitRate = some n → IsBitRate n) (hxr : c.primary.xr.Sound .primary) :
    (c.primary.endpoint.line index c.primaryMedia).primaryStream
      = .passed ⟨c.primary, c.fbtAddr, ⟨c.erEnable, c.fccEnable⟩⟩
        (c.primary.endpoint.notes .primary) := by
  have hleading : Leading .primary
      (c.primary.bitRate.map fun n => (⟨"AS", (n / 1000).toUInt64⟩ : Bandwidth)).toList := by
    intro b hb
    rw [Option.mem_toList, Option.map_eq_some_iff] at hb
    obtain ⟨n, -, rfl⟩ := hb
    exact ⟨rfl, rfl⟩
  have hnames : ∀ a ∈ c.requestAttributes, a.name ∈ ["rtcp-fb", "fmtp"] := by
    intro a ha
    rw [name_of_mem_requestAttributes ha]
    exact List.mem_cons_self
  obtain ⟨hreports, hrsize⟩ := XrSettings.valuesOf_attributes (x := c.primary.xr) hnames
  have hrequests : Attribute.valuesOf "rtcp-fb" (c.requestAttributes ++ c.primary.xr.attributes)
      = (if c.erEnable then [c.primary.endpoint.ptText ++ " nack"] else [])
        ++ if c.fccEnable then [c.primary.endpoint.ptText ++ " nack pli"] else [] := by
    -- the attributes for reports are no requests
    have hxrNames : ∀ a ∈ c.primary.xr.attributes, a.name ≠ "rtcp-fb" := by
      intro a ha
      rcases List.mem_append.1 ha with ha | ha
      · rw [name_of_mem_optional ha]
        decide
      · rw [eq_of_mem_ite ha]
        decide
    rw [Attribute.valuesOf_append, Attribute.valuesOf_eq_nil hxrNames, List.append_nil]
    unfold requestAttributes
    cases c.erEnable with
    | _ => cases c.fccEnable with
      | _ => simp [Attribute.valuesOf, Attribute.valued]
  refine MediaLine.primaryStream_eq_passed_iff.2 ⟨_, [],
    hendpoint.endpoint_line hleading c.special_requestAttributes index, ?_, ?_, ?_, ?_⟩
  · exact readBitRate_written hrate rfl
  · refine Requests.read_written ?_
    rw [← hrequests]
    exact Endpoint.valuesOf_toMedia (by simp)
  · refine hxr.read_attributes ?_ ?_
    · rw [← hreports]
      exact Endpoint.valuesOf_toMedia (by simp)
    · rw [← hrsize]
      exact congrArg Option.isSome (Endpoint.firstAttribute_toMedia (by simp))
  · rw [List.append_nil]

/-! ## §4. The stream for repair. -/

/-- Parameters of repair are read back. -/
theorem RepairParams.read_written (apt : UInt8) (ms : UInt32) :
    read ("apt=".toList ++ (decimal apt.toNat).toList
      ++ ';' :: ("rtx-time=".toList ++ (decimal ms.toNat).toList)) = .ok ⟨some apt, some ms⟩ := by
  -- names and digits hold neither white space nor a semicolon
  have hparam : ∀ (name : List Char) (n : Nat), (∀ c ∈ name, isWhite c = false ∧ c ≠ ';') →
      ∀ c ∈ name ++ (decimal n).toList, isWhite c = false ∧ c ≠ ';' := by
    intro name n hname c hc
    rcases List.mem_append.1 hc with hc | hc
    · exact hname c hc
    · have hdigit := isDigit_of_mem_decimal hc
      exact ⟨isWhite_of_isDigit hdigit, ne_of_isDigit hdigit (by decide)⟩
  have hapt := hparam "apt=".toList apt.toNat (by decide)
  have htime := hparam "rtx-time=".toList ms.toNat (by decide)
  have hpieces : pieces (· == ';') ("apt=".toList ++ (decimal apt.toNat).toList
        ++ ';' :: ("rtx-time=".toList ++ (decimal ms.toNat).toList))
      = ["apt=".toList ++ (decimal apt.toNat).toList,
        "rtx-time=".toList ++ (decimal ms.toNat).toList] := by
    rw [pieces_append (fun c hc => by simpa using (hapt c hc).2) (by decide),
      pieces_eq_singleton fun c hc => by simpa using (htime c hc).2]
  have hnumber : ∀ n : Nat, trim (decimal n).toList = (decimal n).toList := fun n =>
    trim_of_free (isWord_number n).2
  -- each parameter sets its field
  have haddApt : ∀ r : RepairParams, add r ("apt=".toList ++ (decimal apt.toNat).toList)
      = .ok { r with apt := some apt } := by
    intro r
    have hcut : cut (· == '=') ("apt=".toList ++ (decimal apt.toNat).toList)
        = some ("apt".toList, (decimal apt.toNat).toList) :=
      cut_append (a := "apt".toList) (by decide) (by decide)
    unfold add
    rw [hcut]
    dsimp only
    rw [if_pos rfl, hnumber, uint8?_decimal]
  have haddTime : ∀ r : RepairParams, add r ("rtx-time=".toList ++ (decimal ms.toNat).toList)
      = .ok { r with rtxTime := some ms } := by
    intro r
    have hcut : cut (· == '=') ("rtx-time=".toList ++ (decimal ms.toNat).toList)
        = some ("rtx-time".toList, (decimal ms.toNat).toList) :=
      cut_append (a := "rtx-time".toList) (by decide) (by decide)
    unfold add
    rw [hcut]
    dsimp only
    rw [if_neg (by decide), if_pos rfl, hnumber, uint32?_decimal]
  unfold read
  rw [hpieces, List.map_cons, List.map_cons, List.map_nil,
    trim_of_free fun c hc => (hapt c hc).1, trim_of_free fun c hc => (htime c hc).1]
  rw [List.filter_cons_of_pos (by simp), List.filter_cons_of_pos (by simp), List.filter_nil,
    List.foldlM_cons, haddApt]
  show List.foldlM add ⟨some apt, none⟩ [_] = _
  rw [List.foldlM_cons, haddTime]
  rfl

/-- The parts of the stream for repair, where it was read. -/
theorem MediaLine.parts_of_rtxStream {l : MediaLine} {r : RtxStream} {w : List Warning}
    (h : l.rtxStream = .passed r w) :
    (∃ u, l.ownEndpoint .retransmission = .passed r.endpoint u)
      ∧ ∃ v, XrSettings.read .retransmission l.media.body = .passed r.xr v := by
  unfold rtxStream at h
  obtain ⟨e, u, _, he, h₁, -⟩ := Check.bind_eq_passed_iff.1 h
  obtain ⟨fmtp, -, h₂⟩ := Check.need_bind_eq_passed_iff.1 h₁
  obtain ⟨-, -, h₃⟩ := Check.liftM_bind_eq_passed_iff.1 h₂
  obtain ⟨params, -, h₄⟩ := Check.liftM_bind_eq_passed_iff.1 h₃
  obtain ⟨apt, -, h₅⟩ := Check.need_bind_eq_passed_iff.1 h₄
  -- whatever the time is, the rest is read in the same way
  have hlast : ∀ {ms : UInt32} {w : List Warning},
      (do
        let xr ← XrSettings.read .retransmission l.media.body
        return ⟨e, apt, ms, xr⟩ : Check RtxStream) = .passed r w →
      e = r.endpoint ∧ ∃ v, XrSettings.read .retransmission l.media.body = .passed r.xr v := by
    intro ms w hms
    obtain ⟨xr, v, _, hxr, hpure, -⟩ := Check.bind_eq_passed_iff.1 hms
    obtain ⟨rfl, -⟩ := Check.pure_eq_passed_iff.1 hpure
    exact ⟨rfl, v, hxr⟩
  cases hms : params.rtxTime with
  | none =>
    rw [hms] at h₅
    obtain ⟨_, _, _, -, h₆, -⟩ := Check.bind_eq_passed_iff.1 h₅
    rw [pure_bind] at h₆
    obtain ⟨rfl, hxr⟩ := hlast h₆
    exact ⟨⟨u, he⟩, hxr⟩
  | some ms =>
    rw [hms] at h₅
    dsimp only at h₅
    rw [pure_bind] at h₅
    obtain ⟨rfl, hxr⟩ := hlast h₅
    exact ⟨⟨u, he⟩, hxr⟩

/-- The stream for repair of a channel in order is read back. -/
theorem RtxStream.rtxStream_line {r : RtxStream} (index : Nat) (hendpoint : r.endpoint.Sound none)
    (hxr : r.xr.Sound .retransmission) :
    (r.endpoint.line index (Channel.rtxMedia r)).rtxStream
      = .passed r (r.endpoint.notes .retransmission) := by
  have hspecial : Special (Attribute.valued "fmtp" (r.endpoint.ptText ++ " apt="
      ++ decimal r.apt.toNat ++ ";rtx-time=" ++ decimal r.rtxTimeMs.toNat) :: r.xr.attributes) := by
    intro a ha
    rcases List.mem_cons.1 ha with rfl | ha
    · simp [Attribute.valued]
    · exact XrSettings.special_attributes _ a ha
  have hleading : Leading .retransmission [] := by
    intro b hb
    cases hb
  have hfmtp : (Channel.rtxMedia r).body.attributeValue "fmtp"
      = some (r.endpoint.ptText ++ " apt=" ++ decimal r.apt.toNat ++ ";rtx-time="
        ++ decimal r.rtxTimeMs.toNat) := by
    show ((Channel.rtxMedia r).body.firstAttribute "fmtp").bind _ = _
    rw [show (Channel.rtxMedia r).body.firstAttribute "fmtp" = _ from
      Endpoint.firstAttribute_toMedia (by simp)]
    rfl
  have hcut : cutWhite (r.endpoint.ptText ++ " apt=" ++ decimal r.apt.toNat ++ ";rtx-time="
        ++ decimal r.rtxTimeMs.toNat).toList
      = (r.endpoint.ptText.toList, "apt=".toList ++ (decimal r.apt.toNat).toList
        ++ ';' :: ("rtx-time=".toList ++ (decimal r.rtxTimeMs.toNat).toList)) := by
    rw [← cutWhite_ptText]
    simp
  have hnames : ∀ a ∈ [Attribute.valued "fmtp" (r.endpoint.ptText ++ " apt="
      ++ decimal r.apt.toNat ++ ";rtx-time=" ++ decimal r.rtxTimeMs.toNat)],
      a.name ∈ ["rtcp-fb", "fmtp"] := by
    intro a ha
    rw [List.mem_singleton.1 ha]
    simp [Attribute.valued]
  obtain ⟨hreports, hrsize⟩ := XrSettings.valuesOf_attributes (x := r.xr) hnames
  have hread : XrSettings.read .retransmission (Channel.rtxMedia r).body = pure r.xr := by
    refine hxr.read_attributes ?_ ?_
    · rw [← hreports]
      exact Endpoint.valuesOf_toMedia (by simp)
    · rw [← hrsize]
      exact congrArg Option.isSome (Endpoint.firstAttribute_toMedia (by simp))
  unfold MediaLine.rtxStream
  refine Check.bind_eq_passed_iff.2 ⟨r.endpoint, _, [],
    hendpoint.ownEndpoint_line hleading hspecial index, ?_, (List.append_nil _).symm⟩
  refine Check.need_bind_eq_passed_iff.2 ⟨_, hfmtp, ?_⟩
  rw [hcut]
  refine Check.liftM_bind_eq_passed_iff.2 ⟨(), checkPayloadType_decimal _ _ _, ?_⟩
  refine Check.liftM_bind_eq_passed_iff.2 ⟨_, RepairParams.read_written r.apt r.rtxTimeMs, ?_⟩
  refine Check.need_bind_eq_passed_iff.2 ⟨_, rfl, ?_⟩
  dsimp only
  rw [pure_bind]
  show (XrSettings.read .retransmission (Channel.rtxMedia r).body >>= _) = _
  rw [hread]
  rfl

/-! ## §5. All streams. -/

theorem Check.ofOption_eq_passed_iff {α β : Type} {f : α → Check β} {o : Option α} {r : Option β}
    {w : List Warning} :
    ofOption f o = .passed r w ↔
      (o = none ∧ r = none ∧ w = []) ∨ ∃ a b, o = some a ∧ r = some b ∧ f a = .passed b w := by
  cases o with
  | none =>
    constructor
    · intro h
      obtain ⟨rfl, rfl⟩ := pure_eq_passed_iff.1 h
      exact Or.inl ⟨rfl, rfl, rfl⟩
    · rintro (⟨-, rfl, rfl⟩ | ⟨a, b, ha, -⟩)
      · rfl
      · cases ha
  | some a =>
    constructor
    · intro h
      obtain ⟨b, u, v, hb, hlast, rfl⟩ := bind_eq_passed_iff.1 h
      obtain ⟨rfl, rfl⟩ := pure_eq_passed_iff.1 hlast
      rw [List.append_nil]
      exact Or.inr ⟨a, b, rfl, rfl, hb⟩
    · rintro (⟨ha, -, -⟩ | ⟨a', b, ⟨⟩, rfl, hb⟩)
      · cases ha
      · exact bind_eq_passed_iff.2 ⟨b, w, [], hb, rfl, (List.append_nil w).symm⟩

theorem Parts.streams_eq_passed_iff {p : Parts} {s : Streams} {w : List Warning} :
    p.streams = .passed s w ↔
      ∃ u₁ u₂ u₃ u₄ u₅, p.primary.primaryStream = .passed s.primary u₁
        ∧ Check.ofOption (·.ownEndpoint .resourced) p.resourced = .passed s.resourced u₂
        ∧ Check.ofOption MediaLine.rtxStream p.rtx = .passed s.rtx u₃
        ∧ Check.ofOption (·.ownEndpoint .fec1) p.fec1 = .passed s.fec1 u₄
        ∧ Check.ofOption (·.ownEndpoint .fec2) p.fec2 = .passed s.fec2 u₅
        ∧ w = u₁ ++ (u₂ ++ (u₃ ++ (u₄ ++ u₅))) := by
  unfold streams
  constructor
  · intro h
    obtain ⟨primary, u₁, _, h₁, hr₁, rfl⟩ := Check.bind_eq_passed_iff.1 h
    obtain ⟨resourced, u₂, _, h₂, hr₂, rfl⟩ := Check.bind_eq_passed_iff.1 hr₁
    obtain ⟨rtx, u₃, _, h₃, hr₃, rfl⟩ := Check.bind_eq_passed_iff.1 hr₂
    obtain ⟨fec1, u₄, _, h₄, hr₄, rfl⟩ := Check.bind_eq_passed_iff.1 hr₃
    obtain ⟨fec2, u₅, _, h₅, hr₅, rfl⟩ := Check.bind_eq_passed_iff.1 hr₄
    obtain ⟨rfl, rfl⟩ := Check.pure_eq_passed_iff.1 hr₅
    rw [List.append_nil]
    exact ⟨u₁, u₂, u₃, u₄, u₅, h₁, h₂, h₃, h₄, h₅, rfl⟩
  · rintro ⟨u₁, u₂, u₃, u₄, u₅, h₁, h₂, h₃, h₄, h₅, rfl⟩
    refine Check.bind_eq_passed_iff.2 ⟨_, _, _, h₁, ?_, rfl⟩
    refine Check.bind_eq_passed_iff.2 ⟨_, _, _, h₂, ?_, rfl⟩
    refine Check.bind_eq_passed_iff.2 ⟨_, _, _, h₃, ?_, rfl⟩
    refine Check.bind_eq_passed_iff.2 ⟨_, _, _, h₄, ?_, rfl⟩
    exact Check.bind_eq_passed_iff.2 ⟨_, _, _, h₅, rfl, (List.append_nil u₅).symm⟩

/-- A channel whose streams are such as can be read. -/
structure Channel.Sound (c : Channel) : Prop where
  formed : c.Formed
  primary : c.primary.endpoint.Sound c.fbtAddr
  bitRate : ∀ n, c.primary.bitRate = some n → IsBitRate n
  primaryXr : c.primary.xr.Sound .primary
  resourced : ∀ e, c.resourced = some e → e.Sound none
  rtx : ∀ r, c.rtx = some r → r.endpoint.Sound none ∧ r.xr.Sound .retransmission
  fec1 : ∀ e, c.fec1 = some e → e.Sound none
  fec2 : ∀ e, c.fec2 = some e → e.Sound none

/-! ## §6. What was drawn is in order. -/

theorem Channel.mem_endpoints {c : Channel} {x : StreamKind × Endpoint} :
    x ∈ c.endpoints ↔ c.endpoint? x.1 = some x.2 := by
  obtain ⟨kind, e⟩ := x
  unfold endpoints
  simp only [List.mem_filterMap, Option.map_eq_some_iff, Prod.mk.injEq]
  constructor
  · rintro ⟨kind', -, e', he, rfl, rfl⟩
    exact he
  · intro he
    refine ⟨kind, ?_, e, he, rfl, rfl⟩
    cases kind with
    | _ => decide

/-- What a stream that may be missing was read from. -/
theorem Check.exists_of_ofOption {α β : Type} {f : α → Check β} {o : Option α} {r : Option β}
    {w : List Warning} (h : ofOption f o = .passed r w) {b : β} (hb : r = some b) :
    ∃ a, o = some a ∧ f a = .passed b w := by
  rcases ofOption_eq_passed_iff.1 h with ⟨-, hr, -⟩ | ⟨a, b', ha, hr, hf⟩
  · rw [hr] at hb
    cases hb
  · rw [hr] at hb
    obtain rfl := Option.some.inj hb
    exact ⟨a, ha, hf⟩

theorem Check.isSome_of_ofOption {α β : Type} {f : α → Check β} {o : Option α} {r : Option β}
    {w : List Warning} (h : ofOption f o = .passed r w) : r.isSome = o.isSome := by
  rcases ofOption_eq_passed_iff.1 h with ⟨rfl, rfl, -⟩ | ⟨a, b, rfl, rfl, -⟩
  · rfl
  · rfl

/-- The streams of a channel, each for itself. -/
def Channel.streams (c : Channel) : Streams :=
  ⟨⟨c.primary, c.fbtAddr, ⟨c.erEnable, c.fccEnable⟩⟩, c.resourced, c.rtx, c.fec1, c.fec2⟩

/-- Every stream was read from the media stream that plays its part. -/
theorem Parts.exists_line {p : Parts} {c : Channel} {w : List Warning}
    (hs : p.streams = .passed c.streams w) {kind : StreamKind} {e : Endpoint}
    (he : c.endpoint? kind = some e) :
    ∃ l fbt u, p.line? kind = some l ∧ l.endpoint kind = .passed (e, fbt) u := by
  obtain ⟨u₁, u₂, u₃, u₄, u₅, h₁, h₂, h₃, h₄, h₅, -⟩ := streams_eq_passed_iff.1 hs
  have hown : ∀ {kind : StreamKind} {part : Option MediaLine} {r : Option Endpoint}
      {u : List Warning}, Check.ofOption (·.ownEndpoint kind) part = .passed r u → r = some e →
      ∃ l fbt u, part = some l ∧ l.endpoint kind = .passed (e, fbt) u := by
    intro kind part r u h hr
    obtain ⟨l, hl, hread⟩ := Check.exists_of_ofOption h hr
    obtain ⟨fbt, hendpoint⟩ := MediaLine.endpoint_of_ownEndpoint hread
    exact ⟨l, fbt, _, hl, hendpoint⟩
  cases kind with
  | primary =>
    obtain rfl := Option.some.inj he
    obtain ⟨u, _, hendpoint, -⟩ := MediaLine.primaryStream_eq_passed_iff.1 h₁
    exact ⟨_, _, _, rfl, hendpoint⟩
  | resourced => exact hown h₂ he
  | retransmission =>
    obtain ⟨r, hr, rfl⟩ := Option.map_eq_some_iff.1 he
    obtain ⟨l, hl, hread⟩ := Check.exists_of_ofOption h₃ hr
    obtain ⟨⟨_, hendpoint⟩, -⟩ := MediaLine.parts_of_rtxStream hread
    obtain ⟨fbt, hendpoint⟩ := MediaLine.endpoint_of_ownEndpoint hendpoint
    exact ⟨l, fbt, _, hl, hendpoint⟩
  | fec1 => exact hown h₄ he
  | fec2 => exact hown h₅ he

section Read

variable {v : SessionView} {channelType : ChannelType} {p : Parts} {c : Channel} {w : List Warning}

/-- Every stream was read from a media stream of the session that has its encoding. -/
theorem Parts.Formed.exists_mediaLine (h : p.Formed v channelType)
    (hs : p.streams = .passed c.streams w) {kind : StreamKind} {e : Endpoint}
    (he : c.endpoint? kind = some e) :
    ∃ i l fbt u, p.line? kind = some l ∧ v.mediaLine i = .ok (l, kind.encoding)
      ∧ l.endpoint kind = .passed (e, fbt) u := by
  obtain ⟨l, fbt, u, hl, hread⟩ := exists_line hs he
  obtain ⟨i, hi⟩ := h.mediaLine hl
  exact ⟨i, l, fbt, u, hl, hi, hread⟩

/-- Every stream has the form that its encoding asks for. -/
theorem Parts.Formed.form (h : p.Formed v channelType) (hs : p.streams = .passed c.streams w)
    {kind : StreamKind} {e : Endpoint} (he : c.endpoint? kind = some e) :
    isPayloadType e.payloadType = true ∧ kind.encoding.Allows e.transport e.addr := by
  obtain ⟨i, l, _, _, -, hi, hread⟩ := h.exists_mediaLine hs he
  obtain ⟨_, _, -, hpt, -, -, -, -, -, -, henc⟩ := SessionView.mediaLine_eq_ok_iff.1 hi
  obtain ⟨_, _, _, -, -, -, rfl⟩ := MediaLine.endpoint_eq_passed_iff.1 hread
  exact ⟨Media.isPayloadType_of_payloadType hpt, MediaLine.encoding_allows henc⟩

/-- The copy uses RTP, as its part does. -/
theorem Parts.Formed.isRtp_resourced (h : p.Formed v channelType)
    (hs : p.streams = .passed c.streams w) {e : Endpoint} (he : c.resourced = some e) :
    e.transport.isRtp = true := by
  have hkind : c.endpoint? .resourced = some e := he
  obtain ⟨_, l, _, _, hl, -, hread⟩ := h.exists_mediaLine hs hkind
  obtain ⟨_, _, _, -, -, -, rfl⟩ := MediaLine.endpoint_eq_passed_iff.1 hread
  exact (h.resourced l hl).2

/-- A second stream for error correction comes only behind a first. -/
theorem Parts.Formed.fec_inOrder (h : p.Formed v channelType)
    (hs : p.streams = .passed c.streams w) (hnone : c.fec1 = none) : c.fec2 = none := by
  obtain ⟨_, _, _, _, _, -, -, -, h₄, h₅, -⟩ := streams_eq_passed_iff.1 hs
  -- a stream is there exactly if its part is
  have hsome₁ : c.fec1.isSome = p.fec1.isSome := Check.isSome_of_ofOption h₄
  have hsome₂ : c.fec2.isSome = p.fec2.isSome := Check.isSome_of_ofOption h₅
  rw [hnone, Option.isSome_none] at hsome₁
  have hpart : p.fec1 = none := by simpa using hsome₁.symm
  rw [h.inOrder hpart, Option.isSome_none] at hsome₂
  simpa using hsome₂

/-- The primary stream was read with its feedback target and its bit rate. -/
theorem Parts.primary_form (hs : p.streams = .passed c.streams w) :
    (∃ u, p.primary.endpoint .primary = .passed (c.primary.endpoint, c.fbtAddr) u)
      ∧ ∀ n, c.primary.bitRate = some n → IsBitRate n := by
  obtain ⟨_, _, _, _, _, h₁, -⟩ := streams_eq_passed_iff.1 hs
  obtain ⟨u, _, hendpoint, hrate, -⟩ := MediaLine.primaryStream_eq_passed_iff.1 h₁
  refine ⟨⟨u, hendpoint⟩, fun n hn => isBitRate_of_read (s := p.primary.media.body) ?_⟩
  rw [← hn]
  exact hrate

/-- Reports are such as can be asked for. -/
theorem Parts.sound_xr (hs : p.streams = .passed c.streams w) :
    c.primary.xr.Sound .primary ∧ ∀ r, c.rtx = some r → r.xr.Sound .retransmission := by
  obtain ⟨_, _, _, _, _, h₁, -, h₃, -⟩ := streams_eq_passed_iff.1 hs
  obtain ⟨_, _, -, -, -, hxr, -⟩ := MediaLine.primaryStream_eq_passed_iff.1 h₁
  refine ⟨XrSettings.sound_of_read hxr, fun r hr => ?_⟩
  obtain ⟨l, -, hread⟩ := Check.exists_of_ofOption h₃ hr
  obtain ⟨-, _, hreports⟩ := MediaLine.parts_of_rtxStream hread
  exact XrSettings.sound_of_read hreports

/-- A broadcast is distributed to multicast groups: to the addresses of its parts. -/
theorem Parts.Formed.linear_form (h : p.Formed v .linear) (hs : p.streams = .passed c.streams w) :
    (∀ x ∈ c.distributed, x.2.addr.isMulticast = true) ∧ c.primary.endpoint.rtpPort ≠ 0 := by
  obtain ⟨hmulti, hzero⟩ := h.linear rfl
  constructor
  · intro x hx
    obtain ⟨hmem, hkind⟩ := List.mem_filter.1 hx
    obtain ⟨_, l, _, _, hl, -, hread⟩ := h.exists_mediaLine hs (Channel.mem_endpoints.1 hmem)
    obtain ⟨_, _, _, -, -, -, heq⟩ := MediaLine.endpoint_eq_passed_iff.1 hread
    rw [heq]
    exact hmulti _ (mem_distribution (of_decide_eq_true hkind) hl)
  · obtain ⟨⟨_, hprimary⟩, -⟩ := primary_form hs
    obtain ⟨_, _, _, -, -, -, heq⟩ := MediaLine.endpoint_eq_passed_iff.1 hprimary
    rw [heq]
    exact hzero

/-- Every stream of a session without loose white space is in order. -/
theorem Parts.Formed.sound_endpoint (h : p.Formed v channelType)
    (hneat : ∀ i m, v.media? i = some m → m.Neat) (hs : p.streams = .passed c.streams w)
    {kind : StreamKind} {e : Endpoint} (he : c.endpoint? kind = some e) : e.Sound none := by
  obtain ⟨i, l, fbt, _, -, hi, hread⟩ := h.exists_mediaLine hs he
  obtain ⟨_, _, hmedia, hpt, -⟩ := SessionView.mediaLine_eq_ok_iff.1 hi
  exact (MediaLine.sound_of_endpoint (Media.isPayloadType_of_payloadType hpt)
    (hneat i l.media hmedia) hread).plain

end Read

/-- **A channel that was drawn is in order.** -/
theorem Parts.Formed.sound_channel {v : SessionView} {p : Parts} {c : Channel} {w : List Warning}
    (h : p.Formed v c.channelType) (hneat : ∀ i m, v.media? i = some m → m.Neat)
    (hs : p.streams = .passed c.streams w) : c.Sound := by
  obtain ⟨⟨_, hread⟩, hrate⟩ := primary_form hs
  obtain ⟨hprimaryXr, hrtxXr⟩ := sound_xr hs
  have hsound : ∀ (kind : StreamKind) (e : Endpoint), c.endpoint? kind = some e → e.Sound none :=
    fun _ _ he => h.sound_endpoint hneat hs he
  refine ⟨⟨fun x hx => h.form hs (Channel.mem_endpoints.1 hx), fun e he => h.isRtp_resourced hs he,
    h.fec_inOrder hs, ?_⟩, ?_, hrate, hprimaryXr, hsound .resourced, ?_, hsound .fec1,
    hsound .fec2⟩
  · intro hlinear
    rw [hlinear] at h
    exact h.linear_form hs
  · -- the primary stream alone may have another feedback target
    obtain ⟨i, hi⟩ := h.primary
    obtain ⟨_, _, hmedia, hpt, -⟩ := SessionView.mediaLine_eq_ok_iff.1 hi
    exact MediaLine.sound_of_endpoint (Media.isPayloadType_of_payloadType hpt)
      (hneat i p.primary.media hmedia) hread
  · intro r hr
    exact ⟨hsound .retransmission _ (Option.map_eq_some_iff.2 ⟨r, hr, rfl⟩), hrtxXr r hr⟩

/-- As many streams were drawn as there are media streams. -/
theorem Parts.Formed.length_endpoints {v : SessionView} {p : Parts} {c : Channel}
    {channelType : ChannelType} {w : List Warning} (h : p.Formed v channelType)
    (hs : p.streams = .passed c.streams w) : c.toMedia.length = v.mediaCount := by
  obtain ⟨u₁, u₂, u₃, u₄, u₅, -, h₂, h₃, h₄, h₅, -⟩ := streams_eq_passed_iff.1 hs
  -- a stream is there exactly if its part is
  have hlength : ∀ {α β : Type} {a : Option α} {b : Option β}, a.isSome = b.isSome →
      a.toList.length = b.toList.length := by
    intro α β a b hab
    cases a with
    | _ => cases b with
      | _ => first | rfl | cases hab
  have hresourced : c.resourced.toList.length = _ := hlength (Check.isSome_of_ofOption h₂)
  have hrtx : c.rtx.toList.length = _ := hlength (Check.isSome_of_ofOption h₃)
  have hfec1 : c.fec1.toList.length = _ := hlength (Check.isSome_of_ofOption h₄)
  have hfec2 : c.fec2.toList.length = _ := hlength (Check.isSome_of_ofOption h₅)
  have hmap : ∀ {α : Type} (f : α → Media) (o : Option α),
      (o.map f).toList.length = o.toList.length := by
    intro α f o
    cases o with
    | _ => rfl
  rw [← h.count]
  unfold Parts.count Channel.toMedia
  simp only [List.cons_append, List.length_cons, List.length_append, hmap]
  omega

/-! ## §7. What is in order is read back. -/

/-- What is noted of a channel: every multicast stream that has no source filter. -/
def Channel.notes (c : Channel) : List Warning := c.endpoints.flatMap fun x => x.2.notes x.1

theorem Channel.notes_eq (c : Channel) :
    c.notes = c.primary.endpoint.notes .primary
      ++ (c.resourced.elim [] (·.notes .resourced)
      ++ (c.rtx.elim [] (·.endpoint.notes .retransmission)
      ++ (c.fec1.elim [] (·.notes .fec1) ++ c.fec2.elim [] (·.notes .fec2)))) := by
  unfold notes endpoints streamOrder
  simp only [List.filterMap_cons, List.filterMap_nil, endpoint?]
  cases c.resourced with
  | _ => cases c.rtx with
    | _ => cases c.fec1 with
      | _ => cases c.fec2 with
        | _ => simp

theorem Check.ofOption_map {α β : Type} {f : α → Check β} {g : β → α} {n : β → List Warning}
    {o : Option β} (h : ∀ b, o = some b → f (g b) = .passed b (n b)) :
    ofOption f (o.map g) = .passed o (o.elim [] n) := by
  rw [ofOption_eq_passed_iff]
  cases o with
  | none => exact Or.inl ⟨rfl, rfl, rfl⟩
  | some b => exact Or.inr ⟨g b, b, rfl, rfl, h b rfl⟩

/-- A stream that has nothing of its own is read back. -/
theorem Endpoint.Sound.plain_line {e : Endpoint} (he : e.Sound none) (kind : StreamKind)
    (index : Nat) : (e.line index (Channel.plainMedia kind e)).ownEndpoint kind
      = .passed e (e.notes kind) := by
  refine he.ownEndpoint_line ?_ ?_ index
  · intro b hb
    cases hb
  · intro a ha
    cases ha

/-- **The streams of a channel in order are read back** from the parts they play. -/
theorem Channel.Sound.streams_written {c : Channel} {p : Parts} (h : c.Sound) (hp : p.Play c) :
    p.streams = .passed c.streams c.notes := by
  obtain ⟨⟨i, hprimary⟩, ⟨j, hresourced⟩, ⟨k, hrtx⟩, ⟨l, hfec1⟩, ⟨m, hfec2⟩⟩ := hp
  rw [Parts.streams_eq_passed_iff, hprimary, hresourced, hrtx, hfec1, hfec2, c.notes_eq]
  refine ⟨_, _, _, _, _, primaryStream_line i h.primary h.bitRate h.primaryXr,
    Check.ofOption_map ?_, Check.ofOption_map ?_, Check.ofOption_map ?_, Check.ofOption_map ?_,
    rfl⟩
  · intro e he
    exact (h.resourced e he).plain_line .resourced j
  · intro r hr
    exact r.rtxStream_line k (h.rtx r hr).1 (h.rtx r hr).2
  · intro e he
    exact (h.fec1 e he).plain_line .fec1 l
  · intro e he
    exact (h.fec2 e he).plain_line .fec2 m

end Lineup
