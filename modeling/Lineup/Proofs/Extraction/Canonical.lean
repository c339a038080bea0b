/-
  Lineup.Proofs.Extraction.Canonical
  ──────────────────────────────────
  **CANONICAL SESSIONS CAN BE READ.**  Every value of a canonical session stands on
  its line, and all but the values of groups have no white space at their ends:
  they are words with single spaces between them.  So the text of a channel is read
  as its canonical session, with the values of groups trimmed.

  Main results:
    * `Endpoint.neat_toMedia` — a canonical media stream reads back as it is;
    * `Channel.Sound.ofText_toText` — so does the session, but for its groups;
    * `Channel.Sound.ofText_channelText` — also where lines end at LF.
-/
import Lineup.Proofs.Extraction.Streams
import Lineup.Proofs.Extraction.Groups

namespace Lineup

open Text

/-! ## §1. Values. -/

/-- Words with single spaces between them have no white space at their ends. -/
theorem neatText_of_words {s : String} {ws : List (List Char)}
    (hs : s.toList = [' '].intercalate ws) (hws : ∀ w ∈ ws, IsWord isWhite w) : NeatText s := by
  refine ⟨inline_of_fields hs hws, ?_⟩
  unfold trimmed
  rw [hs, trim_intercalate hws, ← hs, String.ofList_toList]

theorem neatText_of_token {s : String} (h : Token s) : NeatText s := by
  have hs : s.toList = [' '].intercalate [s.toList] := by
    rw [List.intercalate_singleton]
  refine neatText_of_words hs ?_
  intro w hw
  rw [List.mem_singleton.1 hw]
  exact h

theorem token_in : Token "IN" := ⟨by decide, by decide⟩

theorem token_ip4 : Token "IP4" := ⟨by decide, by decide⟩

theorem token_video : Token "video" := ⟨by decide, by decide⟩

/-- An attribute that reads back as it is. -/
def Attribute.Neat (a : Attribute) : Prop := a.Printable ∧ a.tidy = a

/-- The names of the attributes of canonical sessions. -/
def canonicalNames : List String :=
  ["sendonly", "recvonly", "sendrecv", "inactive", "rtpmap", "rtcp", "source-filter",
    "rtcp-per-rcvr-bw", "mid", "rtcp-fb", "rtcp-xr", "rtcp-rsize", "fmtp", "rtcp-unicast", "group"]

theorem printable_of_canonicalNames {a : Attribute} (hname : a.name ∈ canonicalNames)
    (hvalue : ∀ v, a.value = some v → Inline v) : a.Printable := by
  -- each of the names is checked once
  have hall : ∀ name ∈ canonicalNames,
      (name.toList ≠ [] ∧ ∀ c ∈ name.toList, isWhite c = false) ∧ ':' ∉ name.toList := by
    decide
  obtain ⟨htoken, hcolon⟩ := hall a.name hname
  exact ⟨htoken, hcolon, hvalue⟩

theorem neat_of_canonicalNames {a : Attribute} (hname : a.name ∈ canonicalNames)
    (hvalue : ∀ v, a.value = some v → NeatText v) : a.Neat := by
  refine ⟨printable_of_canonicalNames hname fun v hv => (hvalue v hv).1, ?_⟩
  obtain ⟨name, value⟩ := a
  cases value with
  | none => rfl
  | some v =>
    show (⟨name, some (trimmed v)⟩ : Attribute) = ⟨name, some v⟩
    rw [(hvalue v rfl).2]

theorem neat_of_mem_optional {name : String} {value : Option String} {a : Attribute}
    (h : a ∈ optionalAttribute name value) (hname : name ∈ canonicalNames)
    (hvalue : ∀ v, value = some v → NeatText v) : a.Neat := by
  unfold optionalAttribute at h
  rw [Option.mem_toList, Option.map_eq_some_iff] at h
  obtain ⟨v, hv, rfl⟩ := h
  refine neat_of_canonicalNames hname ?_
  rintro v' ⟨⟩
  exact hvalue v hv

/-! ## §2. Media streams. -/

namespace Endpoint

variable {e : Endpoint} {kind : StreamKind} {fbt : Option Ipv4}

theorem neatText_rtpmap (e : Endpoint) (kind : StreamKind) :
    NeatText (e.ptText ++ " " ++ kind.encodingName ++ "/90000") := by
  have hencoding : IsWord isWhite (kind.encodingName.toList ++ "/90000".toList) := by
    cases kind with
    | _ => exact ⟨by decide, by decide⟩
  have hlist : (e.ptText ++ " " ++ kind.encodingName ++ "/90000").toList
      = [' '].intercalate [e.ptText.toList, kind.encodingName.toList ++ "/90000".toList] := by
    simp [List.intercalate_cons_cons]
  refine neatText_of_words hlist ?_
  simp only [List.forall_mem_cons]
  exact ⟨isWord_number _, hencoding, by simp⟩

theorem neatText_rtcpText {value : String} (h : e.rtcpText fbt = some value) : NeatText value := by
  unfold rtcpText at h
  obtain ⟨port, -, rfl⟩ := Option.map_eq_some_iff.1 h
  cases fbt with
  | none =>
    have hlist : (decimal port.toNat ++ "").toList
        = [' '].intercalate [(decimal port.toNat).toList] := by
      simp
    refine neatText_of_words hlist ?_
    simpa using isWord_number port.toNat
  | some addr =>
    have hlist : (decimal port.toNat ++ (" IN IP4 " ++ toString addr)).toList
        = [' '].intercalate
          [(decimal port.toNat).toList, "IN".toList, "IP4".toList, (toString addr).toList] := by
      simp [List.intercalate_cons_cons]
    refine neatText_of_words hlist ?_
    simp only [List.forall_mem_cons]
    exact ⟨isWord_number _, token_in, token_ip4, isWord_address _, by simp⟩

theorem neatText_sourceFilter (dest src : Ipv4) :
    NeatText ("incl IN IP4 " ++ toString dest ++ " " ++ toString src) := by
  have hlist : ("incl IN IP4 " ++ toString dest ++ " " ++ toString src).toList
      = [' '].intercalate ["incl".toList, "IN".toList, "IP4".toList, (toString dest).toList,
        (toString src).toList] := by
    simp [List.intercalate_cons_cons]
  refine neatText_of_words hlist ?_
  simp only [List.forall_mem_cons]
  exact ⟨⟨by decide, by decide⟩, token_in, token_ip4, isWord_address _, isWord_address _, by simp⟩

/-- The attributes of an endpoint read back as they are, if its tag does. -/
theorem neat_of_mem_attributes (hmid : ∀ m, e.mid = some m → NeatText m) {a : Attribute}
    (h : a ∈ e.attributes kind fbt) : a.Neat := by
  unfold attributes at h
  simp only [List.mem_append, List.mem_singleton] at h
  -- direction, encoding, control port, source filter, receivers, tag
  rcases h with ((((h | rfl) | h) | h) | h) | h
  · refine neat_of_canonicalNames ?_ ?_
    · cases hd : e.direction with
      | unset => simp [hd, Direction.attributeName?] at h
      | _ =>
        simp only [hd, Direction.attributeName?, Option.map_some, Option.toList_some,
          List.mem_singleton] at h
        rw [h]
        decide
    · intro v hv
      rw [Option.mem_toList, Option.map_eq_some_iff] at h
      obtain ⟨name, -, rfl⟩ := h
      cases hv
  · refine neat_of_canonicalNames (by simp [Attribute.valued, canonicalNames]) ?_
    rintro v ⟨⟩
    exact neatText_rtpmap e kind
  · exact neat_of_mem_optional h (by decide) fun v hv => neatText_rtcpText hv
  · refine neat_of_mem_optional h (by decide) fun v hv => ?_
    obtain ⟨src, -, rfl⟩ := Option.map_eq_some_iff.1 hv
    exact neatText_sourceFilter e.addr src
  · refine neat_of_mem_optional h (by decide) fun v hv => ?_
    obtain ⟨n, -, rfl⟩ := Option.map_eq_some_iff.1 hv
    exact neatText_of_token (isWord_number n.toNat)
  · exact neat_of_mem_optional h (by decide) hmid

theorem printable_ip4 (addr : Ipv4) (ttl : Option UInt8) :
    (Connection.ip4 (toString addr) ttl).Printable := by
  refine ⟨token_in, token_ip4, isWord_address addr, ?_⟩
  -- an address has digits and dots only
  intro hslash
  rcases mem_toList_ipv4 hslash with h | h
  · exact absurd h (by decide)
  · exact absurd h (by decide)

/-- **A canonical media stream reads back as it is.** -/
theorem neat_toMedia {before : List Bandwidth} {behind : List Attribute}
    (hmid : ∀ m, e.mid = some m → NeatText m) (hbefore : ∀ b ∈ before, b.kind = "AS")
    (hbehind : ∀ a ∈ behind, a.Neat) : (e.toMedia kind fbt before behind).Neat := by
  have hattributes : ∀ a ∈ e.attributes kind fbt ++ behind, a.Neat := by
    intro a ha
    rcases List.mem_append.1 ha with ha | ha
    · exact neat_of_mem_attributes hmid ha
    · exact hbehind a ha
  have hbandwidths : ∀ b ∈ before ++ e.bandwidths, b.kind ∈ ["AS", "RS", "RR"] := by
    intro b hb
    rcases List.mem_append.1 hb with hb | hb
    · rw [hbefore b hb]
      decide
    · unfold bandwidths at hb
      simp only [List.mem_append, Option.mem_toList, Option.map_eq_some_iff] at hb
      rcases hb with ⟨n, -, rfl⟩ | ⟨n, -, rfl⟩
      · simp
      · simp
  -- each of the three kinds is checked once
  have hkinds : ∀ kind ∈ ["AS", "RS", "RR"],
      kind.toList ≠ [] ∧ ∀ c ∈ kind.toList, Bandwidth.isKindChar c = true := by
    decide
  have hprotocol : Token e.transport.protocol := by
    cases e.transport with
    | _ => exact ⟨by decide, by decide⟩
  have hline : (e.toMedia kind fbt before behind).LinePrintable := by
    refine ⟨token_video, hprotocol, ?_, List.cons_ne_nil _ _⟩
    intro f hf
    rw [List.mem_singleton.1 hf]
    exact isWord_number e.payloadType.toNat
  refine ⟨⟨hline, ?_, ?_, ?_, fun a ha => (hattributes a ha).1⟩, ?_⟩
  · intro i hi
    cases hi
  · rintro c ⟨⟩
    exact printable_ip4 e.addr e.ttl
  · intro b hb
    obtain ⟨hne, hchars⟩ := hkinds b.kind (hbandwidths b hb)
    exact ⟨hne, hchars⟩
  · have htidy : (e.attributes kind fbt ++ behind).map Attribute.tidy
        = e.attributes kind fbt ++ behind :=
      (List.map_congr_left fun a ha => (hattributes a ha).2).trans (List.map_id _)
    unfold Media.tidy Section.tidy
    show (⟨_, _, _, _, _, ⟨_, _, _, (e.attributes kind fbt ++ behind).map Attribute.tidy⟩⟩ : Media)
      = _
    rw [htidy]
    rfl

end Endpoint

/-! ## §3. The media streams of a channel. -/

theorem XrSettings.neat_of_mem_attributes {x : XrSettings} {a : Attribute}
    (h : a ∈ x.attributes) : a.Neat := by
  rcases List.mem_append.1 h with h | h
  · refine neat_of_mem_optional h (by decide) fun v hv => ?_
    unfold toValue? at hv
    split at hv
    · cases hv
    · obtain rfl := Option.some.inj hv
      refine neatText_of_words String.toList_intercalate ?_
      intro w hw
      obtain ⟨token, htoken, rfl⟩ := List.mem_map.1 hw
      exact isWord_of_mem_tokens htoken
  · rw [eq_of_mem_ite h]
    refine neat_of_canonicalNames (by decide) ?_
    intro v hv
    cases hv

namespace Channel

variable {c : Channel}

theorem neat_of_mem_requestAttributes {a : Attribute} (h : a ∈ c.requestAttributes) :
    a.Neat := by
  rcases List.mem_append.1 h with h | h
  · have hlist : (c.primary.endpoint.ptText ++ " nack").toList
        = [' '].intercalate [c.primary.endpoint.ptText.toList, "nack".toList] := by
      simp [List.intercalate_cons_cons]
    rw [eq_of_mem_ite h]
    refine neat_of_canonicalNames (by simp [Attribute.valued, canonicalNames]) ?_
    rintro v ⟨⟩
    refine neatText_of_words hlist ?_
    simp only [List.forall_mem_cons]
    exact ⟨isWord_number _, ⟨by decide, by decide⟩, by simp⟩
  · have hlist : (c.primary.endpoint.ptText ++ " nack pli").toList
        = [' '].intercalate [c.primary.endpoint.ptText.toList, "nack".toList, "pli".toList] := by
      simp [List.intercalate_cons_cons]
    rw [eq_of_mem_ite h]
    refine neat_of_canonicalNames (by simp [Attribute.valued, canonicalNames]) ?_
    rintro v ⟨⟩
    refine neatText_of_words hlist ?_
    simp only [List.forall_mem_cons]
    exact ⟨isWord_number _, ⟨by decide, by decide⟩, ⟨by decide, by decide⟩, by simp⟩

theorem neatText_fmtp (r : RtxStream) :
    NeatText (r.endpoint.ptText ++ " apt=" ++ decimal r.apt.toNat ++ ";rtx-time="
      ++ decimal r.rtxTimeMs.toNat) := by
  have hparams : IsWord isWhite ("apt=".toList ++ (decimal r.apt.toNat).toList
      ++ ";rtx-time=".toList ++ (decimal r.rtxTimeMs.toNat).toList) := by
    refine ⟨by simp, ?_⟩
    simp only [List.forall_mem_append]
    exact ⟨⟨⟨by decide, (isWord_number _).2⟩, by decide⟩, (isWord_number _).2⟩
  have hlist : (r.endpoint.ptText ++ " apt=" ++ decimal r.apt.toNat ++ ";rtx-time="
        ++ decimal r.rtxTimeMs.toNat).toList
      = [' '].intercalate [r.endpoint.ptText.toList, "apt=".toList ++ (decimal r.apt.toNat).toList
        ++ ";rtx-time=".toList ++ (decimal r.rtxTimeMs.toNat).toList] := by
    simp [List.intercalate_cons_cons]
  refine neatText_of_words hlist ?_
  simp only [List.forall_mem_cons]
  exact ⟨isWord_number _, hparams, by simp⟩

/-- The media streams of a channel in order read back as they are. -/
theorem Sound.neat_of_mem_toMedia (h : c.Sound) {m : Media} (hm : m ∈ c.toMedia) : m.Neat := by
  have hplain : ∀ (kind : StreamKind) (e : Endpoint), e.Sound none →
      (plainMedia kind e).Neat := by
    intro kind e he
    refine Endpoint.neat_toMedia he.mid ?_ ?_
    · intro b hb
      cases hb
    · intro a ha
      cases ha
  unfold toMedia at hm
  simp only [List.mem_append, List.mem_cons, Option.mem_toList, Option.map_eq_some_iff] at hm
  rcases hm with (((rfl | ⟨e, he, rfl⟩) | ⟨r, hr, rfl⟩) | ⟨e, he, rfl⟩) | ⟨e, he, rfl⟩
  · refine Endpoint.neat_toMedia h.primary.mid ?_ ?_
    · intro b hb
      rw [Option.mem_toList, Option.map_eq_some_iff] at hb
      obtain ⟨n, -, rfl⟩ := hb
      rfl
    · intro a ha
      rcases List.mem_append.1 ha with ha | ha
      · exact neat_of_mem_requestAttributes ha
      · exact XrSettings.neat_of_mem_attributes ha
  · exact hplain .resourced e (h.resourced e he)
  · refine Endpoint.neat_toMedia (h.rtx r hr).1.mid ?_ ?_
    · intro b hb
      cases hb
    · intro a ha
      rcases List.mem_cons.1 ha with rfl | ha
      · refine neat_of_canonicalNames (by simp [Attribute.valued, canonicalNames]) ?_
        rintro v ⟨⟩
        exact neatText_fmtp r
      · exact XrSettings.neat_of_mem_attributes ha
  · exact hplain .fec1 e (h.fec1 e he)
  · exact hplain .fec2 e (h.fec2 e he)

/-! ## §4. The session of a channel. -/

/-- A channel whose name and key can stand in a session. -/
structure Named (c : Channel) : Prop where
  username : Token c.key.username
  sessionId : Token c.key.sessionId
  name : NeatText c.name

/-- The canonical session of a channel as it is read. -/
def rereadSession (c : Channel) : Session :=
  { c.toSession with body := c.toSession.body.tidy }

theorem Sound.neatText_of_mid (h : c.Sound) {kind : StreamKind} {m : String}
    (hm : (c.endpoint? kind).bind (·.mid) = some m) : NeatText m := by
  obtain ⟨e, he, hmid⟩ := Option.bind_eq_some_iff.1 hm
  cases kind with
  | primary =>
    obtain rfl : c.primary.endpoint = e := Option.some.inj he
    exact h.primary.mid m hmid
  | resourced => exact (h.resourced e he).mid m hmid
  | retransmission =>
    obtain ⟨r, hr, rfl⟩ := Option.map_eq_some_iff.1 he
    exact (h.rtx r hr).1.mid m hmid
  | fec1 => exact (h.fec1 e he).mid m hmid
  | fec2 => exact (h.fec2 e he).mid m hmid

theorem exists_of_mem_midsOf {kinds : List StreamKind} {mids : List String}
    (h : c.midsOf kinds = .ok mids) {m : String} (hm : m ∈ mids) :
    ∃ kind, (c.endpoint? kind).bind (·.mid) = some m := by
  -- on the members, as their tags are collected
  induction kinds generalizing mids with
  | nil =>
    cases h
    cases hm
  | cons kind kinds ih =>
    unfold midsOf at h
    split at h
    · cases h
    · next mid hmid =>
      obtain ⟨rest, hrest, hlast⟩ := bind_eq_ok_iff.1 h
      obtain rfl : mid :: rest = mids := Except.ok.inj hlast
      rcases List.mem_cons.1 hm with rfl | hm
      · exact ⟨kind, hmid⟩
      · exact ih hrest hm

theorem exists_of_mem_groups {g : Group} (hg : g ∈ c.groups) {m : String} (hm : m ∈ g.mids) :
    ∃ kind, (c.endpoint? kind).bind (·.mid) = some m := by
  rw [groups_eq] at hg
  rcases List.mem_append.1 hg with hg | hg
  · rw [Option.mem_toList] at hg
    unfold fidGroup at hg
    split at hg
    · exact exists_of_mem_midsOf (groupOf_eq_some_iff.1 hg).2 hm
    · cases hg
  · rw [Option.mem_toList] at hg
    unfold fecGroup at hg
    split at hg
    · exact exists_of_mem_midsOf (groupOf_eq_some_iff.1 hg).2 hm
    · cases hg

/-- A written group stays on its line. -/
theorem Sound.printable_group (h : c.Sound) {g : Group} (hg : g ∈ c.groups) :
    g.toAttribute.Printable := by
  refine printable_of_canonicalNames (by simp [Group.toAttribute, Attribute.valued, canonicalNames])
    ?_
  rintro v ⟨⟩ d hd
  unfold Group.toValue at hd
  rw [String.toList_intercalate] at hd
  rcases mem_intercalate (s := ' ') hd with rfl | ⟨w, hw, hdw⟩
  · decide
  · obtain ⟨s, hs, rfl⟩ := List.mem_map.1 hw
    rcases List.mem_cons.1 hs with rfl | hs
    · exact ne_of_not_white ((token_semantics hg).2 d hdw)
    · obtain ⟨kind, hkind⟩ := exists_of_mem_groups hg hs
      exact (h.neatText_of_mid hkind).1 d hdw

theorem Sound.printable_toSession (h : c.Sound) (hc : c.Named) : c.toSession.Printable := by
  refine ⟨rfl, ?_, hc.name.1, ⟨?_, ?_, ?_, ?_⟩, fun m hm => (h.neat_of_mem_toMedia hm).1⟩
  · exact ⟨hc.username, hc.sessionId, isWord_number c.version.toNat, token_in, token_ip4,
      isWord_address c.key.creator⟩
  · intro i hi
    cases hi
  · intro k hk
    cases hk
  · intro b hb
    cases hb
  · intro a ha
    -- the attribute for feedback, and those for groups
    rcases List.mem_append.1 ha with ha | ha
    · rw [eq_of_mem_ite ha]
      refine printable_of_canonicalNames (by decide) ?_
      rintro v ⟨⟩
      exact (neatText_of_token ⟨by decide, by decide⟩).1
    · obtain ⟨g, hg, rfl⟩ := List.mem_map.1 ha
      exact h.printable_group hg

theorem Sound.tidy_toSession (h : c.Sound) (hc : c.Named) :
    c.toSession.tidy = c.rereadSession := by
  have hmedia : c.toMedia.map Media.tidy = c.toMedia :=
    (List.map_congr_left fun m hm => (h.neat_of_mem_toMedia hm).2).trans (List.map_id _)
  unfold Session.tidy rereadSession
  show (⟨_, _, trimmed c.name, _, _, c.toMedia.map Media.tidy⟩ : Session) = _
  rw [hmedia, hc.name.2]
  rfl

/-- **The text of a channel is read** as its canonical session, but for its groups. -/
theorem Sound.ofText_toText (h : c.Sound) (hc : c.Named) :
    Session.ofText c.toText = .ok c.rereadSession := by
  rw [← h.tidy_toSession hc]
  exact Session.ofText_toText (h.printable_toSession hc)

/-- **So is its text in a document.** -/
theorem Sound.ofText_channelText (h : c.Sound) (hc : c.Named) :
    Session.ofText (Document.channelText c) = .ok c.rereadSession := by
  rw [← h.tidy_toSession hc]
  exact Session.ofText_withLf (h.printable_toSession hc)

end Channel

end Lineup
