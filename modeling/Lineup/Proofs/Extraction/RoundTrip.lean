/-
  Lineup.Proofs.Extraction.RoundTrip
  ──────────────────────────────────
  **A CHANNEL IS DRAWN AGAIN FROM ITS OWN TEXT.**  The canonical session of a channel
  passes every stage that the channel passed before, and gives the same streams at
  every stage; so it gives the same channel, with the same fingerprint.  The only
  stage that may refuse it is the one for groups.

  Main results:
    * `Drawn.redrawn_iff` — which stages a canonical session passes;
    * `extractText_toText_iff` — drawing a channel from its own text.
-/
import Lineup.Proofs.Channel.Tokens
import Lineup.Proofs.Extraction.Canonical
import Lineup.Document.Sessions

namespace Lineup

open Text

/-! ## §1. The stages one by one. -/

theorem mode_of_roleMode? {p r x : Activity} {roleMode : Role × Mode}
    (h : Activity.roleMode? p r x = some roleMode) : roleMode.2 ≠ .unspecified := by
  unfold Activity.roleMode? at h
  split at h
  -- the last row has no mode
  case h_7 => cases h
  all_goals
    obtain rfl := Option.some.inj h
    decide

theorem mode_of_resolveRole {p : Direction} {r x : Option Direction} {roleMode : Role × Mode}
    (h : resolveRole p r x = .ok roleMode) : roleMode.2 ≠ .unspecified :=
  mode_of_roleMode? (resolveRole_eq_ok_iff.1 h)

namespace Channel

theorem read_rereadSession (c : Channel) :
    FeedbackMode.read c.rereadSession.view = pure c.feedbackMode := by
  -- groups have another name
  have hgroups : Attribute.find "rtcp-unicast" ((c.groups.map Group.toAttribute).map .tidy)
      = none := by
    refine Attribute.find_eq_none fun a ha => ?_
    obtain ⟨b, hb, rfl⟩ := List.mem_map.1 ha
    obtain ⟨g, -, rfl⟩ := List.mem_map.1 hb
    simp [Attribute.tidy, Group.toAttribute, Attribute.valued]
  have hfind : Attribute.find "rtcp-unicast" c.rereadSession.view.attributes
      = if c.feedbackMode = .rsi then some (.valued "rtcp-unicast" "rsi") else none := by
    show Attribute.find "rtcp-unicast" (List.map Attribute.tidy (_ ++ _)) = _
    rw [List.map_append, Attribute.find_append, hgroups, Option.or_none]
    cases c.feedbackMode with
    | _ => decide
  unfold FeedbackMode.read
  rw [hfind]
  cases hmode : c.feedbackMode with
  | unspecified => rfl
  | rsi => rfl

theorem ofOrigin_toOrigin (c : Channel) :
    SessionIdentity.ofOrigin c.toOrigin = .ok ⟨c.key, c.version⟩ := by
  show SessionIdentity.ofOrigin (c.key.origin (decimal c.version.toNat)) = _
  rw [SessionIdentity.ofOrigin_origin, readVersion_decimal]
  rfl

theorem ofAttributes_rereadSession (c : Channel) :
    Group.ofAttributes c.rereadSession.view.attributes = c.groups.map Group.reread := by
  refine Group.ofAttributes_written ?_ fun g hg => token_semantics hg
  intro a ha
  rw [eq_of_mem_ite ha]
  decide

/-- The notes of a channel name the multicast streams without a source filter. -/
theorem notes_eq_map (c : Channel) :
    c.notes = (c.endpoints.filter fun x => x.2.addr.isMulticast && x.2.srcFilter.isNone).map
      fun x => .missingSourceFilter x.1 := by
  unfold notes
  -- stream by stream
  induction c.endpoints with
  | nil => rfl
  | cons x xs ih =>
    rw [List.flatMap_cons, ih]
    unfold Endpoint.notes
    by_cases h : x.2.addr.isMulticast = true ∧ x.2.srcFilter = none
    · rw [if_pos h, List.filter_cons_of_pos (by simp [h.1, h.2])]
      rfl
    · rw [if_neg h, List.filter_cons_of_neg (by simpa using h)]
      rfl

end Channel

/-! ## §2. Drawing again. -/

section Drawn

variable {v : SessionView} {channelType : ChannelType} {identity : SessionIdentity}
  {feedbackMode : FeedbackMode} {streams : Streams} {roleMode : Role × Mode} {notes : List Warning}

/-- A channel that was drawn is in order. -/
theorem Drawn.sound (h : Drawn v channelType identity feedbackMode streams roleMode notes)
    (hneat : ∀ i m, v.media? i = some m → m.Neat) :
    (streams.channel v channelType identity feedbackMode roleMode).Sound := by
  obtain ⟨_, _, parts, -, hparts, hstreams, -⟩ := h.parts
  have hformed := Parts.formed_of_ofView hparts
  exact Parts.Formed.sound_channel (c := streams.channel v channelType identity feedbackMode roleMode)
    hformed hneat hstreams

/-- **A canonical session is read as its channel**: its header says what was said before, and
its media streams play the parts they played. Groups do not matter here. -/
theorem Drawn.reread (h : Drawn v channelType identity feedbackMode streams roleMode notes)
    (hneat : ∀ i m, v.media? i = some m → m.Neat) {c : Channel}
    (hc : c = streams.channel v channelType identity feedbackMode roleMode) :
    FeedbackMode.read c.rereadSession.view = .passed feedbackMode [] ∧
      ∃ p, Parts.ofView c.rereadSession.view channelType = .ok p ∧
        p.streams = .passed streams c.notes := by
  have hsound : c.Sound := by
    rw [hc]
    exact h.sound hneat
  have hread : FeedbackMode.read c.rereadSession.view = .passed feedbackMode [] := by
    rw [c.read_rereadSession, hc]
    rfl
  obtain ⟨p, hp, hplay⟩ := hsound.formed.parts_written (v := c.rereadSession.view)
    (fun _ => rfl) rfl
  have htype : c.channelType = channelType := by
    rw [hc]
    rfl
  rw [htype] at hp
  have heq : c.streams = streams := by
    rw [hc]
    rfl
  have hwritten := hsound.streams_written hplay
  rw [heq] at hwritten
  exact ⟨hread, p, hp, hwritten⟩

/-- **A canonical session passes the stages** that its channel passed, with the same outcome
at each of them, unless its groups are not accepted. -/
theorem Drawn.redrawn_iff (h : Drawn v channelType identity feedbackMode streams roleMode notes)
    (hneat : ∀ i m, v.media? i = some m → m.Neat) {c : Channel}
    (hc : c = streams.channel v channelType identity feedbackMode roleMode)
    {feedbackMode' : FeedbackMode} {streams' : Streams} {roleMode' : Role × Mode}
    {notes' : List Warning} :
    Drawn c.rereadSession.view channelType identity feedbackMode' streams' roleMode' notes' ↔
      ¬c.Exempt ∧ feedbackMode' = feedbackMode ∧ streams' = streams ∧ roleMode' = roleMode
        ∧ notes' = c.notes := by
  have hsound : c.Sound := by
    rw [hc]
    exact h.sound hneat
  obtain ⟨_, w, parts, -, hparts, hstreams, -⟩ := h.parts
  have hmode : c.mode ≠ .unspecified := by
    rw [hc]
    exact mode_of_resolveRole h.role
  have hgroups := h.groups
  rw [← hc] at hgroups
  have haccepted := Channel.checkGroups_written_iff hmode hsound.formed.inOrder hgroups
  rw [← c.ofAttributes_rereadSession] at haccepted
  have hcount : c.rereadSession.view.mediaCount = v.mediaCount := by
    have hs : parts.streams = .passed c.streams w := by
      rw [hc]
      exact hstreams
    exact (Parts.formed_of_ofView hparts).length_endpoints hs
  -- every stage of the canonical session gives what it gave before
  obtain ⟨hread, p, hp, hps⟩ := h.reread hneat hc
  have hchannel : streams.channel c.rereadSession.view channelType identity feedbackMode roleMode
      = c := by
    rw [hc]
    rfl
  -- what a stage gives is unique, so the stages give nothing else
  constructor
  · intro h'
    obtain ⟨u, w, p', hread', hp', hps', rfl⟩ := h'.parts
    rw [hread, Check.passed.injEq] at hread'
    obtain ⟨rfl, rfl⟩ := hread'
    obtain rfl := Except.ok.inj (hp.symm.trans hp')
    rw [hps, Check.passed.injEq] at hps'
    obtain ⟨rfl, rfl⟩ := hps'
    obtain rfl := Except.ok.inj (h.role.symm.trans h'.role)
    have hok := h'.groups
    rw [hchannel] at hok
    exact ⟨haccepted.1 hok, rfl, rfl, rfl, rfl⟩
  · rintro ⟨hexempt, rfl, rfl, rfl, rfl⟩
    refine ⟨rfl, ?_, ⟨[], c.notes, p, hread, hp, hps, rfl⟩, h.role, h.apt, ?_, ?_⟩
    · rw [hcount]
      exact h.count
    · rw [hchannel]
      exact haccepted.2 hexempt
    · have hconsistent := h.consistency
      rw [← hc] at hconsistent
      rw [hchannel]
      exact hconsistent

end Drawn

/-! ## §3. Texts. -/

/-- What is known of a channel that was drawn from a text. -/
theorem sound_of_extractText {text : String} {channelType : ChannelType} {e : Extraction}
    (h : extractText text channelType = .ok e) : e.channel.Sound ∧ e.channel.Named := by
  obtain ⟨s, hs, hextract⟩ := extractText_eq_ok_iff.1 h
  obtain ⟨identity, hidentity, hchannel⟩ := extractChannel_eq_ok_iff.1 hextract
  obtain ⟨fm, streams, rm, hdrawn, heq⟩ := SessionView.channel_eq_passed_iff.1 hchannel
  have hneat := Session.neat_of_ofText hs
  have hsound := hdrawn.sound fun i m hm => hneat.media (List.mem_of_getElem? hm)
  have hkey : identity.key.username = s.origin.username
      ∧ identity.key.sessionId = s.origin.sessionId := by
    obtain ⟨horigin, -⟩ := SessionIdentity.ofOrigin_eq_ok_iff.1 hidentity
    exact ⟨(congrArg Origin.username horigin).symm, (congrArg Origin.sessionId horigin).symm⟩
  rw [heq]
  -- the fingerprint is no part of what is said here
  refine ⟨⟨⟨hsound.formed.form, hsound.formed.resourced, hsound.formed.inOrder,
    hsound.formed.linear⟩, hsound.primary, hsound.bitRate, hsound.primaryXr, hsound.resourced,
    hsound.rtx, hsound.fec1, hsound.fec2⟩, ?_, ?_, hneat.name⟩
  · show Token identity.key.username
    rw [hkey.1]
    exact hneat.1.origin.username
  · show Token identity.key.sessionId
    rw [hkey.2]
    exact hneat.1.origin.sessionId

/-- Such a channel can be written line by line: what it holds was read from lines. -/
theorem Channel.DrawnUnder.printable {channelType : ChannelType} {c : Channel}
    (hc : c.DrawnUnder channelType) : c.toSession.Printable := by
  obtain ⟨text, e, he, rfl⟩ := hc
  obtain ⟨hsound, hnamed⟩ := sound_of_extractText he
  exact hsound.printable_toSession hnamed

/-- Drawing a channel from a text that is read as its canonical session. -/
theorem extractText_reread_iff {text text' : String} {channelType : ChannelType}
    {e e' : Extraction} (h : extractText text channelType = .ok e)
    (htext : Session.ofText text' = .ok e.channel.rereadSession) :
    extractText text' channelType = .ok e' ↔
      ¬e.channel.Exempt ∧ e' = ⟨e.channel, e.channel.notes⟩ := by
  obtain ⟨s, hs, hextract⟩ := extractText_eq_ok_iff.1 h
  obtain ⟨identity, hidentity, hchannel⟩ := extractChannel_eq_ok_iff.1 hextract
  obtain ⟨fm, streams, rm, hdrawn, heq⟩ := SessionView.channel_eq_passed_iff.1 hchannel
  have hneat := Session.neat_of_ofText hs
  have hmedia : ∀ i m, s.view.media? i = some m → m.Neat := fun i m hm =>
    hneat.media (List.mem_of_getElem? hm)
  obtain ⟨_, notes⟩ := e
  dsimp only at heq
  subst heq
  -- the origin gives the identity it was written from
  have horigin : SessionIdentity.ofOrigin
      (streams.channel s.view channelType identity fm rm).toOrigin = .ok identity :=
    Channel.ofOrigin_toOrigin _
  constructor
  · intro h'
    obtain ⟨s', hs', hextract'⟩ := extractText_eq_ok_iff.1 h'
    obtain rfl := Except.ok.inj (htext.symm.trans hs')
    obtain ⟨identity', hidentity', hchannel'⟩ := extractChannel_eq_ok_iff.1 hextract'
    obtain rfl : identity = identity' := Except.ok.inj (horigin.symm.trans hidentity')
    obtain ⟨fm', streams', rm', hdrawn', heq'⟩ := SessionView.channel_eq_passed_iff.1 hchannel'
    obtain ⟨hexempt, rfl, rfl, rfl, hnotes⟩ := (hdrawn.redrawn_iff hmedia rfl).1 hdrawn'
    refine ⟨hexempt, ?_⟩
    obtain ⟨channel', notes'⟩ := e'
    dsimp only at heq' hnotes
    rw [heq', hnotes]
    rfl
  · rintro ⟨hexempt, rfl⟩
    refine extractText_eq_ok_iff.2 ⟨_, htext, extractChannel_eq_ok_iff.2 ⟨identity, horigin, ?_⟩⟩
    refine SessionView.channel_eq_passed_iff.2 ⟨fm, streams, rm, ?_, rfl⟩
    exact (hdrawn.redrawn_iff hmedia rfl).2 ⟨hexempt, rfl, rfl, rfl, rfl⟩

/-- **A channel is drawn again from its own text**, the same in every field, and what is
noted is that multicast streams have no source filter — unless it is exempt. -/
theorem extractText_toText_iff {text : String} {channelType : ChannelType} {e : Extraction}
    (h : extractText text channelType = .ok e) :
    extractText e.channel.toText channelType = .ok ⟨e.channel,
      (e.channel.endpoints.filter fun x => x.2.addr.isMulticast && x.2.srcFilter.isNone).map
        fun x => .missingSourceFilter x.1⟩ ↔ ¬e.channel.Exempt := by
  obtain ⟨hsound, hnamed⟩ := sound_of_extractText h
  rw [extractText_reread_iff h (hsound.ofText_toText hnamed), e.channel.notes_eq_map]
  exact and_iff_left rfl

/-- A broadcast from its source. -/
def broadcastText : String :=
  .ofList <| Document.unlines <| ["v=0", "o=- 1 1 IN IP4 10.0.0.1", "s=News", "t=0 0",
    "m=video 5000 RTP/AVP 33", "c=IN IP4 239.0.0.1/64", "b=AS:4000", "a=sendonly"].map
    String.toList

/-- It is drawn again from its own text. -/
theorem extractText_toText_broadcast :
    ∃ e, extractText broadcastText .linear = .ok e ∧
      extractText e.channel.toText .linear = .ok ⟨e.channel,
        (e.channel.endpoints.filter fun x => x.2.addr.isMulticast && x.2.srcFilter.isNone).map
          fun x => .missingSourceFilter x.1⟩ := by
  -- only a channel with a stream for repair can be exempt
  have hrtx : (extractText broadcastText .linear).toOption.map (·.channel.rtx) = some none := by
    rw [broadcastText, extractText_ofList]
    decide +kernel
  cases h : extractText broadcastText .linear with
  | error e =>
    rw [h] at hrtx
    cases hrtx
  | ok e =>
    rw [h] at hrtx
    have hnone : e.channel.rtx = none := Option.some.inj hrtx
    refine ⟨e, rfl, (extractText_toText_iff h).2 ?_⟩
    rintro ⟨-, r, p, q, hr, -⟩
    rw [hnone] at hr
    cases hr

/-- In a document a channel is drawn again in the same way. -/
theorem extractText_channelText_iff {text : String} {channelType : ChannelType}
    {e e' : Extraction} (h : extractText text channelType = .ok e) :
    extractText (Document.channelText e.channel) channelType = .ok e' ↔
      ¬e.channel.Exempt ∧ e' = ⟨e.channel, e.channel.notes⟩ := by
  obtain ⟨hsound, hnamed⟩ := sound_of_extractText h
  exact extractText_reread_iff h (hsound.ofText_channelText hnamed)

end Lineup
