/-
  Lineup.Proofs.Extraction.Fingerprint
  ────────────────────────────────────
  **THE TEXT OF A CHANNEL TELLS ALL OF IT.**  From its canonical session everything
  can be read again that makes up a channel: the identity from the origin, name and
  stop time from their lines, the feedback mode, and every stream with its kind.  The
  rest follows from these.  So two channels with one text are one channel, also where
  the groups of that text would not be accepted again.  Only the mark that is set while
  configurations are compared is not written.

  Main results:
    * `toText_injective_of_drawn` — channels drawn from texts are told apart by theirs;
    * `Channel.fingerprint_faithful` — so are they by their fingerprints, as far as these
      tell the two texts apart.
-/
import Lineup.Proofs.Extraction.RoundTrip
import Lineup.Proofs.Update.Staging
import Lineup.Update.Report

namespace Lineup

open Registry

/-! ## §1. What is read from a canonical session. -/

/-- A channel is made of its identity, the name and the stop time of its session, and what was
read from its streams. -/
theorem Streams.channel_congr {v v' : SessionView} (hname : v.name = v'.name)
    (hstop : v.timing.stop = v'.timing.stop) (s : Streams) (channelType : ChannelType)
    (identity : SessionIdentity) (feedbackMode : FeedbackMode) (roleMode : Role × Mode) :
    s.channel v channelType identity feedbackMode roleMode
      = s.channel v' channelType identity feedbackMode roleMode := by
  unfold Streams.channel
  rw [hname, hstop]

/-- **Channels with one canonical session are one.** -/
theorem Drawn.eq_of_rereadSession {channelType : ChannelType} {v v' : SessionView}
    {identity identity' : SessionIdentity} {fm fm' : FeedbackMode} {s s' : Streams}
    {rm rm' : Role × Mode} {notes notes' : List Warning}
    (h : Drawn v channelType identity fm s rm notes)
    (h' : Drawn v' channelType identity' fm' s' rm' notes')
    (hneat : ∀ i m, v.media? i = some m → m.Neat)
    (hneat' : ∀ i m, v'.media? i = some m → m.Neat)
    (heq : (s.channel v channelType identity fm rm).rereadSession
      = (s'.channel v' channelType identity' fm' rm').rereadSession) :
    s.channel v channelType identity fm rm = s'.channel v' channelType identity' fm' rm' := by
  -- the lines that stand once
  have horigin : (s.channel v channelType identity fm rm).toOrigin
      = (s'.channel v' channelType identity' fm' rm').toOrigin := congrArg Session.origin heq
  have hname : v.name = v'.name := congrArg Session.name heq
  have hstop : v.timing.stop = v'.timing.stop := congrArg (·.timing.stop) heq
  have hidentity : identity = identity' := by
    have hread := Channel.ofOrigin_toOrigin (s.channel v channelType identity fm rm)
    rw [horigin, Channel.ofOrigin_toOrigin] at hread
    exact (Except.ok.inj hread).symm
  -- what the stages give for the two sessions, which are one
  obtain ⟨hread, p, hp, hstreams⟩ := h.reread hneat rfl
  obtain ⟨hread', p', hp', hstreams'⟩ := h'.reread hneat' rfl
  rw [heq] at hread hp
  obtain rfl := Except.ok.inj (hp.symm.trans hp')
  obtain ⟨rfl, -⟩ := Check.passed.inj (hread.symm.trans hread')
  obtain ⟨rfl, -⟩ := Check.passed.inj (hstreams.symm.trans hstreams')
  obtain rfl : rm = rm' := Except.ok.inj (h.role.symm.trans h'.role)
  rw [hidentity]
  exact s.channel_congr hname hstop channelType identity' fm rm

/-! ## §2. Texts and fingerprints. -/

/-- **Channels that were drawn from texts are told apart by their own texts.** -/
theorem toText_injective_of_drawn {text text' : String} {channelType : ChannelType}
    {e e' : Extraction} (h : extractText text channelType = .ok e)
    (h' : extractText text' channelType = .ok e') (heq : e.channel.toText = e'.channel.toText) :
    e.channel = e'.channel := by
  obtain ⟨hsound, hnamed⟩ := sound_of_extractText h
  obtain ⟨hsound', hnamed'⟩ := sound_of_extractText h'
  -- the two texts are read as the two canonical sessions
  have hread := hsound.ofText_toText hnamed
  rw [heq, hsound'.ofText_toText hnamed'] at hread
  have hsession := (Except.ok.inj hread).symm
  obtain ⟨s, hs, hextract⟩ := extractText_eq_ok_iff.1 h
  obtain ⟨identity, -, hchannel⟩ := extractChannel_eq_ok_iff.1 hextract
  obtain ⟨fm, streams, rm, hdrawn, hsealed⟩ := SessionView.channel_eq_passed_iff.1 hchannel
  obtain ⟨s', hs', hextract'⟩ := extractText_eq_ok_iff.1 h'
  obtain ⟨identity', -, hchannel'⟩ := extractChannel_eq_ok_iff.1 hextract'
  obtain ⟨fm', streams', rm', hdrawn', hsealed'⟩ := SessionView.channel_eq_passed_iff.1 hchannel'
  have hneat := Session.neat_of_ofText hs
  have hneat' := Session.neat_of_ofText hs'
  rw [hsealed, hsealed'] at hsession ⊢
  -- a fingerprint is no part of a canonical session
  refine congrArg Channel.sealed (hdrawn.eq_of_rereadSession hdrawn' ?_ ?_ hsession)
  · exact fun i m hm => hneat.media (List.mem_of_getElem? hm)
  · exact fun i m hm => hneat'.media (List.mem_of_getElem? hm)

/-- A drawn channel carries the digest of its text. -/
theorem checksum_of_extractText {text : String} {channelType : ChannelType} {e : Extraction}
    (h : extractText text channelType = .ok e) :
    e.channel.checksum = Md5.hex e.channel.toText.toUTF8 := by
  obtain ⟨s, -, hextract⟩ := extractText_eq_ok_iff.1 h
  obtain ⟨identity, -, hchannel⟩ := extractChannel_eq_ok_iff.1 hextract
  obtain ⟨fm, streams, rm, -, hsealed⟩ := SessionView.channel_eq_passed_iff.1 hchannel
  rw [hsealed]
  rfl

namespace Channel

theorem DrawnUnder.checksum_eq {channelType : ChannelType} {a : Channel}
    (ha : DrawnUnder channelType (unmarked a)) : a.checksum = Md5.hex a.toText.toUTF8 := by
  obtain ⟨text, e, he, hea⟩ := ha
  have hsum := checksum_of_extractText he
  rw [hea] at hsum
  exact hsum

/-- **A CHANNEL IS TOLD BY ITS TEXT, AND BY ITS FINGERPRINT WHERE THAT TELLS THE TEXTS
APART.**  Two channels that were drawn from texts have one text exactly if they agree in all
but their marks, and the fingerprint of each is the digest of its text. If one digest means
one text, having the same content means the same, and an update finds a channel unchanged
exactly if it is the live one, and conflicting exactly if it is another one of the same
version. -/
theorem fingerprint_faithful {channelType : ChannelType} {a b : Channel}
    (ha : DrawnUnder channelType (unmarked a)) (hb : DrawnUnder channelType (unmarked b)) :
    (a.toText = b.toText ↔ unmarked a = unmarked b) ∧
    a.checksum = Md5.hex a.toText.toUTF8 ∧ b.checksum = Md5.hex b.toText.toUTF8 ∧
    ((Md5.hex a.toText.toUTF8 = Md5.hex b.toText.toUTF8 → a.toText = b.toText) →
      (a.sameContent b = true ↔ unmarked a = unmarked b) ∧
      (Change.between a b = .unchanged ↔ unmarked a = unmarked b) ∧
      (Change.between a b = .conflicting ↔ a.version = b.version ∧ unmarked a ≠ unmarked b)) := by
  -- a mark is no part of the text
  have htext : a.toText = b.toText ↔ unmarked a = unmarked b := by
    obtain ⟨text, e, he, hea⟩ := ha
    obtain ⟨text', e', he', heb⟩ := hb
    show (unmarked a).toText = (unmarked b).toText ↔ _
    rw [← hea, ← heb]
    exact ⟨toText_injective_of_drawn he he', congrArg toText⟩
  refine ⟨htext, ha.checksum_eq, hb.checksum_eq, fun hdigest => ?_⟩
  have hchecksum : a.checksum = b.checksum ↔ unmarked a = unmarked b := by
    constructor
    · intro h
      rw [ha.checksum_eq, hb.checksum_eq] at h
      exact htext.1 (hdigest h)
    · exact congrArg (fun c : Channel => c.checksum)
  have hversion : unmarked a = unmarked b → a.version = b.version :=
    congrArg (fun c : Channel => c.version)
  have hkey : unmarked a = unmarked b → a.key = b.key := congrArg (fun c : Channel => c.key)
  refine ⟨?_, ?_, ?_⟩
  · unfold sameContent
    simp only [Bool.and_eq_true, beq_iff_eq, hchecksum]
    exact ⟨fun h => h.2, fun h => ⟨⟨hkey h, hversion h⟩, h⟩⟩
  · rw [Change.between_eq_unchanged_iff, hchecksum]
    exact ⟨fun h => h.2, fun h => ⟨hversion h, h⟩⟩
  · rw [Change.between_eq_conflicting_iff, Ne, hchecksum]

/-- The broadcast under another name. -/
def renamedText : String :=
  .ofList <| Document.unlines <| ["v=0", "o=- 1 1 IN IP4 10.0.0.1", "s=Film", "t=0 0",
    "m=video 5000 RTP/AVP 33", "c=IN IP4 239.0.0.1/64", "b=AS:4000", "a=sendonly"].map
    String.toList

theorem exists_broadcast : ∃ e : Extraction, extractText broadcastText .linear = .ok e ∧
    e.channel.version = 1 ∧ e.channel.checksum = "24eaea90d3ef518ec640b000fdfec6b0" := by
  refine exists_ok_of_any ?_
  rw [broadcastText, extractText_ofList]
  decide +kernel

theorem exists_renamed : ∃ e : Extraction, extractText renamedText .linear = .ok e ∧
    e.channel.version = 1 ∧ e.channel.checksum = "387144cb5f7e5af4795a3856199d3026" := by
  refine exists_ok_of_any ?_
  rw [renamedText, extractText_ofList]
  decide +kernel

/-- Both have one key and one version, and different digests: they conflict with each other. -/
theorem fingerprint_faithful_renamed :
    ∃ e e' : Extraction, extractText broadcastText .linear = .ok e ∧
      extractText renamedText .linear = .ok e' ∧
      Md5.hex e.channel.toText.toUTF8 = "24eaea90d3ef518ec640b000fdfec6b0" ∧
      Md5.hex e'.channel.toText.toUTF8 = "387144cb5f7e5af4795a3856199d3026" ∧
      e.channel.toText ≠ e'.channel.toText ∧ unmarked e.channel ≠ unmarked e'.channel ∧
      e.channel.sameContent e'.channel = false ∧
      Change.between e.channel e'.channel = .conflicting := by
  obtain ⟨e, he, hversion, hchecksum⟩ := exists_broadcast
  obtain ⟨e', he', hversion', hchecksum'⟩ := exists_renamed
  have hdrawn : DrawnUnder .linear (unmarked e.channel) := ⟨_, e, he, (unmarked_of_extractText he).symm⟩
  have hdrawn' : DrawnUnder .linear (unmarked e'.channel) := ⟨_, e', he', (unmarked_of_extractText he').symm⟩
  obtain ⟨htext, hdigest, hdigest', hfaithful⟩ := fingerprint_faithful hdrawn hdrawn'
  rw [hchecksum] at hdigest
  rw [hchecksum'] at hdigest'
  -- the digests differ, so the texts do
  have hdiffer : Md5.hex e.channel.toText.toUTF8 ≠ Md5.hex e'.channel.toText.toUTF8 := by
    rw [← hdigest, ← hdigest']
    decide
  have htexts : e.channel.toText ≠ e'.channel.toText := fun heq => hdiffer (by rw [heq])
  have hchannels : unmarked e.channel ≠ unmarked e'.channel := fun heq => htexts (htext.2 heq)
  obtain ⟨hsame, -, hconflicting⟩ := hfaithful fun heq => absurd heq hdiffer
  exact ⟨e, e', he, he', hdigest.symm, hdigest'.symm, htexts, hchannels,
    Bool.eq_false_iff.2 fun h => hchannels (hsame.1 h),
    hconflicting.2 ⟨hversion.trans hversion'.symm, hchannels⟩⟩

end Channel

end Lineup
