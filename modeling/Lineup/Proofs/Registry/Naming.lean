/-
  Lineup.Proofs.Registry.Naming
  ─────────────────────────────
  **A TOKEN FINDS THE CHANNEL THAT WAS ANNOUNCED WITH ITS ORIGIN.**

      value of an origin ──── read ────▸ origin ──── drawn ───▸ channel
             │                              │                     │
         `o=` in front                   identity                key
             ▼                              ▼                     ▼
           token  ───────── read ───────▸ identity ── find ──▸ handle

  A registry answers to the key of an identity.  A channel has the key of the identity of
  its session, and a key and a version determine an origin; so whoever answers was announced
  with the origin of the token, but for the version.

  Main results: `Fed.holds`, `DrawnFrom.key_eq_iff`, `tokens_name_channels`.
-/
import Lineup.Proofs.Channel.Tokens
import Lineup.Proofs.Update.Attribution
import Lineup.Proofs.Update.Saving

namespace Lineup

/-! ## §1. Registries and the texts that were offered to them. -/

/-- A channel that was drawn from one of some texts. -/
def Channel.DrawnFrom (channelType : ChannelType) (texts : List String) (c : Channel) : Prop :=
  ∃ text ∈ texts, ∃ e, extractText text channelType = .ok e ∧ e.channel = c

theorem Channel.DrawnFrom.mono {channelType : ChannelType} {texts texts' : List String}
    {c : Channel} (hc : c.DrawnFrom channelType texts) (hsub : texts ⊆ texts') :
    c.DrawnFrom channelType texts' := by
  obtain ⟨text, htext, e, he, heq⟩ := hc
  exact ⟨text, hsub htext, e, he, heq⟩

namespace Registry

variable {config : RegistryConfig} {texts : List String} {r : Registry}

/-- The registries that texts, and giving channels up, lead to from an empty one, with the
texts that were offered on the way. -/
inductive Fed (config : RegistryConfig) : List String → Registry → Prop where
  | empty : Fed config [] (.empty config)
  | addText {texts : List String} {r : Registry} (text : String) :
      Fed config texts r → Fed config (texts ++ [text]) (r.addText text).2
  | delete {texts : List String} {r : Registry} (h : Handle) :
      Fed config texts r → Fed config texts (r.deleteIfThere h)
  | destroyAll {texts : List String} {r : Registry} :
      Fed config texts r → Fed config texts r.destroyAll

theorem Fed.reached (hr : Fed config texts r) : Reached config r := by
  induction hr with
  | empty => exact .empty
  | addText text _ ih => exact ih.step (.addText text)
  | delete h _ ih => exact ih.step (.delete h)
  | destroyAll _ ih => exact ih.step .destroyAll

theorem Fed.channelType_eq (hr : Fed config texts r) : r.channelType = config.channelType :=
  hr.reached.live.channelType_eq

/-- **All channels of a registry were drawn from texts that were offered to it.** -/
theorem Fed.holds (hr : Fed config texts r) :
    r.Holds (Channel.DrawnFrom config.channelType texts) := by
  induction hr with
  | empty => exact holds_empty config
  | @addText texts r text hr ih =>
    have hmore : r.Holds (Channel.DrawnFrom config.channelType (texts ++ [text])) := by
      intro p hp c hc
      exact (ih p hp c hc).mono (List.subset_append_left texts [text])
    apply hmore.addText text
    intro e he
    rw [hr.channelType_eq] at he
    exact ⟨text, List.mem_append_right _ List.mem_cons_self, e, he, (unmarked_of_extractText he).symm⟩
  | delete h _ ih => exact ih.deleteIfThere h
  | destroyAll _ ih => exact ih.destroyAll

end Registry

/-! ## §2. Keys and origins. -/

/-- A channel that was drawn from one of some texts, in the session of which the origin is the
given one but for its version. -/
def Channel.AnnouncedBy (channelType : ChannelType) (texts : List String) (o : Origin)
    (c : Channel) : Prop :=
  ∃ text ∈ texts, ∃ s e, Session.ofText text = .ok s ∧
    s.origin = { o with sessionVersion := s.origin.sessionVersion } ∧
    extractText text channelType = .ok e ∧ e.channel = c

/-- The key of a channel is the key that its session's origin gives. -/
theorem exists_identity_of_extractText {text : String} {channelType : ChannelType} {e : Extraction}
    {s : Session} (hs : Session.ofText text = .ok s) (h : extractText text channelType = .ok e) :
    ∃ i, SessionIdentity.ofOrigin s.origin = .ok i ∧ i.key = e.channel.key := by
  obtain ⟨s', hs', hdrawn⟩ := extractText_eq_ok_iff.1 h
  rw [hs] at hs'
  obtain rfl := Except.ok.inj hs'
  have hkey := key_of_extractChannel hdrawn
  cases hi : SessionIdentity.ofOrigin s.origin with
  | error x =>
    rw [show s.view.origin = s.origin from rfl, hi] at hkey
    cases hkey
  | ok i =>
    rw [show s.view.origin = s.origin from rfl, hi] at hkey
    exact ⟨i, rfl, Option.some.inj hkey⟩

/-- **Channels with the key of an origin are those that were announced with it.** -/
theorem Channel.DrawnFrom.key_eq_iff {channelType : ChannelType} {texts : List String}
    {c : Channel} {o : Origin} {i : SessionIdentity} (hc : c.DrawnFrom channelType texts)
    (hi : SessionIdentity.ofOrigin o = .ok i) :
    c.key = i.key ↔ c.AnnouncedBy channelType texts o := by
  obtain ⟨ho, -⟩ := SessionIdentity.ofOrigin_eq_ok_iff.1 hi
  constructor
  · intro hkey
    obtain ⟨text, htext, e, he, rfl⟩ := hc
    obtain ⟨s, hs, -⟩ := extractText_eq_ok_iff.1 he
    obtain ⟨i', hi', hkey'⟩ := exists_identity_of_extractText hs he
    obtain ⟨hs', -⟩ := SessionIdentity.ofOrigin_eq_ok_iff.1 hi'
    refine ⟨text, htext, s, e, hs, ?_, he, rfl⟩
    rw [hkey', hkey] at hs'
    -- both origins are the origin of the one key
    calc s.origin = i.key.origin s.origin.sessionVersion := hs'
      _ = { i.key.origin o.sessionVersion with sessionVersion := s.origin.sessionVersion } := rfl
      _ = { o with sessionVersion := s.origin.sessionVersion } := by rw [← ho]
  · intro h
    obtain ⟨text, -, s, e, hs, horigin, he, rfl⟩ := h
    obtain ⟨i', hi', hkey'⟩ := exists_identity_of_extractText hs he
    have hsame : s.origin = i.key.origin s.origin.sessionVersion := by
      rw [ho] at horigin
      exact horigin
    rw [hsame, SessionIdentity.ofOrigin_origin] at hi'
    cases hversion : readVersion s.origin.sessionVersion with
    | error x =>
      rw [hversion] at hi'
      cases hi'
    | ok n =>
      rw [hversion] at hi'
      rw [← hkey', ← Except.ok.inj hi']

namespace Registry

variable {config : RegistryConfig} {texts : List String} {r : Registry}

theorem Fed.findByKey_eq_some_iff (hr : Fed config texts r)
    (hplaces : r.arena.places.size ≤ UInt32.size) {o : Origin} {i : SessionIdentity}
    (hi : SessionIdentity.ofOrigin o = .ok i) {h : Handle} :
    r.findByKey i.key = some h ↔
      ∃ c, (h, c) ∈ r.channels ∧ c.AnnouncedBy config.channelType texts o := by
  have hindexed := hr.reached.indexed_of_places hplaces
  rw [hindexed.byKey]
  constructor
  · intro hfound
    obtain ⟨c, hc, hkey⟩ := hfound
    have hdrawn := Arena.Holds.resolve hr.holds hc
    exact ⟨c, hindexed.mem_channels.2 hc, (hdrawn.key_eq_iff hi).1 hkey⟩
  · intro hfound
    obtain ⟨c, hc, hannounced⟩ := hfound
    have hc := hindexed.mem_channels.1 hc
    have hdrawn := Arena.Holds.resolve hr.holds hc
    exact ⟨c, hc, (hdrawn.key_eq_iff hi).2 hannounced⟩

theorem Fed.findByKey_eq_none_iff (hr : Fed config texts r)
    (hplaces : r.arena.places.size ≤ UInt32.size) {o : Origin} {i : SessionIdentity}
    (hi : SessionIdentity.ofOrigin o = .ok i) :
    r.findByKey i.key = none ↔
      ∀ h c, (h, c) ∈ r.channels → ¬ c.AnnouncedBy config.channelType texts o := by
  rw [Option.eq_none_iff_forall_ne_some]
  constructor
  · intro hnone h c hc hannounced
    exact hnone h ((hr.findByKey_eq_some_iff hplaces hi).2 ⟨c, hc, hannounced⟩)
  · intro hnone h hsome
    obtain ⟨c, hc, hannounced⟩ := (hr.findByKey_eq_some_iff hplaces hi).1 hsome
    exact hnone h c hc hannounced

end Registry

/-! ## §3. Tokens. -/

/-- **IDENTITY TOKENS NAME CHANNELS FAITHFULLY.**  Take a value that reads as an origin, and an
origin that gives an identity; the tokens of interest are `o=` with the value behind it, and the
written form of the identity, which is `o=` with a text behind it as well.

  * Either is read as that identity, key and version.
  * With any other text that is a version in the place of its own, it is read as an identity
    that matches, in that version.
  * In every registry that texts and giving channels up lead to, the identity of any of these
    tokens finds the channel that is there and was drawn from a session with that origin,
    whatever its version, and nothing if there is none.

A handle numbers its place with 32 bits, and channels beyond as many places are told apart no
longer (`Registry.Reached.exists_refused_beyond`); so the places are asked to have numbers, as
they always do where no more than 2³² channels are allowed. -/
theorem tokens_name_channels {value : String} {o : Origin} {i : SessionIdentity}
    (ho : Origin.ofChars? value.toList = some o) (hi : SessionIdentity.ofOrigin o = .ok i) :
    ∃ written, i.text = "o=" ++ written ∧ ∀ body ∈ [value, written],
      SessionIdentity.ofToken ("o=" ++ body) = .ok i ∧
      (∀ version n, readVersion version = .ok n →
        ∃ j, SessionIdentity.ofToken ("o=" ++ SessionIdentity.withVersion body version) = .ok j ∧
          i.sameChannel j = true ∧ j.version = n) ∧
      ∀ {config : RegistryConfig} {texts : List String} {r : Registry},
        Registry.Fed config texts r → r.arena.places.size ≤ UInt32.size →
        ∀ token j, SessionIdentity.ofToken token = .ok j →
          (token = "o=" ++ body ∨ ∃ version n, readVersion version = .ok n ∧
            token = "o=" ++ SessionIdentity.withVersion body version) →
          (∀ h, r.findByIdentity j = some h ↔
            ∃ c, (h, c) ∈ r.channels ∧ c.AnnouncedBy config.channelType texts o) ∧
          (r.findByIdentity j = none ↔
            ∀ h c, (h, c) ∈ r.channels → ¬ c.AnnouncedBy config.channelType texts o) := by
  refine ⟨_, i.text_eq, ?_⟩
  intro body hbody
  -- the words of either text are the fields of an origin of the key
  obtain ⟨version, hwords, hversion⟩ : ∃ version,
      Text.words Text.isWhite body.toList = (i.key.origin version).fields ∧
        readVersion version = .ok i.version := by
    rcases List.mem_pair.1 hbody with rfl | rfl
    · obtain ⟨horigin, hversion⟩ := SessionIdentity.ofOrigin_eq_ok_iff.1 hi
      refine ⟨o.sessionVersion, ?_, hversion⟩
      rw [← horigin]
      exact SessionIdentity.words_of_origin ho
    · exact ⟨_, SessionIdentity.words_toValue (Origin.printable_of_ofChars? ho) hi,
        readVersion_decimal i.version⟩
  have hread : SessionIdentity.ofToken ("o=" ++ body) = .ok i := by
    rw [SessionIdentity.ofToken_of_words hwords, SessionIdentity.ofOrigin_origin, hversion]
    rfl
  have hrevised : ∀ version' n, readVersion version' = .ok n →
      SessionIdentity.ofToken ("o=" ++ SessionIdentity.withVersion body version')
        = .ok ⟨i.key, n⟩ := by
    intro version' n hn
    exact SessionIdentity.ofToken_withVersion hwords hn
  refine ⟨hread, ?_, ?_⟩
  · intro version' n hn
    refine ⟨_, hrevised version' n hn, ?_, rfl⟩
    show (i.key == i.key) = true
    exact beq_self_eq_true i.key
  · intro config texts r hr hplaces token j hj htoken
    have hkey : j.key = i.key := by
      rcases htoken with rfl | ⟨version', n, hn, rfl⟩
      · rw [hread] at hj
        rw [Except.ok.inj hj]
      · rw [hrevised version' n hn] at hj
        rw [← Except.ok.inj hj]
    show (∀ h, r.findByKey j.key = some h ↔ _) ∧ (r.findByKey j.key = none ↔ _)
    rw [hkey]
    exact ⟨fun h => hr.findByKey_eq_some_iff hplaces hi, hr.findByKey_eq_none_iff hplaces hi⟩

/-- A broadcast by a user whose name looks like the start of a token. -/
def relayText : String :=
  .ofList <| Document.unlines <| ["v=0", "o=o=relay 1 1 IN IP4 10.0.0.1", "s=News", "t=0 0",
    "m=video 5000 RTP/AVP 33", "c=IN IP4 239.0.0.1/64", "b=AS:4000", "a=sendonly"].map
    String.toList

open Registry Coordinator in
theorem exists_relay_taken :
    ∃ r c h, Fed .standard [relayText] r ∧ (h, c) ∈ r.channels ∧
      c.key = ⟨"o=relay", "1", ⟨10, 0, 0, 1⟩⟩ := by
  obtain ⟨e, he, hclaimable, hkey⟩ := exists_ok_of_any (x := extractText relayText .linear)
    (p := fun e => Claimable e.channel ∧ e.channel.key = ⟨"o=relay", "1", ⟨10, 0, 0, 1⟩⟩) (by
      rw [relayText, extractText_ofList]
      decide +kernel)
  have hes : [relayText].map (extractText · (Registry.empty .standard).channelType)
      = [e].map .ok := by
    rw [List.map_singleton, List.map_singleton, ← he]
    rfl
  obtain ⟨-, happ⟩ := takeIn_of_fits (indexed_empty .standard) (packed_empty .standard) 0 hes
    (fits_singleton hclaimable) (by show 1 ≤ 1000; decide) (by show min 1000 1 ≤ UInt32.size; decide)
  rw [takeIn_fst] at happ
  have hmem : e.channel ∈ ((Registry.empty .standard).offerAll [relayText]).records := by
    rw [happ.records]
    exact List.mem_append_right _ List.mem_cons_self
  obtain ⟨h, hget⟩ := exists_of_mem_records hmem
  exact ⟨_, e.channel, h, .addText relayText .empty, happ.indexed.mem_channels.2 hget, hkey⟩

/-- It is found by a value with a tab in it and zeros in front of another version, and by what
the identity of that value is written as, in the largest version there is. -/
theorem tokens_name_channels_relay :
    ∃ r c h o i, Registry.Fed .standard [relayText] r ∧ r.arena.places.size ≤ UInt32.size ∧
      (h, c) ∈ r.channels ∧
      Origin.ofChars? "o=relay 1\t007 IN IP4 10.0.0.1".toList = some o ∧
      SessionIdentity.ofOrigin o = .ok i ∧ i.version = 7 ∧
      SessionIdentity.ofToken ("o=" ++ "o=relay 1\t007 IN IP4 10.0.0.1") = .ok i ∧
      r.findByIdentity i = some h ∧
      i.text = "o=" ++ "o=relay 1 7 IN IP4 10.0.0.1" ∧
      ∃ j, SessionIdentity.ofToken ("o=" ++ SessionIdentity.withVersion
          "o=relay 1 7 IN IP4 10.0.0.1" "18446744073709551615") = .ok j ∧
        i.sameChannel j = true ∧ j.version = 18446744073709551615 ∧
        r.findByIdentity j = some h := by
  obtain ⟨r, c, h, hr, hc, hkey⟩ := exists_relay_taken
  have hplaces : r.arena.places.size ≤ UInt32.size :=
    Nat.le_trans hr.reached.linked.places_le (by
      rw [hr.reached.live.maxChannels_eq]
      decide)
  let o : Origin := ⟨"o=relay", "1", "007", "IN", "IP4", "10.0.0.1"⟩
  let i : SessionIdentity := ⟨⟨"o=relay", "1", ⟨10, 0, 0, 1⟩⟩, 7⟩
  have ho : Origin.ofChars? "o=relay 1\t007 IN IP4 10.0.0.1".toList = some o := by decide +kernel
  have hi : SessionIdentity.ofOrigin o = .ok i := by decide +kernel
  have htext : i.text = "o=" ++ "o=relay 1 7 IN IP4 10.0.0.1" := by decide +kernel
  have hannounced : c.AnnouncedBy RegistryConfig.standard.channelType [relayText] o :=
    ((Arena.Holds.resolve hr.holds (Registry.mem_channels_iff.1 hc).2).key_eq_iff hi).1 hkey
  obtain ⟨written, hwritten, hall⟩ := tokens_name_channels ho hi
  obtain rfl : written = "o=relay 1 7 IN IP4 10.0.0.1" := by
    rw [htext] at hwritten
    exact (String.append_right_inj "o=").1 hwritten.symm
  obtain ⟨hread, -, hfind⟩ := hall _ List.mem_cons_self
  obtain ⟨-, hrevised, hfind'⟩ := hall _ (List.mem_cons_of_mem _ List.mem_cons_self)
  have hlast : readVersion "18446744073709551615" = .ok 18446744073709551615 := by decide +kernel
  obtain ⟨j, hj, hsame, hversion⟩ := hrevised _ _ hlast
  refine ⟨r, c, h, o, i, hr, hplaces, hc, ho, hi, rfl, hread, ?_, htext, j, hj, hsame, hversion, ?_⟩
  · exact ((hfind hr hplaces _ i hread (Or.inl rfl)).1 h).2 ⟨c, hc, hannounced⟩
  · exact ((hfind' hr hplaces _ j hj (Or.inr ⟨_, _, hlast, rfl⟩)).1 h).2 ⟨c, hc, hannounced⟩

end Lineup
