/-
  Lineup.Proofs.Update.Attribution
  ────────────────────────────────
  **WHICH SESSION A FAILURE NAMES.**  A session that did not become a channel is reported
  with its position and, where its origin names one, with its key.  The key goes through
  every reason there is:

      the text cannot be read            — no origin, no key
      its origin gives no identity       — no key
      the session is no channel          — the key of its identity
      its key or one of its pairs is
      claimed already                    — the key of the channel drawn from it
      there is no room                   — the key is known, but it is not reported

  Main results:
    * `insert_refusal` — every refusal names the key of the channel, but that of a registry
      without room;
    * `addText_refusal` — so does every failure of a text, as far as the text names a key;
    * `stage_names_keys_iff` — which failures of a document name the key of their session.
-/
import Lineup.Proofs.Update.Afresh
import Lineup.Proofs.Update.Balance

namespace Lineup

/-! ## §1. The key of a text. -/

/-- The key of a text that reads as a session whose origin gives an identity. -/
def keyOf? (text : String) : Option SessionKey :=
  (Session.ofText text).toOption.bind fun s =>
    (SessionIdentity.ofOrigin s.view.origin).toOption.map (·.key)

theorem key_of_extractChannel {v : SessionView} {channelType : ChannelType} {e : Extraction}
    (h : extractChannel v channelType = .ok e) :
    (SessionIdentity.ofOrigin v.origin).toOption.map (·.key) = some e.channel.key := by
  obtain ⟨identity, hidentity, hc⟩ := extractChannel_eq_ok_iff.1 h
  obtain ⟨fm, streams, rm, -, heq⟩ := SessionView.channel_eq_passed_iff.1 hc
  rw [hidentity, heq]
  rfl

/-- A channel has the key of its text. -/
theorem keyOf?_of_extractText {text : String} {channelType : ChannelType} {e : Extraction}
    (h : extractText text channelType = .ok e) : keyOf? text = some e.channel.key := by
  obtain ⟨s, hs, hdrawn⟩ := extractText_eq_ok_iff.1 h
  unfold keyOf?
  rw [hs]
  exact key_of_extractChannel hdrawn

/-- **A text that is no channel is refused with its key**, if it has one. -/
theorem keyOf?_of_error {text : String} {channelType : ChannelType} {e : ExtractError}
    (h : extractText text channelType = .error e) :
    (RegistryError.extract e).key? = keyOf? text := by
  unfold extractText at h
  unfold keyOf?
  cases hs : Session.ofText text with
  | error x =>
    rw [hs] at h
    obtain rfl := Except.error.inj h
    rfl
  | ok s =>
    rw [hs] at h
    show _ = (SessionIdentity.ofOrigin s.view.origin).toOption.map (·.key)
    unfold extractChannel at h
    dsimp only at h
    cases hid : SessionIdentity.ofOrigin s.view.origin with
    | error x =>
      rw [hid] at h
      obtain rfl := Except.error.inj h
      rfl
    | ok identity =>
      rw [hid] at h
      dsimp only at h
      cases hc : s.view.channel channelType identity with
      | refused x =>
        rw [hc] at h
        obtain rfl := Except.error.inj h
        rfl
      | passed c warnings =>
        rw [hc] at h
        cases h

namespace Registry

variable {r : Registry} {c : Channel}

/-! ## §2. Refusals. -/

/-- **Every refusal names the key of the channel**, but that of a registry without room. -/
theorem insert_refusal {e : RegistryError} (h : (r.insert c).1 = .error e) :
    e = .capacityExceeded r.maxChannels ∨
      (∀ max, e ≠ .capacityExceeded max) ∧ e.key? = some c.key := by
  have hverdict := r.insert_verdict c
  rw [h] at hverdict
  split at hverdict
  · obtain rfl := Except.error.inj hverdict
    exact Or.inr ⟨fun max => by simp, rfl⟩
  split at hverdict
  · exact Or.inl (Except.error.inj hverdict)
  · -- a pair of one of the two lists is refused
    cases hp : (r.primaryMap.insertAll c.primaryKeys (r.nextHandle c)).1 with
    | error x =>
      rw [hp] at hverdict
      obtain rfl := Except.error.inj hverdict
      exact Or.inr ⟨fun max => by simp, rfl⟩
    | ok u =>
      rw [hp] at hverdict
      cases hf : (r.feedbackMap.insertAll c.feedbackKeys (r.nextHandle c)).1 with
      | error x =>
        rw [hf] at hverdict
        obtain rfl := Except.error.inj hverdict
        exact Or.inr ⟨fun max => by simp, rfl⟩
      | ok u =>
        rw [hf] at hverdict
        cases hverdict

/-- How taking a text in ends: as drawing a channel from it does, or as taking that channel in
does. -/
theorem addText_fst (r : Registry) (text : String) :
    (∃ x, extractText text r.channelType = .error x ∧
      (r.addText text).1 = .error (.extract x)) ∨
    ∃ e f, extractText text r.channelType = .ok e ∧
      (r.addText text).1 = ((r.count f).insert e.channel).1 := by
  rcases r.offer_eq (.text text) with ⟨x, f, hx, hoffer⟩ | ⟨c, f, g, hc, hoffer⟩
  · exact Or.inl ⟨x, Offer.channel?_text_eq_error_iff.1 hx, (Prod.ext_iff.1 hoffer).1⟩
  · obtain ⟨e, he, rfl⟩ := Offer.channel?_text_eq_ok_iff.1 hc
    exact Or.inr ⟨e, f, he, (Prod.ext_iff.1 hoffer).1⟩

/-- **Every failure of a text names its key**, if it has one and there is room. -/
theorem addText_refusal {text : String} {e : RegistryError} (h : (r.addText text).1 = .error e) :
    e = .capacityExceeded r.maxChannels ∧ (keyOf? text).isSome ∨
      (∀ max, e ≠ .capacityExceeded max) ∧ e.key? = keyOf? text := by
  rcases r.addText_fst text with ⟨x, hx, hadd⟩ | ⟨y, f, hy, hadd⟩
  · rw [hadd] at h
    obtain rfl := Except.error.inj h
    exact Or.inr ⟨fun max => by simp, keyOf?_of_error hx⟩
  · rw [hadd] at h
    rw [keyOf?_of_extractText hy]
    exact (insert_refusal h).imp_left fun hfull => ⟨hfull, rfl⟩

/-- A channel with a new key is refused by a registry without room. -/
theorem Indexed.addText_of_full (hr : r.Indexed) {text : String} {e : Extraction}
    (he : extractText text r.channelType = .ok e) (hnew : ∀ d ∈ r.records, d.key ≠ e.channel.key)
    (hfull : r.maxChannels ≤ r.size) :
    (r.addText text).1 = .error (.capacityExceeded r.maxChannels) := by
  rcases r.addText_fst text with ⟨x, hx, -⟩ | ⟨y, f, hy, hadd⟩
  · rw [he] at hx
    cases hx
  · obtain rfl := Except.ok.inj (he.symm.trans hy)
    have hverdict := (r.count f).insert_verdict e.channel
    rw [(hr.count f).findByKey_eq_none_iff.2 hnew, if_neg (by simp),
      if_pos (show (r.count f).maxChannels ≤ (r.count f).size from hfull)] at hverdict
    cases hins : ((r.count f).insert e.channel).1 with
    | error x =>
      rw [hins] at hverdict
      rw [hadd, hins, Except.error.inj hverdict]
      rfl
    | ok h =>
      rw [hins] at hverdict
      cases hverdict

theorem config_offerAll (r : Registry) (texts : List String) :
    (r.offerAll texts).config = r.config := by
  induction texts generalizing r with
  | nil => rfl
  | cons text texts ih => exact (ih _).trans (r.config_offer (.text text))

end Registry

/-! ## §3. Documents. -/

namespace Coordinator

open Registry

theorem failures_of_stage {c c' : Coordinator} {live : Registry} {document : String}
    {report : UpdateReport} (hok : c.stage live document = (.ok report, c')) :
    report.failures = (takeIn 0 live.emptyLike (Document.sessions document)).2 := by
  unfold stage at hok
  split at hok
  · cases hok
    rfl
  · cases hok

/-- **A FAILURE NAMES THE KEY OF ITS SESSION EXACTLY IF THERE WAS ROOM FOR THE SESSION**, whatever
is live and whatever the document. A session that there was no room for has a key, since a
channel was drawn from it, and is reported without one.

Otherwise the key is that of the origin, and it is left out only where the text cannot be read
or its origin gives no identity. -/
theorem stage_names_keys_iff {c c' : Coordinator} {live : Registry} {document : String}
    {report : UpdateReport} (hok : c.stage live document = (.ok report, c')) :
    ∀ f ∈ report.failures, ∃ text, (Document.sessions document)[f.index]? = some text ∧
      (f.key? = keyOf? text ↔ ∀ max, f.reason ≠ .capacityExceeded max) ∧
      ∀ max, f.reason = .capacityExceeded max →
        max = live.maxChannels ∧ f.key? = none ∧ (keyOf? text).isSome := by
  intro f hf
  rw [failures_of_stage hok] at hf
  obtain ⟨k, hindex, text, hget, hfailed⟩ := mem_takeIn_iff.1 hf
  rw [Nat.zero_add] at hindex
  refine ⟨text, hindex ▸ hget, ?_⟩
  have hmax : (live.emptyLike.offerAll ((Document.sessions document).take k)).maxChannels
      = live.maxChannels := congrArg RegistryConfig.maxChannels (config_offerAll _ _)
  unfold SessionFailure.key?
  rcases addText_refusal hfailed with ⟨hfull, hsome⟩ | ⟨hroom, hkey⟩
  · rw [hfull, hmax]
    refine ⟨⟨fun hkey => ?_, fun hroom => absurd rfl (hroom _)⟩, ?_⟩
    · rw [← hkey] at hsome
      cases hsome
    · rintro max heq
      exact ⟨(RegistryError.capacityExceeded.inj heq).symm, rfl, hsome⟩
  · exact ⟨⟨fun _ => hroom, fun _ => hkey⟩, fun max heq => absurd heq (hroom max)⟩

/-- A registry with room for one channel. -/
def cramped : Registry := .empty ⟨.linear, 1, 0⟩

/-- The first bulletin takes the room, so the second one fails for want of it. -/
theorem failsAt_bulletins :
    cramped.emptyLike.FailsAt bulletins 1 (.capacityExceeded 1) ∧
      (keyOf? (bulletin "8" "3900000000" "239.0.0.8/64")).isSome := by
  obtain ⟨e, e', hes, hnews, hnews'⟩ := exists_bulletins
  obtain ⟨he, hrest⟩ := List.cons.inj hes
  obtain ⟨he', -⟩ := List.cons.inj hrest
  have hfirst : [bulletin "7" "0" "239.0.0.7/64"].map (extractText · .linear) = [e].map .ok :=
    congrArg (· :: []) he
  obtain ⟨-, happ⟩ := takeIn_of_fits (indexed_emptyLike cramped) (packed_emptyLike cramped) 0 hfirst
    (fits_singleton hnews.claimable) (Nat.le_refl 1) (by show 1 ≤ UInt32.size; decide)
  rw [takeIn_fst] at happ
  have hdrawn : extractText (bulletin "8" "3900000000" "239.0.0.8/64")
      (cramped.emptyLike.offerAll [bulletin "7" "0" "239.0.0.7/64"]).channelType = .ok e' := by
    rw [happ.channelType]
    exact he'
  have hnew : ∀ d ∈ (cramped.emptyLike.offerAll [bulletin "7" "0" "239.0.0.7/64"]).records,
      d.key ≠ e'.channel.key := by
    intro d hd
    rw [happ.records] at hd
    rw [List.mem_singleton.1 hd, hnews.1, hnews'.1]
    decide
  have hfull := happ.indexed.addText_of_full hdrawn hnew (by
    rw [happ.size (indexed_emptyLike cramped).toSeated, happ.maxChannels]
    exact Nat.le_refl 1)
  rw [happ.maxChannels] at hfull
  exact ⟨⟨_, rfl, hfull⟩, Option.isSome_of_eq_some (keyOf?_of_extractText he')⟩

/-- What is reported where there is room for one of the two bulletins. -/
theorem exists_unnamed :
    ∃ report c', fresh.stage cramped (Document.boundary.intercalate bulletins) = (.ok report, c') ∧
      ⟨1, .capacityExceeded 1⟩ ∈ report.failures := by
  have hok := stage_fresh cramped (Document.boundary.intercalate bulletins)
  refine ⟨_, _, hok, ?_⟩
  rw [failures_of_stage hok, sessions_bulletins, mem_failures_iff]
  exact failsAt_bulletins.1

/-- The second bulletin has a key, and its failure does not name it. -/
theorem stage_names_keys_iff_bulletins :
    ∃ report c', fresh.stage cramped (Document.boundary.intercalate bulletins) = (.ok report, c') ∧
      ∃ f ∈ report.failures, f.index = 1 ∧ f.reason = .capacityExceeded 1 ∧ f.key? = none ∧
        (keyOf? (bulletin "8" "3900000000" "239.0.0.8/64")).isSome ∧
        f.key? ≠ keyOf? (bulletin "8" "3900000000" "239.0.0.8/64") := by
  obtain ⟨report, c', hok, hf⟩ := exists_unnamed
  obtain ⟨text, hget, hiff, hfull⟩ := stage_names_keys_iff hok _ hf
  rw [sessions_bulletins] at hget
  obtain rfl := Option.some.inj hget
  obtain ⟨-, hnone, hsome⟩ := hfull 1 rfl
  exact ⟨report, c', hok, _, hf, rfl, rfl, hnone, hsome, fun hkey => hiff.1 hkey 1 rfl⟩

/-- So not every failure names the key of its session. -/
theorem not_stage_names_keys :
    ¬∀ (live : Registry) (document : String) (report : UpdateReport) (c' : Coordinator),
      fresh.stage live document = (.ok report, c') →
      ∀ f ∈ report.failures, ∃ text, (Document.sessions document)[f.index]? = some text ∧
        f.key? = keyOf? text := by
  intro hall
  obtain ⟨report, c', hok, hf⟩ := exists_unnamed
  obtain ⟨text, hget, hkey⟩ := hall _ _ _ _ hok _ hf
  rw [sessions_bulletins] at hget
  obtain rfl := Option.some.inj hget
  have hsome := failsAt_bulletins.2
  rw [← hkey] at hsome
  cases hsome

end Coordinator

end Lineup
