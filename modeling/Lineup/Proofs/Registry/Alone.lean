/-
  Lineup.Proofs.Registry.Alone
  ────────────────────────────
  **A CHANNEL NEVER STANDS IN ITS OWN WAY.**  The last stage of extraction compares
  the streams of a channel kind by kind; a registry claims two lists of pairs, one
  that joins the primary stream with error correction, one that joins the feedback
  target, which is the address of the stream for repair under the control port of
  the primary stream, with that stream.  Each two pairs of a list are kept apart by
  a check of that stage, or by two of them together.

  So no pair stands twice in a list, and a registry that claims nothing yet can
  refuse a channel only for a port 0: control ports never are 0, data ports can be.

  Main results:
    * `Channel.Lawful.nodup_primaryKeys`, `Channel.Lawful.nodup_feedbackKeys`;
    * `Channel.Lawful.usesPortZero_iff` — where a pair has port 0;
    * `Registry.insert_empty_of_extractChannel` — what an empty registry makes of a
      channel that was drawn from a session.
-/
import Lineup.Proofs.Extraction.Rules
import Lineup.Proofs.Registry.Reached

namespace Lineup

/-! ## §1. The pairs of one stream, and of two. -/

section Endpoint

variable {a b e : Endpoint}

theorem Endpoint.nodup_keys (h : e.rtcpPort ≠ some e.rtpPort) : e.keys.Nodup := by
  have hports : e.ports.Nodup := by
    unfold ports
    cases hport : e.rtcpPort with
    | none => exact List.nodup_singleton _
    | some port =>
      have hne : e.rtpPort ≠ port := fun heq => h (by rw [hport, heq])
      simpa using hne
  exact hports.map fun _ _ heq => (Prod.mk.inj heq).2

theorem Endpoint.disjoint_keys (h : a.addr = b.addr → ∀ port ∈ a.ports, port ∉ b.ports) :
    a.keys.Disjoint b.keys := by
  intro x hxa hxb
  obtain ⟨p, hp, rfl⟩ := List.mem_map.1 hxa
  obtain ⟨q, hq, heq⟩ := List.mem_map.1 hxb
  obtain ⟨haddr, rfl⟩ := Prod.mk.inj heq
  exact h haddr.symm q hp hq

end Endpoint

/-! ## §2. The lists of a channel. -/

namespace Channel

variable {c : Channel}

/-- The streams whose pairs are claimed together with the primary one: all that are
distributed but the copy. -/
theorem primaryKeys_eq (c : Channel) :
    c.primaryKeys = (c.distributed.filter (·.1 ≠ .resourced)).flatMap (·.2.keys) := by
  unfold primaryKeys distributed endpoints streamOrder
  cases hcopy : c.resourced with
  | _ => cases hrtx : c.rtx with
    | _ => cases hfec1 : c.fec1 with
      | _ => cases hfec2 : c.fec2 with
        | _ => simp [endpoint?, hcopy, hrtx, hfec1, hfec2]

/-- **No pair of the primary stream and of error correction stands twice.** -/
theorem Lawful.nodup_primaryKeys (h : c.Lawful) : c.primaryKeys.Nodup := by
  rw [primaryKeys_eq, List.nodup_flatMap]
  refine ⟨fun x hx => ?_, ?_⟩
  · -- the two ports of one stream
    have hmem : x ∈ c.endpoints := (List.mem_filter.1 (List.mem_filter.1 hx).1).1
    exact Endpoint.nodup_keys fun hport => ((h.streams x hmem).control _ hport).2 rfl
  · exact (h.apart.sublist List.filter_sublist).imp Endpoint.disjoint_keys

/-- **No pair of the feedback target and of the stream for repair stands twice.** -/
theorem Lawful.nodup_feedbackKeys (h : c.Lawful) : c.feedbackKeys.Nodup := by
  unfold feedbackKeys
  cases hrtx : c.rtx with
  | none =>
    rw [Option.elim_none, List.append_nil]
    split
    · exact List.nodup_singleton _
    · exact List.nodup_nil
  | some r =>
    have hmem : (StreamKind.retransmission, r.endpoint) ∈ c.endpoints :=
      mem_endpoints.2 (Option.map_eq_some_iff.2 ⟨r, hrtx, rfl⟩)
    have hown : r.endpoint.keys.Nodup :=
      Endpoint.nodup_keys fun hport => ((h.streams _ hmem).control _ hport).2 rfl
    rw [Option.elim_some, List.nodup_append]
    split
    · next fbt port hfbt hport =>
      refine ⟨List.nodup_singleton _, hown, fun x hx y hy heq => ?_⟩
      obtain rfl := List.mem_singleton.1 hx
      -- the target differs from both ports of the stream for repair
      have hdata := (h.feedback fbt r hfbt hrtx).2
      have hcontrol := h.rtxControl r hrtx
      rw [hport] at hdata hcontrol
      obtain ⟨p, hp, rfl⟩ := List.mem_map.1 hy
      obtain rfl : port = p := (Prod.mk.inj heq).2
      rcases List.mem_cons.1 hp with heq | hp
      · exact hdata (congrArg some heq)
      · exact hcontrol (Option.mem_toList.1 hp)
    · exact ⟨List.nodup_nil, hown, by simp⟩

/-! ## §3. Port 0. -/

/-- The data port of a stream that a registry claims is 0: of error correction, of the
stream for repair, or of the primary stream on demand. -/
def UsesPortZero (c : Channel) : Prop :=
  (∃ e, (c.fec1 = some e ∨ c.fec2 = some e) ∧ e.rtpPort = 0) ∨
    (∃ r, c.rtx = some r ∧ r.endpoint.rtpPort = 0) ∨
    c.channelType = .vod ∧ c.primary.endpoint.rtpPort = 0

/-- A pair with port 0 is that of a data port. -/
theorem exists_key_zero_iff {e : Endpoint} (h : ∀ port, e.rtcpPort = some port → port ≠ 0) :
    (∃ k ∈ e.keys, k.2 = 0) ↔ e.rtpPort = 0 := by
  constructor
  · rintro ⟨k, hk, hzero⟩
    obtain ⟨p, hp, rfl⟩ := List.mem_map.1 hk
    rcases List.mem_cons.1 hp with rfl | hp
    · exact hzero
    · exact absurd hzero (h p (Option.mem_toList.1 hp))
  · intro hzero
    exact ⟨(e.addr, e.rtpPort), List.mem_map_of_mem List.mem_cons_self, hzero⟩

theorem mem_primaryKeys {k : Ipv4 × UInt16} : k ∈ c.primaryKeys ↔
    k ∈ c.primary.endpoint.keys ∨ ∃ e, (c.fec1 = some e ∨ c.fec2 = some e) ∧ k ∈ e.keys := by
  unfold primaryKeys
  cases c.fec1 with
  | _ => cases c.fec2 with
    | _ => simp [or_and_right, exists_or]

theorem mem_feedbackKeys {k : Ipv4 × UInt16} : k ∈ c.feedbackKeys ↔
    c.fbtAddr = some k.1 ∧ c.primary.endpoint.rtcpPort = some k.2 ∨
      ∃ r, c.rtx = some r ∧ k ∈ r.endpoint.keys := by
  obtain ⟨a, p⟩ := k
  unfold feedbackKeys
  cases c.fbtAddr with
  | _ => cases c.primary.endpoint.rtcpPort with
    | _ => cases c.rtx with
      | _ => simp [eq_comm]

/-- **A channel claims a pair with port 0 exactly if one of these data ports is 0.** -/
theorem Lawful.usesPortZero_iff (h : c.Lawful) :
    c.UsesPortZero ↔ ∃ k ∈ c.primaryKeys ++ c.feedbackKeys, k.2 = 0 := by
  have hcontrol : ∀ kind e, c.endpoint? kind = some e → ∀ port, e.rtcpPort = some port → port ≠ 0 :=
    fun kind e he port hport => ((h.streams (kind, e) (mem_endpoints.2 he)).control port hport).1
  have hprimary := exists_key_zero_iff (hcontrol .primary _ rfl)
  have hfec : ∀ e, (c.fec1 = some e ∨ c.fec2 = some e) → ((∃ k ∈ e.keys, k.2 = 0) ↔ e.rtpPort = 0) :=
    fun e he => exists_key_zero_iff (he.elim (hcontrol .fec1 e) (hcontrol .fec2 e))
  have hrtx : ∀ r, c.rtx = some r → ((∃ k ∈ r.endpoint.keys, k.2 = 0) ↔ r.endpoint.rtpPort = 0) :=
    fun r hr => exists_key_zero_iff
      (hcontrol .retransmission r.endpoint (Option.map_eq_some_iff.2 ⟨r, hr, rfl⟩))
  simp only [List.mem_append, mem_primaryKeys, mem_feedbackKeys]
  constructor
  · rintro (⟨e, he, hzero⟩ | ⟨r, hr, hzero⟩ | ⟨-, hzero⟩)
    · obtain ⟨k, hk, hport⟩ := (hfec e he).2 hzero
      exact ⟨k, Or.inl (Or.inr ⟨e, he, hk⟩), hport⟩
    · obtain ⟨k, hk, hport⟩ := (hrtx r hr).2 hzero
      exact ⟨k, Or.inr (Or.inr ⟨r, hr, hk⟩), hport⟩
    · obtain ⟨k, hk, hport⟩ := hprimary.2 hzero
      exact ⟨k, Or.inl (Or.inl hk), hport⟩
  · rintro ⟨k, (hk | ⟨e, he, hk⟩) | ⟨-, hk⟩ | ⟨r, hr, hk⟩, hport⟩
    · -- the primary stream of a broadcast has a data port
      have hzero := hprimary.1 ⟨k, hk, hport⟩
      refine Or.inr (Or.inr ⟨?_, hzero⟩)
      cases htype : c.channelType with
      | linear => exact absurd hzero (h.linear htype).2
      | vod => rfl
    · exact Or.inl ⟨e, he, (hfec e he).1 ⟨k, hk, hport⟩⟩
    · exact absurd hport (hcontrol .primary _ rfl k.2 hk)
    · exact Or.inr (Or.inl ⟨r, hr, (hrtx r hr).1 ⟨k, hk, hport⟩⟩)

end Channel

/-! ## §4. A registry that claims nothing. -/

/-- A list whose pairs are free is refused for a port 0 only. -/
theorem AddressMap.insertAll_of_free {m m' : AddressMap} {keys : List (Ipv4 × UInt16)} {h : Handle}
    {e : MapError} (hfree : ∀ a p, m.lookup a p = none) (hnodup : keys.Nodup)
    (he : m.insertAll keys h = (.error e, m')) : ∃ k ∈ keys, k.2 = 0 ∧ e = .zeroPort k.1 := by
  obtain ⟨before, key, behind, rfl, -, -, hcause⟩ := insertFrom_eq_error he
  rcases hcause with ⟨hzero, rfl⟩ | ⟨-, hclaimed, -⟩
  · exact ⟨key, by simp, hzero, rfl⟩
  · -- no pair is claimed, and none stands before itself
    rcases hclaimed with hmem | hlook
    · exact absurd rfl ((List.nodup_append.1 hnodup).2.2 key hmem key List.mem_cons_self)
    · exact absurd (hfree key.1 key.2) hlook

namespace Registry

/-- **What a registry without keys and claims makes of a channel with room for it** and with
no pair twice: it is taken in, or refused for a port 0. -/
theorem insert_of_free {r : Registry} {c : Channel} (hkey : r.findByKey c.key = none)
    (hlt : r.size < r.maxChannels) (hprimary : ∀ a p, r.lookupPrimary a p = none)
    (hfeedback : ∀ a p, r.lookupFeedback a p = none) (hpn : c.primaryKeys.Nodup)
    (hfn : c.feedbackKeys.Nodup) :
    (∃ h, (r.insert c).1 = .ok h) ∧ (¬∃ k ∈ c.primaryKeys ++ c.feedbackKeys, k.2 = 0) ∨
      (∃ addr, (r.insert c).1 = .error (.mapConflict c.key (.zeroPort addr))) ∧
        ∃ k ∈ c.primaryKeys ++ c.feedbackKeys, k.2 = 0 := by
  simp only [List.mem_append]
  rw [insert_of_room hkey hlt]
  rcases hp : r.primaryMap.insertAll c.primaryKeys (r.nextHandle c) with ⟨e | _, p⟩
  · obtain ⟨k, hk, hzero, rfl⟩ := AddressMap.insertAll_of_free hprimary hpn hp
    exact Or.inr ⟨⟨k.1, rfl⟩, k, Or.inl hk, hzero⟩
  rcases hf : r.feedbackMap.insertAll c.feedbackKeys (r.nextHandle c) with ⟨e | _, f⟩
  · obtain ⟨k, hk, hzero, rfl⟩ := AddressMap.insertAll_of_free hfeedback hfn hf
    exact Or.inr ⟨⟨k.1, rfl⟩, k, Or.inr hk, hzero⟩
  refine Or.inl ⟨⟨_, rfl⟩, ?_⟩
  -- both lists were claimed, so no port in them is 0
  have hp' := (AddressMap.insertAll_succeeds_iff _ _).1 (congrArg Prod.fst hp)
  have hf' := (AddressMap.insertAll_succeeds_iff _ _).1 (congrArg Prod.fst hf)
  rintro ⟨k, hk | hk, hzero⟩
  · exact (hp'.2 k hk).1 hzero
  · exact (hf'.2 k hk).1 hzero

/-- **A CHANNEL THAT WAS DRAWN NEVER COLLIDES WITH ITSELF**: no pair stands twice in either of
its lists, so an empty registry, whatever the number of its chains, takes the channel in,
unless a stream for error correction, the stream for repair or a primary stream on demand
has data port 0. Then it is refused for that. -/
theorem insert_empty_of_extractChannel {v : SessionView} {channelType : ChannelType}
    {e : Extraction} (he : extractChannel v channelType = .ok e) {config : RegistryConfig}
    (hmax : 1 ≤ config.maxChannels) :
    e.channel.primaryKeys.Nodup ∧ e.channel.feedbackKeys.Nodup ∧
      ((∃ h, ((empty config).insert e.channel).1 = .ok h) ∧ ¬e.channel.UsesPortZero ∨
        (∃ addr, ((empty config).insert e.channel).1
          = .error (.mapConflict e.channel.key (.zeroPort addr))) ∧ e.channel.UsesPortZero) := by
  obtain ⟨_, _, hchecked⟩ := checked_of_extractChannel he
  have hlawful := hchecked.lawful
  refine ⟨hlawful.nodup_primaryKeys, hlawful.nodup_feedbackKeys, ?_⟩
  rw [hlawful.usesPortZero_iff]
  exact insert_of_free rfl hmax (AddressMap.lookup_empty _) (AddressMap.lookup_empty _)
    hlawful.nodup_primaryKeys hlawful.nodup_feedbackKeys

/-- A broadcast with error correction on data port 0, to the group of the primary stream. -/
def portZeroText : String :=
  .ofList <| Document.unlines <| ["v=0", "o=- 1 1 IN IP4 10.0.0.1", "s=News", "t=0 0",
    "a=group:FEC 1 2", "m=video 5000 RTP/AVP 96", "c=IN IP4 239.0.0.1/64", "b=AS:4000",
    "a=sendonly", "a=rtpmap:96 MP2T/90000", "a=mid:1", "m=video 0 RTP/AVP 99",
    "c=IN IP4 239.0.0.1/64", "a=rtpmap:99 parityfec/90000", "a=rtcp:5011",
    "a=mid:2"].map String.toList

/-- It is drawn, and refused by a registry with room for one channel and with a single chain. -/
theorem insert_empty_of_extractChannel_portZero :
    ∃ s e, Session.ofText portZeroText = .ok s ∧ extractChannel s.view .linear = .ok e ∧
      e.channel.UsesPortZero ∧ e.channel.primaryKeys.Nodup ∧ e.channel.feedbackKeys.Nodup ∧
      ∃ addr, ((empty ⟨.linear, 1, 0⟩).insert e.channel).1
        = .error (.mapConflict e.channel.key (.zeroPort addr)) := by
  obtain ⟨e, he, hzero⟩ := exists_ok_of_any (x := extractText portZeroText .linear)
    (p := fun e => (e.channel.fec1.map (·.rtpPort)) = some 0) (by
      rw [portZeroText, extractText_ofList]
      decide +kernel)
  obtain ⟨s, hs, hdrawn⟩ := extractText_eq_ok_iff.1 he
  obtain ⟨d, hd, hport⟩ := Option.map_eq_some_iff.1 hzero
  have huses : e.channel.UsesPortZero := Or.inl ⟨d, Or.inl hd, hport⟩
  obtain ⟨hpn, hfn, hcases⟩ :=
    @insert_empty_of_extractChannel _ _ _ hdrawn ⟨.linear, 1, 0⟩ (Nat.le_refl 1)
  rcases hcases with ⟨-, hno⟩ | ⟨hrefused, -⟩
  · exact absurd huses hno
  · exact ⟨s, e, hs, hdrawn, huses, hpn, hfn, hrefused⟩

end Registry

end Lineup
