/-
  Lineup.Proofs.Registry.Reached
  ──────────────────────────────
  **EVERY REGISTRY THAT CAN BE REACHED IS INDEXED.**  `Step` lists what can be
  done to a registry, whether it succeeds or not, and `Reached` the registries
  that any sequence of steps leads to from an empty one.

  What becomes of a session or a text that is taken in is said once, in `add_outcome` and
  `addText_outcome`.

  Main results:
    * `Step.indexed` — one step keeps the invariant;
    * `Reached.agreesWithScan` — so the indices of every registry that can be
      reached agree with a plain scan of its channels.
-/
import Lineup.Proofs.Registry.Indexed

namespace Lineup.Registry

/-! ## §1. What a registry was set up with stays. -/

section Config

variable {r : Registry}

theorem config_grownBy {c : Channel} {p f : AddressMap}
    (hp : p.bucketCount = r.primaryMap.bucketCount) : (r.grownBy c p f).config = r.config := by
  show (⟨r.channelType, r.maxChannels, p.bucketCount⟩ : RegistryConfig) = _
  rw [hp]
  rfl

theorem config_withdraw (h : Handle) : (r.withdraw h).config = r.config := by
  unfold withdraw
  split <;> rfl

theorem config_insert (r : Registry) (c : Channel) : (r.insert c).2.config = r.config := by
  rcases r.insert_outcome c with ⟨-, e, he⟩ | ⟨-, -, e, he⟩ | ⟨-, p, f, hp, -, hok⟩
  · rw [he]
  · rw [he, config_withdraw]
    rfl
  · rw [hok]
    refine config_grownBy ?_
    rcases r.primaryMap.insertAll_outcome c.primaryKeys (r.nextHandle c) with
      ⟨e, he⟩ | ⟨p', hp', -, hcount⟩
    · rw [he] at hp
      cases hp
    · rw [hp'] at hp
      cases hp
      exact hcount

/-- A channel that is given as a record is not counted. -/
theorem counters_insert (r : Registry) (c : Channel) : (r.insert c).2.counters = r.counters := by
  rcases r.insert_outcome c with ⟨-, e, he⟩ | ⟨-, -, e, he⟩ | ⟨-, p, f, -, -, hok⟩
  · rw [he]
  · rw [he]
    unfold withdraw
    split <;> rfl
  · rw [hok]
    rfl

theorem config_unindex (c : Channel) : (r.unindex c).config = r.config := by
  simp [unindex, config]

theorem config_delete {h : Handle} {c : Channel} {r' : Registry}
    (hd : r.delete h = .ok (c, r')) : r'.config = r.config := by
  obtain ⟨r₁, hdet, rfl⟩ := delete_eq_ok_iff.1 hd
  obtain ⟨a, -, rfl⟩ := detach_eq_ok_iff.1 hdet
  rw [config_unindex]
  rfl

theorem hasRoom_of_config {config : RegistryConfig} (hmax : config.maxChannels ≤ UInt32.size)
    (hc : r.config = (empty config).config) : r.HasRoom :=
  hasRoom_of_le (by rw [show r.maxChannels = config.maxChannels from
    congrArg RegistryConfig.maxChannels hc]; exact hmax)

end Config

/-! ## §2. Taking sessions in. -/

/-- A registry that has counted a session as a channel. -/
def counted (r : Registry) : Registry :=
  ((r.count .offered).count .wasParsed).count .wasValidated

/-- **What becomes of a session**: it is no channel, or its channel is taken in, or its channel is
refused. -/
theorem add_outcome (r : Registry) (v : SessionView) :
    (∃ x, extractChannel v r.channelType = .error x ∧
      r.add v = (.error (.extract x), r.count fun k => k.offered.wasParsed.wasInvalid)) ∨
    (∃ e h r', extractChannel v r.channelType = .ok e ∧
      r.counted.insert e.channel = (.ok h, r') ∧ r.add v = (.ok h, r')) ∨
    ∃ e x r', extractChannel v r.channelType = .ok e ∧
      r.counted.insert e.channel = (.error x, r') ∧ r.add v = (.error x, r'.count .wasRefused) := by
  unfold add addCounted
  rw [show ((r.count .offered).count .wasParsed).channelType = r.channelType from rfl]
  cases extractChannel v r.channelType with
  | error x => exact Or.inl ⟨x, rfl, rfl⟩
  | ok e =>
    right
    dsimp only
    rw [show ((r.count .offered).count .wasParsed).count .wasValidated = r.counted from rfl]
    rcases hins : r.counted.insert e.channel with ⟨x | h, r'⟩
    · exact Or.inr ⟨e, x, r', rfl, hins, rfl⟩
    · exact Or.inl ⟨e, h, r', rfl, hins, rfl⟩

/-- **What becomes of a text**: it cannot be read, or it is taken in as a session. -/
theorem addText_outcome (r : Registry) (text : String) :
    (∃ x, Session.ofText text = .error x ∧ r.addText text
      = (.error (.extract (.syntaxError x)), r.count fun k => k.offered.wasMalformed)) ∨
    ∃ s, Session.ofText text = .ok s ∧ r.addText text = r.add s.view := by
  unfold addText
  cases Session.ofText text with
  | error x => exact Or.inl ⟨x, rfl, rfl⟩
  | ok s => exact Or.inr ⟨s, rfl, rfl⟩

/-! ## §3. Steps. -/

/-- A registry without a channel, if the handle stands for one. -/
def deleteIfThere (r : Registry) (h : Handle) : Registry :=
  match r.delete h with
  | .ok (_, r') => r'
  | .error _ => r

/-- What can be done to a registry, and what comes of it. A call that fails is
a step as well. -/
inductive Step (r : Registry) : Registry → Prop where
  | addText (text : String) : Step r (r.addText text).2
  | add (v : SessionView) : Step r (r.add v).2
  | insert (c : Channel) : Step r (r.insert c).2
  | delete (h : Handle) : Step r (r.deleteIfThere h)
  | destroyAll : Step r r.destroyAll

theorem add_preserves {P : Registry → Prop} (hcount : ∀ r f, P r → P (count r f))
    (hinsert : ∀ r c, P r → P (insert r c).2) {r : Registry} (hr : P r) (v : SessionView) :
    P (r.add v).2 := by
  have hcounted : P r.counted := hcount _ _ (hcount _ _ (hcount _ _ hr))
  rcases r.add_outcome v with ⟨x, -, hadd⟩ | ⟨e, h, r', -, hins, hadd⟩ | ⟨e, x, r', -, hins, hadd⟩
  · rw [hadd]
    exact hcount r (fun k => k.offered.wasParsed.wasInvalid) hr
  · have hgrown := hinsert _ e.channel hcounted
    rw [hins] at hgrown
    rw [hadd]
    exact hgrown
  · have hrefused := hinsert _ e.channel hcounted
    rw [hins] at hrefused
    rw [hadd]
    exact hcount r' .wasRefused hrefused

theorem addText_preserves {P : Registry → Prop} (hcount : ∀ r f, P r → P (count r f))
    (hinsert : ∀ r c, P r → P (insert r c).2) {r : Registry} (hr : P r) (text : String) :
    P (r.addText text).2 := by
  rcases r.addText_outcome text with ⟨x, -, hadd⟩ | ⟨s, -, hadd⟩
  · rw [hadd]
    exact hcount r (fun k => k.offered.wasMalformed) hr
  · rw [hadd]
    exact add_preserves hcount hinsert hr s.view

/-- What survives a change of the counters, one channel taken in or given up, and
the end of all channels, survives every step. -/
theorem Step.preserves {P : Registry → Prop} (hcount : ∀ r f, P r → P (count r f))
    (hinsert : ∀ r c, P r → P (Registry.insert r c).2)
    (hdelete : ∀ r h c r', P r → Registry.delete r h = .ok (c, r') → P r')
    (hdestroy : ∀ r, P r → P (Registry.destroyAll r)) {r r' : Registry} (hs : Step r r') (hr : P r) :
    P r' := by
  cases hs with
  | addText text => exact addText_preserves hcount hinsert hr text
  | add v => exact add_preserves hcount hinsert hr v
  | insert c => exact hinsert r c hr
  | delete h =>
    unfold deleteIfThere
    split
    · next c r' hd => exact hdelete r h c r' hr hd
    · exact hr
  | destroyAll => exact hdestroy r hr

/-- The registries that steps lead to from an empty one. -/
inductive Reached (config : RegistryConfig) : Registry → Prop where
  | empty : Reached config (.empty config)
  | step {r r' : Registry} : Reached config r → Step r r' → Reached config r'

/-! ## §4. Every run. -/

/-- Where places are numbered with 32 bits, every step keeps the invariant. -/
theorem Step.indexed {config : RegistryConfig} (hmax : config.maxChannels ≤ UInt32.size)
    {r r' : Registry} (hs : Step r r') (hr : r.Indexed ∧ r.config = (empty config).config) :
    r'.Indexed ∧ r'.config = (empty config).config := by
  refine hs.preserves (P := fun r => r.Indexed ∧ r.config = _) ?_ ?_ ?_ ?_ hr
  · rintro r f ⟨hr, hc⟩
    exact ⟨hr.count f, hc⟩
  · rintro r c ⟨hr, hc⟩
    exact ⟨hr.insert (hasRoom_of_config hmax hc) c, (config_insert _ c).trans hc⟩
  · rintro r h c r' ⟨hr, hc⟩ hd
    exact ⟨hr.delete hd, (config_delete hd).trans hc⟩
  · rintro r ⟨hr, hc⟩
    exact ⟨hr.destroyAll, (config_destroyAll _).trans hc⟩

/-- Every run keeps the invariant. -/
theorem Reached.indexed {config : RegistryConfig} (hmax : config.maxChannels ≤ UInt32.size)
    {r : Registry} (hr : Reached config r) : r.Indexed ∧ r.config = (Registry.empty config).config := by
  induction hr with
  | empty => exact ⟨indexed_empty config, rfl⟩
  | step _ hs ih => exact hs.indexed hmax ih

/-! ## §5. Agreement with a scan. -/

/-- What a registry answers is what a scan of its channels gives: `channels`
lists every handle that stands for a channel once, and an index leads to a
handle exactly if the channel listed with it has the key or claims the pair. -/
structure AgreesWithScan (r : Registry) : Prop where
  nodup : r.handles.Nodup
  resident : ∀ h, h ∈ r.handles ↔ (r.arena.resolve h).isSome
  scan : r.channels.map (·.1) = r.handles
  size : r.size = r.handles.length
  findByKey : ∀ k h, r.findByKey k = some h ↔ ∃ c, (h, c) ∈ r.channels ∧ c.key = k
  lookupPrimary : ∀ a p h,
    r.lookupPrimary a p = some h ↔ ∃ c, (h, c) ∈ r.channels ∧ (a, p) ∈ c.primaryKeys
  lookupFeedback : ∀ a p h,
    r.lookupFeedback a p = some h ↔ ∃ c, (h, c) ∈ r.channels ∧ (a, p) ∈ c.feedbackKeys

/-- No two channels of a registry share a key or a pair. -/
def KeepsApart (r : Registry) : Prop :=
  ∀ h c k d, (h, c) ∈ r.channels → (k, d) ∈ r.channels → h ≠ k →
    c.key ≠ d.key ∧ c.primaryKeys.Disjoint d.primaryKeys ∧ c.feedbackKeys.Disjoint d.feedbackKeys

theorem Indexed.agrees {r : Registry} (hr : r.Indexed) : r.AgreesWithScan where
  nodup := hr.nodup
  resident := hr.resident
  scan := hr.map_channels
  size := hr.size_eq
  findByKey := by
    intro k h
    simp only [hr.mem_channels]
    exact hr.byKey k h
  lookupPrimary := by
    intro a p h
    simp only [hr.mem_channels]
    exact hr.primary.lookup_iff a p h
  lookupFeedback := by
    intro a p h
    simp only [hr.mem_channels]
    exact hr.feedback.lookup_iff a p h

theorem Indexed.keepsApart {r : Registry} (hr : r.Indexed) : r.KeepsApart := by
  intro h c k d hc hd hne
  rw [hr.mem_channels] at hc hd
  -- a shared key or pair would lead to both handles
  refine ⟨fun hkey => hne (hr.eq_of_key hc hd hkey), fun x hx hx' => ?_, fun x hx hx' => ?_⟩
  · exact hne (hr.primary.eq_of_mem hc hd hx hx')
  · exact hne (hr.feedback.eq_of_mem hc hd hx hx')

/-- **THE INDICES OF EVERY REGISTRY AGREE WITH A SCAN OF ITS CHANNELS**, after
any sequence of steps from an empty registry; there are never more channels than
allowed, and no two of them share a key or a pair. -/
theorem Reached.agreesWithScan {config : RegistryConfig}
    (hmax : config.maxChannels < UInt32.size) {r : Registry} (hr : Reached config r) :
    r.AgreesWithScan ∧ r.size ≤ config.maxChannels ∧ r.KeepsApart := by
  obtain ⟨hi, hc⟩ := hr.indexed (Nat.le_of_lt hmax)
  have hm : r.maxChannels = config.maxChannels := congrArg RegistryConfig.maxChannels hc
  exact ⟨hi.agrees, hm ▸ hi.size_le, hi.keepsApart⟩

/-- One stream of bare datagrams. -/
def datagramChannel : Channel where
  key := ⟨"-", "1", ⟨10, 0, 0, 1⟩⟩
  name := "News"
  version := 1
  checksum := ""
  channelType := .linear
  role := .unspecified
  mode := .unspecified
  feedbackMode := .unspecified
  erEnable := false
  fccEnable := false
  primary := {
    endpoint := {
      addr := ⟨239, 0, 0, 1⟩
      ttl := some 64
      srcFilter := none
      transport := .udp
      rtpPort := 5000
      rtcpPort := none
      payloadType := 33
      rtcpBw := .empty
      direction := .unset
      mid := none }
    bitRate := none
    xr := .empty }
  resourced := none
  fbtAddr := none
  rtx := none
  fecMode := none
  fec1 := none
  fec2 := none
  stopTime := 0
  active := true
  complete := true
  used := false

/-- A stream with feedback to a target. -/
def reportingTo (target : Ipv4) (id : String) (addr : Ipv4) : Channel :=
  { datagramChannel with
    key := ⟨"-", id, ⟨10, 0, 0, 1⟩⟩
    fbtAddr := some target
    primary := { datagramChannel.primary with
      endpoint := { datagramChannel.primary.endpoint with addr := addr, rtcpPort := some 5001 } } }

/-- A stream with feedback to one target. -/
def feedbackChannel : String → Ipv4 → Channel := reportingTo ⟨10, 0, 0, 5⟩

/-- Two channels with a feedback target each. -/
def settled : Registry :=
  ((empty .standard).insert (feedbackChannel "1" ⟨239, 0, 0, 1⟩)).2.insert
    (reportingTo ⟨10, 0, 0, 6⟩ "2" ⟨239, 0, 0, 2⟩) |>.2

/-- The first one was given up again, a third one took its slot and its target, and a fourth one
was refused for the target of the second. -/
def resettled : Registry :=
  ((settled.deleteIfThere ⟨0, 0⟩).insert (feedbackChannel "3" ⟨239, 0, 0, 3⟩)).2.insert
    (reportingTo ⟨10, 0, 0, 6⟩ "4" ⟨239, 0, 0, 4⟩) |>.2

/-- The third and the second channel are found by their keys, pairs and targets, the first and
the fourth by nothing. -/
theorem Reached.agreesWithScan_resettled :
    Reached .standard resettled ∧ resettled.size = 2 ∧
      resettled.handles = [⟨0, 1⟩, ⟨1, 0⟩] ∧
      resettled.channels.map (·.2.feedbackKeys) = [[(⟨10, 0, 0, 5⟩, 5001)], [(⟨10, 0, 0, 6⟩, 5001)]] ∧
      (["1", "2", "3", "4"].map fun id => resettled.findByKey ⟨"-", id, ⟨10, 0, 0, 1⟩⟩)
        = [none, some ⟨1, 0⟩, some ⟨0, 1⟩, none] ∧
      (([1, 2, 3, 4] : List UInt8).map fun n => resettled.lookupPrimary ⟨239, 0, 0, n⟩ 5000)
        = [none, some ⟨1, 0⟩, some ⟨0, 1⟩, none] ∧
      (([5, 6] : List UInt8).map fun n => resettled.lookupFeedback ⟨10, 0, 0, n⟩ 5001)
        = [some ⟨0, 1⟩, some ⟨1, 0⟩] ∧
      resettled.AgreesWithScan ∧ resettled.size ≤ RegistryConfig.standard.maxChannels ∧
      resettled.KeepsApart := by
  have hsettled : Reached .standard settled := .step (.step .empty (.insert _)) (.insert _)
  have hreached : Reached .standard resettled :=
    .step (.step (.step hsettled (.delete _)) (.insert _)) (.insert _)
  refine ⟨hreached, ?_, ?_, ?_, ?_, ?_, ?_, hreached.agreesWithScan (by decide)⟩
  all_goals decide +kernel

end Lineup.Registry
