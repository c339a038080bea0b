/-
  Lineup.Proofs.Extraction.Stages
  ───────────────────────────────
  **A CHANNEL PASSES EVERY STAGE.**  What it takes for a session to give a
  channel, as a list of conditions: one for each stage, in the order of the
  stages (`Drawn`).  Proofs about extraction start from this list and do not
  open the stages again.
-/
import Lineup.Extraction.Channel

namespace Lineup

/-! ## §1. A check in front of others. -/

namespace Check

variable {f : α → Check β} {b : β} {notes : List Warning}

theorem liftM_bind_eq_passed_iff {x : Except ValidationError α} :
    ((liftM x : Check α) >>= f) = passed b notes ↔ ∃ a, x = .ok a ∧ f a = passed b notes := by
  show (ofExcept x >>= f) = _ ↔ _
  cases x with
  | error e => simp [ofExcept, bind_refused]
  | ok a =>
    show ((pure a : Check α) >>= f) = _ ↔ _
    simp

theorem need_bind_eq_passed_iff {e : ValidationError} {x : Option α} :
    (need e x >>= f) = passed b notes ↔ ∃ a, x = some a ∧ f a = passed b notes := by
  cases x with
  | none => simp [need, bind_refused]
  | some a =>
    show ((pure a : Check α) >>= f) = _ ↔ _
    simp

theorem require_bind_eq_passed_iff {p : Bool} {e : ValidationError} {g : Unit → Check β} :
    (require p e >>= g) = passed b notes ↔ p = true ∧ g () = passed b notes := by
  cases p with
  | false => simp [require, bind_refused]
  | true =>
    show ((pure () : Check Unit) >>= g) = _ ↔ _
    simp

theorem pure_eq_passed_iff {a b : α} :
    (pure a : Check α) = passed b notes ↔ b = a ∧ notes = [] := by
  rw [pure_eq, passed.injEq]
  exact and_congr eq_comm eq_comm

end Check

/-! ## §2. All stages. -/

theorem resolveRole_eq_ok_iff {p : Direction} {r x : Option Direction} {rm : Role × Mode} :
    resolveRole p r x = .ok rm ↔
      Activity.roleMode? (.ofDirection p) (.ofStream? r) (.ofStream? x) = some rm := by
  unfold resolveRole
  dsimp only
  cases Activity.roleMode? (.ofDirection p) (.ofStream? r) (.ofStream? x) with
  | none => simp
  | some rm' => simp

/-- The stages of a channel, with what each of them gave. -/
structure Drawn (v : SessionView) (channelType : ChannelType) (identity : SessionIdentity)
    (feedbackMode : FeedbackMode) (streams : Streams) (roleMode : Role × Mode)
    (notes : List Warning) : Prop where
  start : v.timing.start = 0
  count : checkMediaCount channelType v.mediaCount = .ok ()
  parts : ∃ u w parts, FeedbackMode.read v = .passed feedbackMode u
    ∧ Parts.ofView v channelType = .ok parts ∧ parts.streams = .passed streams w
    ∧ notes = u ++ w
  role : resolveRole streams.primary.stream.endpoint.direction
    (streams.resourced.map (·.direction)) (streams.rtx.map (·.endpoint.direction)) = .ok roleMode
  apt : streams.checkApt roleMode.2 = .ok ()
  groups : (streams.channel v channelType identity feedbackMode roleMode).checkGroups
    (Group.ofAttributes v.attributes) = .ok ()
  consistency : (streams.channel v channelType identity feedbackMode roleMode).checkConsistency
    = .ok ()

/-- **A session gives a channel exactly if all stages pass.** -/
theorem SessionView.channel_eq_passed_iff {v : SessionView} {channelType : ChannelType}
    {identity : SessionIdentity} {c : Channel} {notes : List Warning} :
    v.channel channelType identity = .passed c notes ↔
      ∃ feedbackMode streams roleMode,
        Drawn v channelType identity feedbackMode streams roleMode notes ∧
        c = (streams.channel v channelType identity feedbackMode roleMode).sealed := by
  unfold SessionView.channel
  rw [Check.require_bind_eq_passed_iff, beq_iff_eq, Check.bind_eq_passed_iff]
  simp only [Check.liftM_bind_eq_passed_iff]
  constructor
  · rintro ⟨hstart, fm, u, w, hfm, ⟨⟨⟩, hcount, parts, hparts, hrest⟩, rfl⟩
    rw [Check.bind_eq_passed_iff] at hrest
    obtain ⟨s, w₁, w₂, hs, hrest, rfl⟩ := hrest
    simp only [Check.liftM_bind_eq_passed_iff, Check.pure_eq_passed_iff] at hrest
    obtain ⟨rm, hrole, ⟨⟩, hapt, ⟨⟩, hgroups, ⟨⟩, hcons, rfl, rfl⟩ := hrest
    refine ⟨fm, s, rm, ⟨hstart, hcount, ⟨u, w₁, parts, hfm, hparts, hs, ?_⟩, hrole, hapt,
      hgroups, hcons⟩, rfl⟩
    rw [List.append_nil]
  · rintro ⟨fm, s, rm, ⟨hstart, hcount, ⟨u, w, parts, hfm, hparts, hs, rfl⟩, hrole, hapt,
      hgroups, hcons⟩, rfl⟩
    refine ⟨hstart, fm, u, w, hfm, ⟨(), hcount, parts, hparts, ?_⟩, rfl⟩
    rw [Check.bind_eq_passed_iff]
    refine ⟨s, w, [], hs, ?_, (List.append_nil w).symm⟩
    simp only [Check.liftM_bind_eq_passed_iff, Check.pure_eq_passed_iff]
    exact ⟨rm, hrole, (), hapt, (), hgroups, (), hcons, rfl, trivial⟩

/-! ## §3. From text. -/

/-- A channel that some text gives. -/
def Channel.DrawnUnder (channelType : ChannelType) (c : Channel) : Prop :=
  ∃ text e, extractText text channelType = .ok e ∧ e.channel = c

theorem extractChannel_eq_ok_iff {v : SessionView} {channelType : ChannelType} {e : Extraction} :
    extractChannel v channelType = .ok e ↔
      ∃ identity, SessionIdentity.ofOrigin v.origin = .ok identity ∧
        v.channel channelType identity = .passed e.channel e.warnings := by
  obtain ⟨c, w⟩ := e
  unfold extractChannel
  cases SessionIdentity.ofOrigin v.origin with
  | error e => simp
  | ok identity =>
    simp only [Except.ok.injEq, exists_eq_left']
    cases v.channel channelType identity with
    | refused e => simp
    | passed d u => simp

theorem extractText_eq_ok_iff {text : String} {channelType : ChannelType} {e : Extraction} :
    extractText text channelType = .ok e ↔
      ∃ s, Session.ofText text = .ok s ∧ extractChannel s.view channelType = .ok e := by
  unfold extractText
  cases Session.ofText text with
  | error e => simp
  | ok s => simp

/-- Drawing a channel from characters. -/
theorem extractText_ofList (cs : List Char) (channelType : ChannelType) :
    extractText (.ofList cs) channelType =
      ((numberedLines cs).foldlM Draft.read .start >>= fun d => d.finish).mapError .syntaxError
        >>= fun s => extractChannel s.view channelType := by
  unfold extractText Session.ofText
  rw [String.toList_ofList]
  cases (numberedLines cs).foldlM Draft.read .start >>= fun d => d.finish with
  | error e => rfl
  | ok s => rfl

/-- A channel that was just drawn is not marked. -/
theorem used_of_extractText {text : String} {channelType : ChannelType} {e : Extraction}
    (h : extractText text channelType = .ok e) : e.channel.used = false := by
  obtain ⟨s, -, hs⟩ := extractText_eq_ok_iff.1 h
  obtain ⟨identity, -, hc⟩ := extractChannel_eq_ok_iff.1 hs
  obtain ⟨fm, streams, rm, -, heq⟩ := SessionView.channel_eq_passed_iff.1 hc
  rw [heq]
  rfl

/-- A channel is in service if its session has no stop time. -/
theorem active_of_extractText {text : String} {channelType : ChannelType} {e : Extraction}
    (h : extractText text channelType = .ok e) :
    ∃ s, Session.ofText text = .ok s ∧ e.channel.active = (s.timing.stop == 0) := by
  obtain ⟨s, hs, hdrawn⟩ := extractText_eq_ok_iff.1 h
  obtain ⟨identity, -, hc⟩ := extractChannel_eq_ok_iff.1 hdrawn
  obtain ⟨fm, streams, rm, -, heq⟩ := SessionView.channel_eq_passed_iff.1 hc
  refine ⟨s, hs, ?_⟩
  rw [heq]
  rfl

end Lineup
