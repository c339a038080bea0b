/-
  Lineup.Proofs.Extraction.Positions
  ──────────────────────────────────
  **POSITIONS ONLY NAME STREAMS IN COMPLAINTS.**  A media stream knows its position in the
  session, but complaints aside it is read in the same way wherever it stands: its form and
  its encoding depend on the stream itself and the connection of the session, and so does
  what it is read as.  Sorting keeps the streams of each encoding in order and forgets how
  encodings alternate.

  Main results:
    * `SessionView.mediaLine_eq_ok_iff_lineOf?` — the form of a media stream, told from
      the stream alone;
    * `MediaLines.hold_of_ofView`, `MediaLines.exists_ofView` — sorting, list by list;
    * `Parts.streams_unplaced_iff` — parts are read in the same way at other positions.
-/
import Lineup.Proofs.Extraction.Streams

namespace Lineup

open Text

/-! ## §1. Media streams at other positions. -/

/-- A media stream at another position. -/
def MediaLine.at (l : MediaLine) (index : Nat) : MediaLine := { l with index := index }

theorem Media.payloadType_at (m : Media) (i j : Nat) :
    (m.payloadType i).toOption = (m.payloadType j).toOption := by
  unfold payloadType
  match m.formats with
  | [] => rfl
  | _ :: _ :: _ => rfl
  | [format] =>
    dsimp only
    cases uint8? format.toList with
    | none => rfl
    | some pt => simp only [toOption_ite, toOption_ok, toOption_error]

theorem checkPayloadType_at (i j : Nat) (name : String) (pt : UInt8) (found : List Char) :
    (checkPayloadType i name pt found).toOption = (checkPayloadType j name pt found).toOption := by
  unfold checkPayloadType
  simp only [toOption_ite, toOption_ok, toOption_error]

theorem Media.encodingName_at (m : Media) (i j : Nat) (pt : UInt8) :
    (m.encodingName i pt).toOption = (m.encodingName j pt).toOption := by
  unfold encodingName
  cases m.body.attributeValue "rtpmap" with
  | none => simp only [toOption_ite, toOption_ok, toOption_error]
  | some rtpmap =>
    dsimp only
    cases cut (· == ' ') rtpmap.toList with
    | none => rfl
    | some sides =>
      obtain ⟨found, encoding⟩ := sides
      dsimp only
      rw [toOption_bind, toOption_bind, checkPayloadType_at i j]
      refine congrArg _ (funext fun _ => ?_)
      simp only [toOption_ite, toOption_error]

namespace MediaLine

theorem transport_at (l : MediaLine) (i : Nat) : (l.at i).transport = l.transport := rfl

theorem addr_at (l : MediaLine) (i : Nat) : (l.at i).addr = l.addr := rfl

theorem encoding_at (l : MediaLine) (i : Nat) (name : List Char) :
    ((l.at i).encoding name).toOption = (l.encoding name).toOption := by
  unfold encoding
  rw [transport_at, addr_at]
  simp only [toOption_ite, toOption_ok, toOption_error]

theorem requests_at (l : MediaLine) (i : Nat) :
    (Requests.read (l.at i)).toOption = (Requests.read l).toOption := by
  refine toOption_foldlM (fun r value => ?_) _ _
  unfold Requests.add
  dsimp only [MediaLine.at]
  by_cases hstar : (cutWhite value.toList).1 ≠ ['*']
  · rw [if_pos hstar, if_pos hstar, toOption_bind, toOption_bind, checkPayloadType_at]
  · rw [if_neg hstar, if_neg hstar]

/-- The primary stream is read in the same way at any position. -/
theorem primaryStream_at_iff {l : MediaLine} {i : Nat} {p : PrimaryParts} {w : List Warning} :
    (l.at i).primaryStream = .passed p w ↔ l.primaryStream = .passed p w := by
  have hrequests : Requests.read (l.at i) = .ok p.requests ↔ Requests.read l = .ok p.requests := by
    rw [← toOption_eq_some_iff, requests_at, toOption_eq_some_iff]
  rw [primaryStream_eq_passed_iff, primaryStream_eq_passed_iff, hrequests]
  exact Iff.rfl

theorem rtxStream_at {l : MediaLine} {r : RtxStream} {w : List Warning}
    (h : l.rtxStream = .passed r w) (i : Nat) : (l.at i).rtxStream = .passed r w := by
  unfold rtxStream at h ⊢
  obtain ⟨e, u, v, he, h₁, rfl⟩ := Check.bind_eq_passed_iff.1 h
  obtain ⟨fmtp, hfmtp, h₂⟩ := Check.need_bind_eq_passed_iff.1 h₁
  obtain ⟨_, hpt, h₃⟩ := Check.liftM_bind_eq_passed_iff.1 h₂
  rw [← toOption_eq_some_iff, checkPayloadType_at _ i, toOption_eq_some_iff] at hpt
  refine Check.bind_eq_passed_iff.2 ⟨e, u, v, he, ?_, rfl⟩
  refine Check.need_bind_eq_passed_iff.2 ⟨fmtp, hfmtp, ?_⟩
  exact Check.liftM_bind_eq_passed_iff.2 ⟨_, hpt, h₃⟩

/-- The stream for repair is read in the same way at any position. -/
theorem rtxStream_at_iff {l : MediaLine} {i : Nat} {r : RtxStream} {w : List Warning} :
    (l.at i).rtxStream = .passed r w ↔ l.rtxStream = .passed r w :=
  ⟨fun h => rtxStream_at h l.index, fun h => rtxStream_at h i⟩

end MediaLine

/-! ## §2. Form. -/

/-- What a media stream is read as, told from itself and the connection of its session. -/
def SessionView.lineOf? (v : SessionView) (m : Media) : Option (MediaLine × Encoding) :=
  ({ v with mediaCount := 1, media? := fun _ => some m } : SessionView).mediaLine 0 |>.toOption

/-- A media stream is read from itself and the connection of the session, and stands where it
stands. -/
theorem SessionView.toOption_mediaLine {v : SessionView} {i : Nat} {m : Media}
    (h : v.media? i = some m) :
    (v.mediaLine i).toOption = (v.lineOf? m).map fun p => (p.1.at i, p.2) := by
  have hconnection : v.mediaConnection i = (m.body.connection <|> v.connection) := by
    unfold mediaConnection
    rw [h]
    rfl
  unfold lineOf? mediaLine
  rw [h, hconnection]
  dsimp only [mediaConnection, Option.bind_some]
  rw [toOption_bind, toOption_bind, m.payloadType_at i 0, Option.map_bind]
  refine congrArg _ (funext fun pt => ?_)
  cases Transport.ofProtocol? m.protocol with
  | none => rfl
  | some transport =>
    cases (m.body.connection <|> v.connection) with
    | none => rfl
    | some connection =>
      show (connection.ipv4 >>= _).toOption = ((connection.ipv4 >>= _).toOption).map _
      rw [toOption_bind, toOption_bind, Option.map_bind]
      refine congrArg _ (funext fun addr => ?_)
      dsimp only [Function.comp]
      rw [toOption_bind, toOption_bind, m.encodingName_at i 0, Option.map_bind]
      refine congrArg _ (funext fun name => ?_)
      dsimp only [Function.comp]
      rw [toOption_bind, toOption_bind, Option.map_bind]
      have hencoding := MediaLine.encoding_at ⟨0, m, pt, transport, addr, connection.ttl⟩ i name
      exact congrArg (Option.bind · _) hencoding

theorem SessionView.lineOf?_at {v : SessionView} {m : Media} {p : MediaLine × Encoding}
    (h : v.lineOf? m = some p) : p.1.at 0 = p.1 := by
  -- what was read at the front stands at the front
  have hfront : v.lineOf? m = (v.lineOf? m).map fun p => (p.1.at 0, p.2) :=
    toOption_mediaLine (v := { v with mediaCount := 1, media? := fun _ => some m }) (i := 0) rfl
  rw [h] at hfront
  exact (congrArg Prod.fst (Option.some.inj hfront)).symm

theorem SessionView.media_of_lineOf? {v : SessionView} {m : Media} {p : MediaLine × Encoding}
    (h : v.lineOf? m = some p) : p.1.media = m := by
  obtain ⟨_, _, hmedia, -⟩ := mediaLine_eq_ok_iff.1 (toOption_eq_some_iff.1 h)
  exact (Option.some.inj hmedia).symm

/-- A media stream that has the right form where it stands has it anywhere. -/
theorem SessionView.mediaLine_eq_ok_iff_lineOf? {v : SessionView} {i : Nat} {m : Media}
    (h : v.media? i = some m) {l : MediaLine} {enc : Encoding} :
    v.mediaLine i = .ok (l, enc) ↔ l.index = i ∧ v.lineOf? m = some (l.at 0, enc) := by
  rw [← toOption_eq_some_iff, toOption_mediaLine h, Option.map_eq_some_iff]
  constructor
  · intro hex
    obtain ⟨⟨k, enc'⟩, hk, heq⟩ := hex
    obtain ⟨rfl, rfl⟩ := Prod.mk.inj heq
    refine ⟨rfl, ?_⟩
    rw [hk]
    exact congrArg (fun k => some (k, enc')) (lineOf?_at hk).symm
  · intro hl
    obtain ⟨rfl, hk⟩ := hl
    exact ⟨_, hk, rfl⟩

/-! ## §3. Sorting, list by list. -/

/-- The media streams of an encoding in a list, each as if it stood at the front. -/
def SessionView.linesOf (v : SessionView) (encoding : Encoding) (ms : List Media) :
    List MediaLine :=
  ms.filterMap fun m => (v.lineOf? m).bind fun p => if p.2 = encoding then some p.1 else none

theorem SessionView.linesOf_append {v : SessionView} {l : MediaLine} {enc : Encoding} {m : Media}
    (h : v.lineOf? m = some (l, enc)) (encoding : Encoding) (ms : List Media) :
    v.linesOf encoding (ms ++ [m])
      = v.linesOf encoding ms ++ if enc = encoding then [l] else [] := by
  unfold linesOf
  rw [List.filterMap_append]
  refine congrArg _ ?_
  by_cases henc : enc = encoding
  · simp [h, henc]
  · simp [h, henc]

theorem SessionView.mem_linesOf {v : SessionView} {encoding : Encoding} {ms : List Media}
    {m : Media} {l : MediaLine} (hm : m ∈ ms) (h : v.lineOf? m = some (l, encoding)) :
    l ∈ v.linesOf encoding ms := by
  refine List.mem_filterMap.2 ⟨m, hm, ?_⟩
  rw [h]
  simp

namespace MediaLines

/-- Media streams sorted so far: those of a list, up to their positions. -/
structure Hold (v : SessionView) (ms : List Media) (ls : MediaLines) : Prop where
  form : ∀ m ∈ ms, (v.lineOf? m).isSome = true
  mp2t : ls.mp2t.map (·.at 0) = v.linesOf .mp2t ms
  rtx : ls.rtx.toList.map (·.at 0) = v.linesOf .rtx ms
  fec : ls.fec.map (·.at 0) = v.linesOf .fec ms
  two : ls.fec.length ≤ 2

variable {v : SessionView} {ms : List Media} {ls ls' : MediaLines} {l : MediaLine} {enc : Encoding}

theorem Hold.add (h : Hold v ms ls) {m : Media} (hm : v.lineOf? m = some (l.at 0, enc))
    (hadd : ls.add l enc = .ok ls') : Hold v (ms ++ [m]) ls' := by
  have hform : ∀ m' ∈ ms ++ [m], (v.lineOf? m').isSome = true := by
    intro m' hm'
    rcases List.mem_append.1 hm' with hm' | hm'
    · exact h.form m' hm'
    · rw [List.mem_singleton.1 hm', hm]
      rfl
  have hlines := SessionView.linesOf_append hm
  -- one of the lists grows, the others stay
  rcases add_eq_ok_iff.1 hadd with ⟨rfl, rfl⟩ | ⟨rfl, hnone, rfl⟩ | ⟨rfl, hroom, rfl⟩
  · refine ⟨hform, ?_, ?_, ?_, h.two⟩
    · simp [hlines, h.mp2t]
    · simp [hlines, h.rtx]
    · simp [hlines, h.fec]
  · refine ⟨hform, ?_, ?_, ?_, h.two⟩
    · simp [hlines, h.mp2t]
    · simp [hlines, ← h.rtx, hnone]
    · simp [hlines, h.fec]
  · have htwo := h.two
    refine ⟨hform, ?_, ?_, ?_, ?_⟩
    · simp [hlines, h.mp2t]
    · simp [hlines, h.rtx]
    · simp [hlines, h.fec]
    · rw [List.length_append, List.length_singleton]
      omega

/-- There is room for a media stream unless there are too many of its encoding. -/
theorem Hold.exists_add (h : Hold v ms ls) {m : Media} (hm : v.lineOf? m = some (l.at 0, enc))
    (hrtx : (v.linesOf .rtx (ms ++ [m])).length ≤ 1)
    (hfec : (v.linesOf .fec (ms ++ [m])).length ≤ 2) : ∃ ls', ls.add l enc = .ok ls' := by
  rw [SessionView.linesOf_append hm, ← h.rtx, List.length_append] at hrtx
  rw [SessionView.linesOf_append hm, ← h.fec, List.length_append, List.length_map] at hfec
  cases enc with
  | mp2t => exact ⟨_, add_eq_ok_iff.2 (Or.inl ⟨rfl, rfl⟩)⟩
  | rtx =>
    refine ⟨_, add_eq_ok_iff.2 (Or.inr (Or.inl ⟨rfl, ?_, rfl⟩))⟩
    cases hls : ls.rtx with
    | none => rfl
    | some k =>
      rw [hls] at hrtx
      simp at hrtx
  | fec =>
    refine ⟨_, add_eq_ok_iff.2 (Or.inr (Or.inr ⟨rfl, ?_, rfl⟩))⟩
    rw [if_pos rfl, List.length_singleton] at hfec
    omega

/-- **Sorting keeps each encoding in order**, and forgets how they alternate. -/
theorem hold_of_ofView {n : Nat} (hms : ∀ i, v.media? i = ms[i]?)
    (h : ofView { v with mediaCount := n } = .ok ls) : Hold v (ms.take n) ls := by
  -- on the number of media streams; the last one was added last
  induction n generalizing ls with
  | zero =>
    cases h
    exact ⟨by simp, rfl, rfl, rfl, by decide⟩
  | succ n ih =>
    obtain ⟨before, l, enc, hbefore, hl, hadd⟩ := ofView_succ_eq_ok_iff.1 h
    obtain ⟨_, _, hmedia, -⟩ := SessionView.mediaLine_eq_ok_iff.1 hl
    rw [List.take_add_one, ← hms, hmedia]
    exact (ih hbefore).add ((SessionView.mediaLine_eq_ok_iff_lineOf? hmedia).1 hl).2 hadd

/-- Media streams of the right form can be sorted unless there are too many of an encoding. -/
theorem exists_ofView {n : Nat} (hms : ∀ i, v.media? i = ms[i]?) (hn : n ≤ ms.length)
    (hform : ∀ m ∈ ms, (v.lineOf? m).isSome = true) (hrtx : (v.linesOf .rtx ms).length ≤ 1)
    (hfec : (v.linesOf .fec ms).length ≤ 2) :
    ∃ ls, ofView { v with mediaCount := n } = .ok ls := by
  have hpart : ∀ (encoding : Encoding) (k : Nat),
      (v.linesOf encoding (ms.take k)).length ≤ (v.linesOf encoding ms).length := by
    intro encoding k
    exact ((List.take_sublist k ms).filterMap _).length_le
  induction n with
  | zero => exact ⟨_, rfl⟩
  | succ n ih =>
    obtain ⟨before, hbefore⟩ := ih (Nat.le_of_succ_le hn)
    have hmedia : v.media? n = some ms[n] := by
      rw [hms, List.getElem?_eq_getElem hn]
    obtain ⟨⟨k, enc⟩, hk⟩ := Option.isSome_iff_exists.1 (hform ms[n] (List.getElem_mem hn))
    have hline : v.lineOf? ms[n] = some ((k.at n).at 0, enc) := by
      rw [hk]
      exact congrArg (fun l => some (l, enc)) (SessionView.lineOf?_at hk).symm
    have htake : ms.take n ++ [ms[n]] = ms.take (n + 1) := by
      rw [List.take_add_one, List.getElem?_eq_getElem hn]
      rfl
    obtain ⟨ls, hls⟩ := (hold_of_ofView hms hbefore).exists_add hline
      (htake ▸ (hpart .rtx (n + 1)).trans hrtx) (htake ▸ (hpart .fec (n + 1)).trans hfec)
    exact ⟨ls, ofView_succ_eq_ok_iff.2 ⟨before, k.at n, enc, hbefore,
      (SessionView.mediaLine_eq_ok_iff_lineOf? hmedia).2 ⟨rfl, hline⟩, hls⟩⟩

/-! ## §4. Parts. -/

/-- Positions do not tell the primary stream from its copy. -/
theorem splitPrimary_at (ls : List MediaLine) :
    splitPrimary (ls.map (·.at 0))
      = (splitPrimary ls).map fun p => (p.1.at 0, p.2.map (·.at 0)) := by
  have hwith : ∀ (l : MediaLine) (rest : List MediaLine),
      withResourced (l.at 0) (rest.map (·.at 0))
        = (withResourced l rest).map fun p => (p.1.at 0, p.2.map (·.at 0)) := by
    intro l rest
    match rest with
    | [] => rfl
    | [_] => rfl
    | _ :: _ :: _ => rfl
  have hyes : (ls.map (·.at 0)).filter hasBitRate = (ls.filter hasBitRate).map (·.at 0) :=
    List.filter_map
  have hno : (ls.map (·.at 0)).filter (not ∘ hasBitRate)
      = (ls.filter (not ∘ hasBitRate)).map (·.at 0) :=
    List.filter_map
  unfold splitPrimary
  rw [List.partition_eq_filter_filter, List.partition_eq_filter_filter, hyes, hno]
  match ls.filter hasBitRate, ls.filter (not ∘ hasBitRate) with
  | [l], rest => exact hwith l rest
  | _ :: _ :: _, _ => rfl
  | [], l :: rest => exact hwith l rest
  | [], [] => rfl

end MediaLines

/-- Parts without the positions of their media streams. -/
def Parts.unplaced (p : Parts) : Parts :=
  ⟨p.primary.at 0, p.resourced.map (·.at 0), p.rtx.map (·.at 0), p.fec1.map (·.at 0),
    p.fec2.map (·.at 0)⟩

theorem Parts.checkLinear_unplaced (p : Parts) : p.unplaced.checkLinear = p.checkLinear := by
  obtain ⟨primary, resourced, rtx, fec1, fec2⟩ := p
  cases resourced with
  | _ => cases fec1 with
    | _ => cases fec2 with
      | _ => rfl

theorem Check.ofOption_map_iff {α β : Type} {f : α → Check β} {g : α → α} {o : Option α}
    {r : Option β} {w : List Warning}
    (h : ∀ a b u, f (g a) = .passed b u ↔ f a = .passed b u) :
    ofOption f (o.map g) = .passed r w ↔ ofOption f o = .passed r w := by
  rw [ofOption_eq_passed_iff, ofOption_eq_passed_iff]
  cases o with
  | none => simp
  | some a => simp [h]

/-- Parts are read in the same way wherever their media streams stand. -/
theorem Parts.streams_unplaced_iff {p : Parts} {streams : Streams} {w : List Warning} :
    p.unplaced.streams = .passed streams w ↔ p.streams = .passed streams w := by
  have hown : ∀ (kind : StreamKind) (o : Option MediaLine) (r : Option Endpoint)
      (u : List Warning), Check.ofOption (·.ownEndpoint kind) (o.map (·.at 0)) = .passed r u
        ↔ Check.ofOption (·.ownEndpoint kind) o = .passed r u := by
    intro kind o r u
    exact Check.ofOption_map_iff fun _ _ _ => Iff.rfl
  have hrtx : ∀ (o : Option MediaLine) (r : Option RtxStream) (u : List Warning),
      Check.ofOption MediaLine.rtxStream (o.map (·.at 0)) = .passed r u
        ↔ Check.ofOption MediaLine.rtxStream o = .passed r u := by
    intro o r u
    exact Check.ofOption_map_iff fun _ _ _ => MediaLine.rtxStream_at_iff
  rw [streams_eq_passed_iff, streams_eq_passed_iff]
  unfold unplaced
  simp only [MediaLine.primaryStream_at_iff, hown, hrtx]

end Lineup
