/-
  Lineup.Proofs.Document.Framing
  ──────────────────────────────
  **NOTHING IS LOST BETWEEN A DOCUMENT AND ITS SESSIONS.**

  A document is characters, its lines are laid out in it, and the sessions are cut out of
  the lines.  §1 says what it is for lines to be laid out in a text, without saying how they
  are found:

      l LF      — a line that does not end at CR
      l CR LF   — any line; this CR is not part of it
      l         — text at the end of the document

  and shows that every text has exactly one layout, the one that `lines` finds.  §2 reads a
  document as a loop would, one line after the other, with the session so far beside the
  sessions that are finished; what it has at the end are the sessions of the document.
  §3 says what comes out of a document with one session, or none.

  Main results: `lines_eq_iff_laidOut`, `sessionTexts_eq_foldl`, `sessions_complete`.
-/
import Lineup.Proofs.Document.Joined

namespace Lineup.Document

open Text

/-! ## §1. Lines as they are laid out. -/

/-- The lines of a text, by how the text is put together from them. -/
inductive LaidOut : List (List Char) → List Char → Prop
  | nil : LaidOut [] []
  | unended {l : List Char} (hne : l ≠ []) (hl : '\n' ∉ l) : LaidOut [l] l
  | lf {l cs : List Char} {ls : List (List Char)} (hl : '\n' ∉ l)
      (hlast : l.getLast? ≠ some '\r') (h : LaidOut ls cs) :
      LaidOut (l :: ls) (l ++ '\n' :: cs)
  | crlf {l cs : List Char} {ls : List (List Char)} (hl : '\n' ∉ l) (h : LaidOut ls cs) :
      LaidOut (l :: ls) (l ++ '\r' :: '\n' :: cs)

/-- A character that is no ending and no part of one goes to the first line. -/
theorem LaidOut.cons {c : Char} {cs l : List Char} {ls : List (List Char)} (hlf : c ≠ '\n')
    (hcr : c = '\r' → cs.head? ≠ some '\n') (h : LaidOut (l :: ls) cs) :
    LaidOut ((c :: l) :: ls) (c :: cs) := by
  have hfree : ∀ {m : List Char}, '\n' ∉ m → '\n' ∉ c :: m := by
    intro m hm hmem
    rcases List.mem_cons.1 hmem with h | h
    · exact hlf h.symm
    · exact hm h
  cases h with
  | unended hne hl => exact .unended (List.cons_ne_nil c _) (hfree hl)
  | crlf hl h => exact .crlf (hfree hl) h
  | lf hl hlast h =>
    refine .lf (hfree hl) ?_ h
    -- the line would end at CR only if it were nothing but `c`, in front of the LF
    intro hend
    cases l with
    | nil =>
      have hc : c = '\r' := Option.some.inj hend
      exact hcr hc rfl
    | cons d l => exact hlast (by rwa [List.getLast?_cons_cons] at hend)

theorem laidOut_lines (cs : List Char) : LaidOut (lines cs) cs := by
  fun_induction lines cs with
  | case1 => exact .nil
  | case2 cs ih => exact LaidOut.lf (l := []) (by simp) (by simp) ih
  | case3 cs ih => exact LaidOut.crlf (l := []) (by simp) ih
  | case4 c cs hlf hcr hnone ih =>
    -- nothing is laid out in the rest, so there is none
    obtain rfl : cs = [] := by_contra fun hne => lines_ne_nil hne hnone
    exact .unended (List.cons_ne_nil c _) fun h => hlf (List.mem_singleton.1 h).symm
  | case5 c cs hlf hcr l ls heq ih =>
    rw [heq] at ih
    apply LaidOut.cons hlf ?_ ih
    intro hc hhead
    obtain ⟨ds, rfl⟩ := List.head?_eq_some_iff.1 hhead
    exact hcr ds hc rfl

/-- **A text has exactly one layout**, the lines that are found in it. -/
theorem lines_eq_iff_laidOut {cs : List Char} {ls : List (List Char)} :
    lines cs = ls ↔ LaidOut ls cs := by
  constructor
  · intro h
    rw [← h]
    exact laidOut_lines cs
  · intro h
    induction h with
    | nil => rw [lines]
    | unended hne hl => exact lines_unended hne hl
    | lf hl hlast _ ih => rw [lines_append_lf hl hlast, ih]
    | crlf hl _ ih => rw [lines_append_crlf hl, ih]

/-! ## §2. Line after line. -/

/-- Where a reader of lines is: the session so far, and the sessions that are finished. -/
structure Reader where
  current : List Char
  finished : List (List Char)

namespace Reader

/-- The session so far is finished; it counts only if there is anything to see in it. -/
def close (r : Reader) : Reader where
  current := []
  finished := if (trim r.current).isEmpty then r.finished else r.finished ++ [r.current]

/-- One line is read. -/
def step (r : Reader) (l : List Char) : Reader :=
  if isBoundary l then r.close
  else if isComment l then r
  else { r with current := r.current ++ l ++ ['\n'] }

/-- What is finished once the session so far is closed. -/
theorem finished_close (r : Reader) :
    r.close.finished = r.finished ++ [r.current].filter fun cs => !(trim cs).isEmpty := by
  unfold close
  by_cases h : (trim r.current).isEmpty = true
  · simp [h]
  · simp [h]

theorem sessionText_cons (l : List Char) (ls : List (List Char)) :
    sessionText (l :: ls) = (if isComment l then [] else l ++ ['\n']) ++ sessionText ls := by
  unfold sessionText unlines
  by_cases h : isComment l = true
  · simp [h]
  · simp [h]

/-- **From wherever it is, a reader finishes what it has and what the lines divide into**: the
first part of the lines goes to the session so far. -/
theorem finished_foldl (ls : List (List Char)) (r : Reader) {p : List (List Char)}
    {ps : List (List (List Char))} (hparts : pieces isBoundary ls = p :: ps) :
    (ls.foldl step r).close.finished = r.finished ++
      ((r.current ++ sessionText p) :: ps.map sessionText).filter
        fun cs => !(trim cs).isEmpty := by
  -- on the lines; a boundary starts a new part, any other line goes in front of the first
  induction ls generalizing r p ps with
  | nil =>
    obtain ⟨rfl, rfl⟩ := List.cons.inj hparts
    rw [List.foldl_nil, finished_close]
    simp [sessionText, unlines]
  | cons l ls ih =>
    obtain ⟨q, qs, hrest⟩ := List.exists_cons_of_ne_nil (pieces_ne_nil isBoundary ls)
    rw [List.foldl_cons, ih _ hrest]
    by_cases hb : isBoundary l = true
    · rw [pieces, if_pos hb, hrest] at hparts
      obtain ⟨rfl, rfl⟩ := List.cons.inj hparts
      rw [step, if_pos hb, finished_close, List.append_assoc, ← List.filter_append]
      simp [close, sessionText, unlines]
    · rw [pieces, if_neg hb, hrest, List.modifyHead_cons] at hparts
      obtain ⟨rfl, rfl⟩ := List.cons.inj hparts
      rw [step, if_neg hb, sessionText_cons]
      by_cases hc : isComment l = true
      · simp [hc]
      · simp [hc]

end Reader

/-- **READING LINE BY LINE GIVES THE SESSIONS.**  What a reader that starts with nothing has
finished when the last line is read and the last session closed are the sessions of the
document. -/
theorem sessionTexts_eq_foldl (cs : List Char) :
    sessionTexts cs = ((lines cs).foldl Reader.step ⟨[], []⟩).close.finished := by
  obtain ⟨p, ps, hparts⟩ :=
    List.exists_cons_of_ne_nil (pieces_ne_nil isBoundary (lines cs))
  rw [Reader.finished_foldl _ _ hparts]
  unfold sessionTexts
  rw [hparts]
  rfl

/-! ## §3. What is between two boundaries. -/

/-- A line that stands between two sessions, with its ending. -/
def BoundaryLine (b : String) : Prop :=
  ∃ rest : String, '\n' ∉ rest.toList ∧ (b = "--" ++ rest ++ "\n" ∨ b = "--" ++ rest ++ "\r\n")

/-- A boundary line is a line and the LF behind it; a CR in front of that LF is no matter. -/
theorem BoundaryLine.toList {b : String} (hb : BoundaryLine b) :
    ∃ l, isBoundary l = true ∧ '\n' ∉ l ∧ b.toList = l ++ ['\n'] := by
  obtain ⟨rest, hrest, rfl | rfl⟩ := hb
  · refine ⟨'-' :: '-' :: rest.toList, rfl, by simpa using hrest, ?_⟩
    simp
  · refine ⟨'-' :: '-' :: rest.toList ++ ['\r'], rfl, by simpa using hrest, ?_⟩
    simp

theorem sessions_append_boundaryLine {a b : String} (ha : Whole a.toList) (hb : BoundaryLine b)
    (c : String) : sessions (a ++ b ++ c) = sessions a ++ sessions c := by
  obtain ⟨l, hl, hinline, hline⟩ := hb.toList
  unfold sessions
  rw [String.toList_append, String.toList_append, hline, List.append_assoc, List.append_assoc,
    List.singleton_append, sessionTexts_append ha hl hinline, List.map_append]

theorem mem_unlines {ls : List (List Char)} {c : Char} :
    c ∈ unlines ls ↔ ∃ l ∈ ls, c ∈ l ∨ c = '\n' := by
  unfold unlines
  simp

/-- Whether there is anything to see in a session is for the lines that are no comments. -/
theorem trim_sessionText_eq_nil_iff {ls : List (List Char)} :
    trim (sessionText ls) = [] ↔
      ∀ l ∈ ls, isComment l = false → ∀ c ∈ l, isWhite c = true := by
  rw [trim_eq_nil_iff]
  unfold sessionText
  constructor
  · intro h l hl hcomment c hc
    apply h c
    exact mem_unlines.2 ⟨l, List.mem_filter.2 ⟨hl, by simp [hcomment]⟩, Or.inl hc⟩
  · intro h c hc
    obtain ⟨l, hl, hc⟩ := mem_unlines.1 hc
    obtain ⟨hl, hcomment⟩ := List.mem_filter.1 hl
    rcases hc with hc | rfl
    · exact h l hl (by simpa using hcomment) c hc
    · rfl

theorem sessionTexts_of_no_boundary {cs : List Char} (h : ∀ l ∈ lines cs, isBoundary l = false) :
    sessionTexts cs =
      if trim (sessionText (lines cs)) = [] then [] else [sessionText (lines cs)] := by
  unfold sessionTexts
  rw [pieces_eq_singleton h, List.map_singleton]
  by_cases hvisible : trim (sessionText (lines cs)) = []
  · simp [hvisible]
  · simp [hvisible]

/-- **DOCUMENTS COMPOSE, AND A DOCUMENT WITHOUT BOUNDARIES IS KEPT LINE FOR LINE.**

  * Every document is laid out in lines, in one way only.
  * Its sessions are what a reader has finished that starts with nothing, takes these lines
    one after the other and closes the last session.
  * A boundary line behind a document of whole lines, whatever it says after its two hyphens
    and whether it ends at LF or at CR LF, cuts: the sessions of the whole are the sessions
    in front of it and then those behind it.
  * A document with no boundary among its lines has no session if its lines other than
    comments are white space, and else just one: these lines in order, each ended by LF. -/
theorem sessions_complete :
    (∀ d : String, ∃! ls, LaidOut ls d.toList) ∧
    (∀ (d : String) (ls : List (List Char)), LaidOut ls d.toList →
      sessions d = ((ls.foldl Reader.step ⟨[], []⟩).close.finished).map String.ofList) ∧
    (∀ a b c : String, Whole a.toList → BoundaryLine b →
      sessions (a ++ b ++ c) = sessions a ++ sessions c) ∧
    (∀ (d : String) (ls : List (List Char)), LaidOut ls d.toList →
      (∀ l ∈ ls, isBoundary l = false) →
      ((∀ l ∈ ls, isComment l = false → ∀ c ∈ l, isWhite c = true) → sessions d = []) ∧
      (¬ (∀ l ∈ ls, isComment l = false → ∀ c ∈ l, isWhite c = true) →
        sessions d = [String.ofList (unlines (ls.filter (!isComment ·)))])) := by
  refine ⟨?_, ?_, ?_, ?_⟩
  · intro d
    refine ⟨lines d.toList, laidOut_lines d.toList, ?_⟩
    intro ls hls
    exact (lines_eq_iff_laidOut.2 hls).symm
  · intro d ls hls
    unfold sessions
    rw [sessionTexts_eq_foldl, lines_eq_iff_laidOut.2 hls]
  · intro a b c ha hb
    exact sessions_append_boundaryLine ha hb c
  · intro d ls hls hfree
    rw [← lines_eq_iff_laidOut] at hls
    subst hls
    have htexts := sessionTexts_of_no_boundary hfree
    constructor
    · intro hwhite
      rw [if_pos (trim_sessionText_eq_nil_iff.2 hwhite)] at htexts
      unfold sessions
      rw [htexts]
      rfl
    · intro hvisible
      rw [if_neg fun h => hvisible (trim_sessionText_eq_nil_iff.1 h)] at htexts
      unfold sessions
      rw [htexts]
      rfl

/-- A header in front of a session, a boundary that says more than two hyphens, and a rest with
nothing but a comment and an empty line in it; CR LF and LF side by side. -/
theorem sessions_complete_mixed_endings :
    sessions ("# header\r\nv=0\r\n# note\no=a\n" ++ "-- trailing\r\n" ++ "\r\n# nothing") =
      ["v=0\no=a\n"] ++ [] := by
  have hboundary : BoundaryLine "-- trailing\r\n" := ⟨" trailing", by decide, Or.inr rfl⟩
  have hfront : LaidOut ["# header".toList, "v=0".toList, "# note".toList, "o=a".toList]
      "# header\r\nv=0\r\n# note\no=a\n".toList := lines_eq_iff_laidOut.1 (by decide)
  have hbehind : LaidOut [[], "# nothing".toList] "\r\n# nothing".toList :=
    lines_eq_iff_laidOut.1 (by decide)
  rw [sessions_complete.2.2.1 _ _ _ (by decide) hboundary,
    (sessions_complete.2.2.2 _ _ hfront (by decide)).2 (by decide),
    (sessions_complete.2.2.2 _ _ hbehind (by decide)).1 (by decide)]
  rfl

end Lineup.Document
