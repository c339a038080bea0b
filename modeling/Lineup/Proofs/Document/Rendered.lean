/-
  Lineup.Proofs.Document.Rendered
  ───────────────────────────────
  **A RENDERED DOCUMENT IS TAKEN APART INTO THE TEXTS IT WAS MADE OF.**  A line of
  a channel starts with a letter, so it is neither a comment nor a boundary; the
  heading is a comment.  So the sessions of the document of a registry are the
  texts of its channels, in the order of their slots.
-/
import Lineup.Proofs.Extraction.Canonical
import Lineup.Proofs.Registry.Fits
import Lineup.Document.Sessions

namespace Lineup

open Text

/-! ## §1. Blocks of lines. -/

namespace Document

/-- The sessions of a document of characters. -/
theorem sessions_ofList (cs : List Char) : sessions (.ofList cs) = (sessionTexts cs).map .ofList := by
  unfold sessions
  rw [String.toList_ofList]

/-- Lines that can stand in a document as one session. -/
structure IsBlock (ls : List (List Char)) : Prop where
  inline : ∀ l ∈ ls, ∀ c ∈ l, c ≠ '\n' ∧ c ≠ '\r'
  boundary : ∀ l ∈ ls, isBoundary l = false
  comment : ∀ l ∈ ls, isComment l = false
  visible : ∃ l ∈ ls, ∃ c ∈ l, isWhite c = false

theorem unlines_cons (l : List Char) (ls : List (List Char)) :
    unlines (l :: ls) = l ++ '\n' :: unlines ls := by
  unfold unlines
  rw [List.flatMap_cons, List.append_assoc, List.singleton_append]

theorem unlines_append (ls ms : List (List Char)) :
    unlines (ls ++ ms) = unlines ls ++ unlines ms :=
  List.flatMap_append

theorem unlines_intercalate (s : List Char) (blocks : List (List (List Char))) :
    unlines ([s].intercalate blocks) = (s ++ ['\n']).intercalate (blocks.map unlines) := by
  induction blocks with
  | nil => rfl
  | cons b bs ih =>
    cases bs with
    | nil => rw [List.intercalate_singleton, List.map_singleton, List.intercalate_singleton]
    | cons b' bs =>
      have hs : unlines [s] = s ++ ['\n'] := List.flatMap_singleton ..
      simp only [List.map_cons] at ih ⊢
      rw [List.intercalate_cons_cons, List.intercalate_cons_cons, unlines_append, unlines_append,
        ih, hs]

theorem IsBlock.sessionText {ls : List (List Char)} (h : IsBlock ls) :
    sessionText ls = unlines ls := by
  unfold Document.sessionText
  rw [List.filter_eq_self.2 fun l hl => by rw [h.comment l hl]; rfl]

theorem IsBlock.visible_unlines {ls : List (List Char)} (h : IsBlock ls) :
    (!(trim (unlines ls)).isEmpty) = true := by
  obtain ⟨l, hl, c, hc, hwhite⟩ := h.visible
  have hmem : c ∈ unlines ls := by
    unfold unlines
    exact List.mem_flatMap.2 ⟨l, hl, List.mem_append_left _ hc⟩
  have hne := trim_ne_nil hmem hwhite
  rw [Bool.not_eq_true', List.isEmpty_eq_false_iff]
  exact hne

/-- A comment belongs to no session. -/
theorem sessionText_comment {l : List Char} (hl : isComment l = true) (ls : List (List Char)) :
    sessionText (l :: ls) = sessionText ls := by
  unfold sessionText
  rw [List.filter_cons_of_neg (by rw [hl]; decide)]

/-- **Blocks behind a comment, with boundaries between them, are the sessions.** -/
theorem sessionTexts_unlines {comment : List Char} (hcomment : isComment comment = true)
    (hinline : ∀ c ∈ comment, c ≠ '\n' ∧ c ≠ '\r') {blocks : List (List (List Char))}
    (hblocks : ∀ b ∈ blocks, IsBlock b) :
    sessionTexts (unlines (comment :: [['-', '-']].intercalate blocks))
      = blocks.map unlines := by
  -- what was written line by line is read line by line
  have hlines : lines (unlines (comment :: [['-', '-']].intercalate blocks))
      = comment :: [['-', '-']].intercalate blocks := by
    apply lines_lf
    intro l hl
    rcases List.mem_cons.1 hl with rfl | hl
    · exact hinline
    · rcases mem_intercalate hl with rfl | ⟨b, hb, hl⟩
      · decide
      · exact (hblocks b hb).inline l hl
  have hopen : isBoundary comment = false := by
    cases comment with
    -- nothing but the comment: one piece without a text
    | nil => rfl
    | cons c cs =>
      unfold isComment at hcomment
      split at hcomment
      · next heq =>
        rw [heq]
        rfl
      · cases hcomment
  unfold sessionTexts
  rw [hlines]
  cases blocks with
  | nil =>
    rw [List.intercalate_nil, pieces_eq_singleton (by simpa using hopen), List.map_singleton,
      sessionText_comment hcomment]
    rfl
  | cons b bs =>
    -- the comment stands on the lines of the first session
    rw [← List.intercalate_cons_cons_left, pieces_intercalate (by decide)]
    · rw [List.map_cons, sessionText_comment hcomment, ← List.map_cons,
        List.map_congr_left fun d hd => (hblocks d hd).sessionText]
      apply List.filter_eq_self.2
      intro t ht
      obtain ⟨d, hd, rfl⟩ := List.mem_map.1 ht
      exact (hblocks d hd).visible_unlines
    · intro d hd l hl
      rcases List.mem_cons.1 hd with rfl | hd
      · rcases List.mem_cons.1 hl with rfl | hl
        · exact hopen
        · exact (hblocks b List.mem_cons_self).boundary l hl
      · exact (hblocks d (List.mem_cons_of_mem _ hd)).boundary l hl

end Document

/-! ## §2. The lines of a channel. -/

/-- The lines of a channel, without their endings. -/
def Channel.lines (c : Channel) : List (List Char) := c.toSession.toLines.map (·.text.toList)

theorem Line.Plain.block {l : Line} (hl : l.Plain) :
    Document.isBoundary l.text.toList = false ∧ Document.isComment l.text.toList = false := by
  rw [Line.toList_text]
  constructor
  · unfold Document.isBoundary
    split
    · next heq => cases (List.cons.inj (List.cons.inj heq).2).1
    · rfl
  · unfold Document.isComment
    split
    · next heq =>
      have hkey : l.key = '#' := (List.cons.inj heq).1
      exact absurd (hkey ▸ hl.key) (by decide)
    · rfl

theorem Channel.isBlock_lines {c : Channel} (hc : c.toSession.Printable) :
    Document.IsBlock c.lines := by
  have hplain := hc.plain
  refine ⟨?_, ?_, ?_, ?_⟩
  · intro l hl
    obtain ⟨m, hm, rfl⟩ := List.mem_map.1 hl
    exact Line.text_inline (hplain m hm)
  · intro l hl
    obtain ⟨m, hm, rfl⟩ := List.mem_map.1 hl
    exact (hplain m hm).block.1
  · intro l hl
    obtain ⟨m, hm, rfl⟩ := List.mem_map.1 hl
    exact (hplain m hm).block.2
  · -- every session has a line with its version
    refine ⟨_, List.mem_map_of_mem (a := ⟨'v', c.toSession.version⟩) ?_, 'v', ?_, by decide⟩
    · unfold Session.toLines
      simp
    · rw [Line.toList_text]
      exact List.mem_cons_self

theorem Channel.toList_channelText {c : Channel} (hc : c.toSession.Printable) :
    (Document.channelText c).toList = Document.unlines c.lines := by
  unfold Document.channelText
  rw [String.toList_ofList]
  exact withLf_join hc.plain

/-! ## §3. Registries. -/

namespace Document

/-- The opening comment without its ending. -/
def headingLine (generated : String) (count : Nat) : List Char :=
  "# channel configuration generated ".toList ++ generated.toList ++ " (".toList
    ++ (decimal count).toList ++ " channels)".toList

theorem toList_heading (generated : String) (count : Nat) :
    (heading generated count).toList = headingLine generated count ++ ['\n'] := by
  unfold heading headingLine
  simp only [String.toList_append, List.append_assoc]
  rfl

theorem headingLine_inline {generated : String} (h : Inline generated) (count : Nat) :
    ∀ c ∈ headingLine generated count, c ≠ '\n' ∧ c ≠ '\r' := by
  intro c hc
  unfold headingLine at hc
  simp only [List.mem_append] at hc
  rcases hc with (((hc | hc) | hc) | hc) | hc
  · revert c
    decide
  · exact h c hc
  · revert c
    decide
  · exact ne_of_not_white (isWhite_of_isDigit (isDigit_of_mem_decimal hc))
  · revert c
    decide

theorem ofRegistry_eq (r : Registry) (generated : String) :
    ofRegistry r generated
      = heading generated r.size ++ boundary.intercalate (r.records.map channelText) := by
  unfold Registry.records
  rw [List.map_map]
  rfl

theorem toList_ofRegistry {r : Registry} (hr : ∀ c ∈ r.records, c.toSession.Printable)
    (generated : String) :
    (ofRegistry r generated).toList
      = unlines (headingLine generated r.size :: [['-', '-']].intercalate (r.records.map (·.lines))) := by
  have htexts : (r.records.map channelText).map String.toList
      = (r.records.map (·.lines)).map unlines := by
    rw [List.map_map, List.map_map]
    apply List.map_congr_left
    intro c hc
    exact Channel.toList_channelText (hr c hc)
  rw [ofRegistry_eq, String.toList_append, toList_heading, String.toList_intercalate, htexts,
    unlines_cons, unlines_intercalate, List.append_assoc, List.singleton_append]
  rfl

/-- **The sessions of the document of a registry are the texts of its channels.** -/
theorem sessions_ofRegistry {r : Registry} (hr : ∀ c ∈ r.records, c.toSession.Printable)
    {generated : String} (hgenerated : Inline generated) :
    sessions (ofRegistry r generated) = r.records.map channelText := by
  unfold sessions
  rw [toList_ofRegistry hr, sessionTexts_unlines rfl (headingLine_inline hgenerated _)]
  · rw [List.map_map, List.map_map]
    apply List.map_congr_left
    intro c hc
    show String.ofList (unlines c.lines) = _
    rw [← Channel.toList_channelText (hr c hc), String.ofList_toList]
  · intro b hb
    obtain ⟨c, hc, rfl⟩ := List.mem_map.1 hb
    exact Channel.isBlock_lines (hr c hc)

end Document

/-! ## §4. Points in time. -/

theorem Inline.append {s t : String} (hs : Inline s) (ht : Inline t) : Inline (s ++ t) := by
  intro c hc
  rw [String.toList_append] at hc
  rcases List.mem_append.1 hc with hc | hc
  · exact hs c hc
  · exact ht c hc

namespace Instant

theorem inline_padded (width n : Nat) : Inline (padded width n) := by
  intro c hc
  unfold padded at hc
  rw [String.toList_ofList] at hc
  rcases List.mem_append.1 hc with hc | hc
  · rw [List.eq_of_mem_replicate hc]
    decide
  · exact ne_of_not_white
      (isWhite_of_isDigit (Nat.isDigit_of_mem_toDigits (by decide) (by decide) hc))

theorem inline_yearText (year : Int) : Inline (yearText year) := by
  unfold yearText
  refine Inline.append ?_ (inline_padded _ _)
  split
  · unfold Inline
    decide
  · split
    · unfold Inline
      decide
    · unfold Inline
      decide

theorem inline_fractionText (nanos : Nat) : Inline (fractionText nanos) := by
  unfold fractionText
  split
  · unfold Inline
    decide
  · split
    · exact Inline.append (by unfold Inline; decide) (inline_padded _ _)
    · split
      · exact Inline.append (by unfold Inline; decide) (inline_padded _ _)
      · exact Inline.append (by unfold Inline; decide) (inline_padded _ _)

/-- The text of a point in time stays on its line. -/
theorem inline_rfc3339 (t : Instant) : Inline t.rfc3339 := by
  unfold rfc3339 dateText
  have hdash : Inline "-" := by unfold Inline; decide
  have hcolon : Inline ":" := by unfold Inline; decide
  have ht : Inline "T" := by unfold Inline; decide
  have hzone : Inline "+00:00" := by unfold Inline; decide
  have hdate := ((((inline_yearText t.date.year).append hdash).append
    (inline_padded 2 t.date.month)).append hdash).append (inline_padded 2 t.date.day)
  exact ((((((((hdate.append ht).append (inline_padded _ _)).append hcolon).append
    (inline_padded _ _)).append hcolon).append (inline_padded _ _)).append
    (inline_fractionText _)).append hzone)

end Instant

end Lineup
