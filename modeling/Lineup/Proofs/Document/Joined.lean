/-
  Lineup.Proofs.Document.Joined
  ─────────────────────────────
  **DOCUMENTS SIDE BY SIDE.**  Two documents of whole lines with a boundary between
  them are one document with the sessions of both (`sessionTexts_append`).  So what
  is put together with boundaries is taken apart into the sessions of its parts, in
  the order of the parts (`sessions_intercalate`).
-/
import Lineup.Proofs.Text.Words
import Lineup.Document.Rendered
import Lineup.Document.Sessions

namespace Lineup.Document

open Text

theorem isBoundary_iff {l : List Char} : isBoundary l = true ↔ ['-', '-'] <+: l := by
  fun_cases isBoundary l with
  | case1 rest => simp
  | case2 _ hno =>
    constructor
    · intro h
      cases h
    · intro h
      obtain ⟨rest, hrest⟩ := h
      exact (hno rest hrest.symm).elim

/-- A boundary is known by how it starts, so a CR at its end is of no account. -/
theorem isBoundary_append_cr (l : List Char) : isBoundary (l ++ ['\r']) = isBoundary l := by
  apply Bool.eq_iff_iff.2
  rw [isBoundary_iff, isBoundary_iff, List.prefix_concat_iff]
  constructor
  · intro h
    rcases h with h | h
    · -- two hyphens do not end at a CR
      have hlast := congrArg List.getLast? h
      rw [List.getLast?_concat] at hlast
      exact absurd hlast (by decide)
    · exact h
  · exact Or.inr

/-- **A boundary between two documents keeps their sessions apart**, whatever it says and
however it ends. -/
theorem sessionTexts_append {a l : List Char} (ha : Whole a) (hl : isBoundary l = true)
    (hinline : '\n' ∉ l) (b : List Char) :
    sessionTexts (a ++ (l ++ '\n' :: b)) = sessionTexts a ++ sessionTexts b := by
  -- the line is the boundary, or the boundary without a CR that belongs to the ending
  have hline : ∃ m, lines (l ++ '\n' :: b) = m :: lines b ∧ isBoundary m = true := by
    by_cases hcr : l.getLast? = some '\r'
    · obtain ⟨m, rfl⟩ := List.getLast?_eq_some_iff.1 hcr
      rw [isBoundary_append_cr] at hl
      refine ⟨m, ?_, hl⟩
      rw [List.append_assoc]
      exact lines_append_crlf (fun h => hinline (List.mem_append_left _ h)) b
    · exact ⟨l, lines_append_lf hinline hcr b, hl⟩
  obtain ⟨m, hm, hboundary⟩ := hline
  unfold sessionTexts
  rw [lines_append ha, hm, pieces_append_sep hboundary, List.map_append, List.filter_append]

theorem sessions_append {a : String} (ha : Whole a.toList) (b : String) :
    sessions (a ++ boundary ++ b) = sessions a ++ sessions b := by
  have hjoined : (a ++ boundary ++ b).toList = a.toList ++ (['-', '-'] ++ '\n' :: b.toList) := by
    rw [String.toList_append, String.toList_append, List.append_assoc]
    rfl
  unfold sessions
  rw [hjoined, sessionTexts_append ha rfl (by decide), List.map_append]

/-- **The sessions of documents that were put together are those of the documents**, in
order. -/
theorem sessions_intercalate {texts : List String} (htexts : ∀ t ∈ texts, Whole t.toList) :
    sessions (boundary.intercalate texts) = texts.flatMap sessions := by
  induction texts with
  | nil => rfl
  | cons t texts ih =>
    rw [List.forall_mem_cons] at htexts
    rw [List.flatMap_cons, ← ih htexts.2]
    cases texts with
    | nil => exact (List.append_nil _).symm
    | cons t' texts =>
      rw [← sessions_append htexts.1, String.intercalate_cons_cons]

end Lineup.Document
