/-
  Lineup.Text.Split
  ─────────────────
  **CUTTING A TEXT INTO PARTS.**  Four ways, all by structural recursion:

      pieces sep  — what stands between separators, empty parts included
                    (of a text, or of any list)
      words sep   — the non-empty pieces
      cut sep     — the two sides of the first separator
      lines       — the lines of a text; a line ends at LF, and a CR right
                    before that LF belongs to the ending

  Main statements: a text without separators is its only piece
  (`pieces_eq_singleton`), pieces distribute over a separator (`pieces_append`),
  no piece and no word holds a separator (`sep_of_mem_pieces`,
  `sep_of_mem_words`), and no line holds a LF (`not_lf_of_mem_lines`).
-/

namespace Lineup.Text

/-! ## §1. Pieces and words. -/

/-- What stands between the separators of a list; there is always one piece
more than there are separators. -/
def pieces (sep : α → Bool) : List α → List (List α)
  | [] => [[]]
  | c :: cs =>
    if sep c then [] :: pieces sep cs
    else (pieces sep cs).modifyHead (c :: ·)

/-- The non-empty pieces of a text: its maximal runs without separators. -/
def words (sep : Char → Bool) (cs : List Char) : List (List Char) :=
  (pieces sep cs).filter (!·.isEmpty)

theorem pieces_ne_nil (sep : α → Bool) (cs : List α) : pieces sep cs ≠ [] := by
  induction cs with
  | nil => simp [pieces]
  | cons c cs ih => by_cases h : sep c = true <;> simp [pieces, h, ih]

theorem pieces_eq_singleton {sep : α → Bool} {cs : List α}
    (h : ∀ c ∈ cs, sep c = false) : pieces sep cs = [cs] := by
  induction cs with
  | nil => rfl
  | cons c cs ih =>
    simp [pieces, h c (by simp), ih fun d hd => h d (by simp [hd])]

theorem pieces_append {sep : α → Bool} {a : List α} {s : α} {b : List α}
    (ha : ∀ c ∈ a, sep c = false) (hs : sep s = true) :
    pieces sep (a ++ s :: b) = a :: pieces sep b := by
  induction a with
  | nil => simp [pieces, hs]
  | cons c a ih =>
    simp [pieces, ha c (by simp), ih fun d hd => ha d (by simp [hd])]

theorem sep_of_mem_pieces {sep : α → Bool} {cs p : List α} (hp : p ∈ pieces sep cs)
    {c : α} (hc : c ∈ p) : sep c = false := by
  induction cs generalizing p with
  | nil => simp [pieces] at hp; simp [hp] at hc
  | cons d cs ih =>
    by_cases hd : sep d = true
    · simp [pieces, hd] at hp
      rcases hp with rfl | hp
      · simp at hc
      · exact ih hp hc
    · obtain ⟨q, qs, hq⟩ := List.exists_cons_of_ne_nil (pieces_ne_nil sep cs)
      simp [pieces, hd, hq] at hp
      rcases hp with rfl | hp
      · rcases List.mem_cons.1 hc with rfl | hc
        · simpa using hd
        · exact ih (by simp [hq]) hc
      · exact ih (by simp [hq, hp]) hc

theorem sep_of_mem_words {sep : Char → Bool} {cs w : List Char} (hw : w ∈ words sep cs)
    {c : Char} (hc : c ∈ w) : sep c = false :=
  sep_of_mem_pieces (List.mem_filter.1 hw).1 hc

theorem ne_nil_of_mem_words {sep : Char → Bool} {cs w : List Char} (hw : w ∈ words sep cs) :
    w ≠ [] := by
  have := (List.mem_filter.1 hw).2
  simpa using this

/-! ## §2. The first separator. -/

/-- The text before and the text after the first separator, if there is one. -/
def cut (sep : Char → Bool) : List Char → Option (List Char × List Char)
  | [] => none
  | c :: cs =>
    if sep c then some ([], cs)
    else (cut sep cs).map fun (a, b) => (c :: a, b)

theorem cut_append {sep : Char → Bool} {a : List Char} {s : Char} {b : List Char}
    (ha : ∀ c ∈ a, sep c = false) (hs : sep s = true) :
    cut sep (a ++ s :: b) = some (a, b) := by
  induction a with
  | nil => simp [cut, hs]
  | cons c a ih => simp [cut, ha c (by simp), ih fun d hd => ha d (by simp [hd])]

theorem cut_eq_none {sep : Char → Bool} {cs : List Char} (h : ∀ c ∈ cs, sep c = false) :
    cut sep cs = none := by
  induction cs with
  | nil => rfl
  | cons c cs ih => simp [cut, h c (by simp), ih fun d hd => h d (by simp [hd])]

/-! ## §3. Lines. -/

/-- The lines of a text without their endings. Text after the last LF is a
line of its own and keeps its CR. -/
def lines : List Char → List (List Char)
  | [] => []
  | '\n' :: cs => [] :: lines cs
  | '\r' :: '\n' :: cs => [] :: lines cs
  | c :: cs =>
    match lines cs with
    | [] => [[c]]
    | l :: ls => (c :: l) :: ls

theorem not_lf_of_mem_lines {cs l : List Char} (hl : l ∈ lines cs) : '\n' ∉ l := by
  fun_induction lines cs generalizing l with
  | case1 => simp at hl
  | case2 cs ih =>
    rcases List.mem_cons.1 hl with rfl | hl
    · simp
    · exact ih hl
  | case3 cs ih =>
    rcases List.mem_cons.1 hl with rfl | hl
    · simp
    · exact ih hl
  | case4 c cs hlf _ heq ih =>
    obtain rfl : l = [c] := by simpa using hl
    intro h
    exact hlf (List.mem_singleton.1 h).symm
  | case5 c cs hlf _ l' ls heq ih =>
    rcases List.mem_cons.1 hl with rfl | hl
    · intro h
      rcases List.mem_cons.1 h with h | h
      · exact hlf h.symm
      · exact ih (by rw [heq]; simp) h
    · exact ih (by rw [heq]; simp [hl])

end Lineup.Text
