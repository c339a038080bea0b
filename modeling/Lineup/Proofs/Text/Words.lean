/-
  Lineup.Proofs.Text.Words
  ────────────────────────
  **PUTTING TEXTS TOGETHER AND TAKING THEM APART.**  Words with single separators
  between them read back as these words, lines with endings behind them as these
  lines.  White space at the ends of a text is of no account to its words.

  Main results: `words_intercalate`, `words_trim`, `lines_lf`, `lines_crlf`.
-/
import Lineup.Text.Split
import Lineup.Text.White
import Mathlib.Data.List.TakeWhile

namespace Lineup.Text

/-- What holds of all characters of a text is decided text by text, not over all characters
that there are. -/
instance (priority := high) decidableForallMem (p : Char → Prop) [DecidablePred p]
    (cs : List Char) : Decidable (∀ c ∈ cs, p c) :=
  List.decidableBAll p cs

/-! ## §1. Words. -/

section Words

variable {sep : Char → Bool} {s : Char}

/-- A separator divides the pieces of a text. -/
theorem pieces_append_sep {α : Type} {sep : α → Bool} {s : α} (hs : sep s = true) (a b : List α) :
    pieces sep (a ++ s :: b) = pieces sep a ++ pieces sep b := by
  induction a with
  | nil => simp [pieces, hs]
  | cons c a ih =>
    by_cases hc : sep c = true
    · simp [pieces, hc, ih]
    · obtain ⟨q, qs, hq⟩ := List.exists_cons_of_ne_nil (pieces_ne_nil sep a)
      simp [pieces, hc, ih, hq]

/-- What was put together with separators is taken apart again. -/
theorem pieces_intercalate {α : Type} {sep : α → Bool} {s : α} (hs : sep s = true)
    (w : List α) {ws : List (List α)} (hws : ∀ v ∈ w :: ws, ∀ c ∈ v, sep c = false) :
    pieces sep ([s].intercalate (w :: ws)) = w :: ws := by
  induction ws generalizing w with
  | nil =>
    rw [List.intercalate_singleton]
    exact pieces_eq_singleton (hws w List.mem_cons_self)
  | cons v ws ih =>
    rw [List.intercalate_cons_cons, List.append_assoc, List.singleton_append,
      pieces_append (hws w List.mem_cons_self) hs,
      ih v fun u hu => hws u (List.mem_cons_of_mem _ hu)]

theorem mem_of_mem_pieces {α : Type} {sep : α → Bool} {cs p : List α}
    (hp : p ∈ pieces sep cs) {c : α} (hc : c ∈ p) : c ∈ cs := by
  -- on the text; a character starts a new piece or goes in front of the first
  induction cs generalizing p with
  | nil =>
    obtain rfl : p = [] := by simpa [pieces] using hp
    cases hc
  | cons d cs ih =>
    by_cases hd : sep d = true
    · rw [pieces, if_pos hd] at hp
      rcases List.mem_cons.1 hp with rfl | hp
      · cases hc
      · exact List.mem_cons_of_mem _ (ih hp hc)
    · obtain ⟨q, qs, hq⟩ := List.exists_cons_of_ne_nil (pieces_ne_nil sep cs)
      rw [pieces, if_neg hd, hq, List.modifyHead_cons] at hp
      rcases List.mem_cons.1 hp with rfl | hp
      · rcases List.mem_cons.1 hc with rfl | hc
        · exact List.mem_cons_self
        · exact List.mem_cons_of_mem _ (ih (by simp [hq]) hc)
      · exact List.mem_cons_of_mem _ (ih (by simp [hq, hp]) hc)

/-- No character is lost: it separates, or it is in a piece. -/
theorem mem_pieces_of_mem {α : Type} {sep : α → Bool} {cs : List α} {c : α} (hc : c ∈ cs)
    (hsep : sep c = false) : ∃ p ∈ pieces sep cs, c ∈ p := by
  induction cs with
  | nil => cases hc
  | cons d cs ih =>
    obtain ⟨q, qs, hq⟩ := List.exists_cons_of_ne_nil (pieces_ne_nil sep cs)
    by_cases hd : sep d = true
    · have hne : c ≠ d := by
        intro h
        rw [h, hd] at hsep
        cases hsep
      obtain ⟨p, hp, hcp⟩ := ih (List.mem_of_ne_of_mem hne hc)
      refine ⟨p, ?_, hcp⟩
      rw [pieces, if_pos hd]
      exact List.mem_cons_of_mem _ hp
    · rw [pieces, if_neg hd, hq, List.modifyHead_cons]
      rcases List.mem_cons.1 hc with rfl | hc
      · exact ⟨c :: q, List.mem_cons_self, List.mem_cons_self⟩
      · obtain ⟨p, hp, hcp⟩ := ih hc
        rw [hq] at hp
        rcases List.mem_cons.1 hp with rfl | hp
        · exact ⟨d :: p, List.mem_cons_self, List.mem_cons_of_mem _ hcp⟩
        · exact ⟨p, List.mem_cons_of_mem _ hp, hcp⟩

theorem pieces_congr {α : Type} {sep sep' : α → Bool} {cs : List α}
    (h : ∀ c ∈ cs, sep c = sep' c) : pieces sep cs = pieces sep' cs := by
  induction cs with
  | nil => rfl
  | cons c cs ih =>
    rw [pieces, pieces, h c List.mem_cons_self, ih fun d hd => h d (List.mem_cons_of_mem _ hd)]

/-- A text is its pieces with the separator between them. -/
theorem intercalate_pieces (s : Char) (cs : List Char) :
    [s].intercalate (pieces (· == s) cs) = cs := by
  induction cs with
  | nil => rfl
  | cons c cs ih =>
    obtain ⟨q, qs, hq⟩ := List.exists_cons_of_ne_nil (pieces_ne_nil (· == s) cs)
    by_cases hc : c = s
    · rw [pieces, if_pos (beq_iff_eq.2 hc), hq, List.intercalate_cons_cons, ← hq, ih, hc]
      rfl
    · rw [pieces, if_neg fun h => hc (beq_iff_eq.1 h), hq, List.modifyHead_cons]
      rw [hq] at ih
      cases qs with
      | nil =>
        rw [List.intercalate_singleton] at ih ⊢
        rw [ih]
      | cons r rs =>
        rw [List.intercalate_cons_cons] at ih ⊢
        rw [List.append_assoc, List.cons_append, ← List.append_assoc, ih]

theorem words_append_sep (hs : sep s = true) (a b : List Char) :
    words sep (a ++ s :: b) = words sep a ++ words sep b := by
  unfold words
  rw [pieces_append_sep hs, List.filter_append]

theorem words_cons_sep (hs : sep s = true) (cs : List Char) :
    words sep (s :: cs) = words sep cs :=
  words_append_sep hs [] cs

theorem words_eq_singleton {w : List Char} (hne : w ≠ []) (hfree : ∀ c ∈ w, sep c = false) :
    words sep w = [w] := by
  unfold words
  rw [pieces_eq_singleton hfree]
  simp [hne]

theorem words_sep_append {a : List Char} (ha : ∀ c ∈ a, sep c = true) (b : List Char) :
    words sep (a ++ b) = words sep b := by
  induction a with
  | nil => rfl
  | cons c a ih =>
    rw [List.cons_append, words_cons_sep (ha c List.mem_cons_self)]
    exact ih fun d hd => ha d (List.mem_cons_of_mem _ hd)

theorem words_append_seps (a : List Char) {b : List Char} (hb : ∀ c ∈ b, sep c = true) :
    words sep (a ++ b) = words sep a := by
  cases b with
  | nil => rw [List.append_nil]
  | cons c b =>
    have hrest : words sep b = [] := by
      rw [← List.append_nil b, words_sep_append fun d hd => hb d (List.mem_cons_of_mem _ hd)]
      rfl
    rw [words_append_sep (hb c List.mem_cons_self), hrest, List.append_nil]

/-- The words of a list of texts with separators between them. -/
theorem words_intercalate (hs : sep s = true) (ws : List (List Char)) :
    words sep ([s].intercalate ws) = ws.flatMap (words sep) := by
  induction ws with
  | nil => rfl
  | cons w ws ih =>
    cases ws with
    | nil => simp
    | cons v ws =>
      rw [List.intercalate_cons_cons, List.append_assoc, List.singleton_append,
        words_append_sep hs, ih, List.flatMap_cons, List.flatMap_cons, List.flatMap_cons]

/-- A word: some characters, and no separator among them. -/
def IsWord (sep : Char → Bool) (w : List Char) : Prop := w ≠ [] ∧ ∀ c ∈ w, sep c = false

theorem isWord_of_mem_words {cs w : List Char} (hw : w ∈ words sep cs) : IsWord sep w :=
  ⟨ne_nil_of_mem_words hw, fun _ hc => sep_of_mem_words hw hc⟩

/-- A word that ends at a separator, or with the text. -/
theorem words_append_of_head {w cs : List Char} (hw : IsWord sep w)
    (hcs : ∀ c, cs.head? = some c → sep c = true) : words sep (w ++ cs) = w :: words sep cs := by
  obtain ⟨hne, hfree⟩ := hw
  cases cs with
  | nil =>
    rw [List.append_nil, words_eq_singleton hne hfree]
    rfl
  | cons c cs =>
    have hc := hcs c rfl
    rw [words_append_sep hc, words_eq_singleton hne hfree, words_cons_sep hc, List.singleton_append]

/-- Two classes that part nothing in the words of one of them have the same words. -/
theorem words_eq_of_free {sep' : Char → Bool} {cs : List Char}
    (hsub : ∀ c, sep' c = true → sep c = true)
    (hfree : ∀ w ∈ words sep' cs, ∀ c ∈ w, sep c = false) : words sep cs = words sep' cs := by
  have hcongr : ∀ c ∈ cs, sep c = sep' c := by
    intro c hc
    by_cases hsep : sep' c = true
    · rw [hsep, hsub c hsep]
    · rw [Bool.not_eq_true] at hsep
      obtain ⟨p, hp, hcp⟩ := mem_pieces_of_mem hc hsep
      have hword : p ∈ words sep' cs :=
        List.mem_filter.2 ⟨hp, by simp [List.ne_nil_of_mem hcp]⟩
      rw [hsep, hfree p hword c hcp]
  unfold words
  rw [pieces_congr hcongr]

theorem flatMap_words {ws : List (List Char)} (hws : ∀ w ∈ ws, IsWord sep w) :
    ws.flatMap (words sep) = ws := by
  induction ws with
  | nil => rfl
  | cons w ws ih =>
    obtain ⟨hne, hfree⟩ := hws w List.mem_cons_self
    rw [List.flatMap_cons, words_eq_singleton hne hfree,
      ih fun v hv => hws v (List.mem_cons_of_mem _ hv)]
    rfl

end Words

/-! ## §2. Trimming. -/

theorem exists_white_behind (cs : List Char) :
    ∃ b, (∀ c ∈ b, isWhite c = true) ∧ cs = trimEnd cs ++ b := by
  refine ⟨(cs.reverse.takeWhile isWhite).reverse, fun c hc => ?_, ?_⟩
  · rw [List.mem_reverse] at hc
    exact List.mem_takeWhile_imp hc
  · have h := congrArg List.reverse (List.takeWhile_append_dropWhile (p := isWhite) (l := cs.reverse))
    rw [List.reverse_append, List.reverse_reverse] at h
    exact h.symm

/-- A text is its trimmed form with white space around it. -/
theorem exists_white_around (cs : List Char) :
    ∃ a b, (∀ c ∈ a, isWhite c = true) ∧ (∀ c ∈ b, isWhite c = true) ∧ cs = a ++ trim cs ++ b := by
  obtain ⟨b, hb, hcs⟩ := exists_white_behind (cs.dropWhile isWhite)
  refine ⟨cs.takeWhile isWhite, b, fun c hc => List.mem_takeWhile_imp hc, hb, ?_⟩
  calc cs = cs.takeWhile isWhite ++ cs.dropWhile isWhite := List.takeWhile_append_dropWhile.symm
    _ = cs.takeWhile isWhite ++ (trim cs ++ b) := congrArg _ hcs
    _ = cs.takeWhile isWhite ++ trim cs ++ b := (List.append_assoc _ _ _).symm

theorem trimEnd_append_white (cs : List Char) {b : List Char} (hb : ∀ c ∈ b, isWhite c = true) :
    trimEnd (cs ++ b) = trimEnd cs := by
  unfold trimEnd
  rw [List.reverse_append, List.dropWhile_append_of_pos fun c hc => hb c (List.mem_reverse.1 hc)]

theorem trimEnd_append {cs ds : List Char} (h : trimEnd ds ≠ []) :
    trimEnd (cs ++ ds) = cs ++ trimEnd ds := by
  have hne : ds.reverse.dropWhile isWhite ≠ [] := by
    intro e
    apply h
    unfold trimEnd
    rw [e]
    rfl
  unfold trimEnd
  rw [List.reverse_append, List.dropWhile_append]
  simp [hne]

theorem trimEnd_of_last {cs : List Char} {c : Char} (hc : isWhite c = false) :
    trimEnd (cs ++ [c]) = cs ++ [c] := by
  have h : trimEnd [c] = [c] := by simp [trimEnd, hc]
  rw [trimEnd_append (by rw [h]; simp), h]

/-- Behind a character that is not white only the rest is trimmed. -/
theorem trimEnd_cons {c : Char} (hc : isWhite c = false) (cs : List Char) :
    trimEnd (c :: cs) = c :: trimEnd cs := by
  -- if the rest is all white space, nothing of it is left
  by_cases h : trimEnd cs = []
  · obtain ⟨b, hb, hcs⟩ := exists_white_behind cs
    rw [h, List.nil_append] at hcs
    rw [h, hcs, ← List.singleton_append, trimEnd_append_white [c] hb]
    simp [trimEnd, hc]
  · rw [← List.singleton_append, trimEnd_append h]
    rfl

theorem trimEnd_of_free {cs : List Char} (h : ∀ c ∈ cs, isWhite c = false) :
    trimEnd cs = cs := by
  induction cs with
  | nil => rfl
  | cons c cs ih =>
    rw [trimEnd_cons (h c List.mem_cons_self), ih fun d hd => h d (List.mem_cons_of_mem _ hd)]

theorem trim_cons {c : Char} (hc : isWhite c = false) (cs : List Char) :
    trim (c :: cs) = c :: trimEnd cs := by
  unfold trim
  rw [List.dropWhile_cons_of_neg (by simp [hc]), trimEnd_cons hc]

theorem trim_append_white (cs : List Char) {b : List Char} (hb : ∀ c ∈ b, isWhite c = true) :
    trim (cs ++ b) = trim cs := by
  unfold trim
  rw [List.dropWhile_append]
  split
  · next h =>
    rw [List.isEmpty_iff] at h
    rw [h, List.dropWhile_eq_nil_iff.2 hb]
  · exact trimEnd_append_white _ hb

theorem trim_trimEnd (cs : List Char) : trim (trimEnd cs) = trim cs := by
  obtain ⟨b, hb, hcs⟩ := exists_white_behind cs
  calc trim (trimEnd cs) = trim (trimEnd cs ++ b) := (trim_append_white _ hb).symm
    _ = trim cs := by rw [← hcs]

/-- A text without white space at its ends is trimmed. -/
theorem trim_eq_self {cs : List Char} (hhead : ∀ c, cs.head? = some c → isWhite c = false)
    (hlast : ∀ c, cs.getLast? = some c → isWhite c = false) : trim cs = cs := by
  cases cs with
  | nil => rfl
  | cons c cs =>
    have hdrop : (c :: cs).dropWhile isWhite = c :: cs :=
      List.dropWhile_cons_of_neg (by simp [hhead c rfl])
    unfold trim
    rw [hdrop]
    -- the last character is not white, so nothing is cut there
    obtain ⟨ds, d, hd⟩ : ∃ ds d, c :: cs = ds ++ [d] :=
      ⟨_, _, (List.dropLast_concat_getLast (List.cons_ne_nil c cs)).symm⟩
    rw [hd] at hlast ⊢
    exact trimEnd_of_last (hlast d (by simp))

theorem trim_trim (cs : List Char) : trim (trim cs) = trim cs :=
  trim_eq_self (fun _ h => head?_trim h) fun _ h => getLast?_trim h

theorem trim_of_free {cs : List Char} (h : ∀ c ∈ cs, isWhite c = false) : trim cs = cs :=
  trim_eq_self (fun c hc => h c (List.mem_of_head? hc)) fun c hc => h c (List.mem_of_getLast? hc)

theorem intercalate_ne_nil {s : Char} {w : List Char} (hw : w ≠ []) (ws : List (List Char)) :
    [s].intercalate (w :: ws) ≠ [] := by
  cases ws with
  | nil => simpa using hw
  | cons v ws => simp [List.intercalate_cons_cons]

theorem mem_intercalate {α : Type} {s c : α} {ws : List (List α)} (h : c ∈ [s].intercalate ws) :
    c = s ∨ ∃ w ∈ ws, c ∈ w := by
  induction ws with
  | nil => cases h
  | cons w ws ih =>
    cases ws with
    | nil =>
      rw [List.intercalate_singleton] at h
      exact Or.inr ⟨w, List.mem_cons_self, h⟩
    | cons v ws =>
      rw [List.intercalate_cons_cons, List.append_assoc, List.singleton_append] at h
      rcases List.mem_append.1 h with h | h
      · exact Or.inr ⟨w, List.mem_cons_self, h⟩
      · rcases List.mem_cons.1 h with rfl | h
        · exact Or.inl rfl
        · rcases ih h with rfl | ⟨u, hu, hc⟩
          · exact Or.inl rfl
          · exact Or.inr ⟨u, List.mem_cons_of_mem _ hu, hc⟩

/-- Words with a separator between every two of them start and end with a word. -/
theorem trim_intercalate {s : Char} {ws : List (List Char)}
    (hws : ∀ w ∈ ws, IsWord isWhite w) : trim ([s].intercalate ws) = [s].intercalate ws := by
  -- the last word ends the text
  have hend : trimEnd ([s].intercalate ws) = [s].intercalate ws := by
    induction ws with
    | nil => rfl
    | cons w ws ih =>
      have hw := hws w List.mem_cons_self
      have hrest : ∀ v ∈ ws, IsWord isWhite v := fun v hv => hws v (List.mem_cons_of_mem _ hv)
      cases ws with
      | nil =>
        rw [List.intercalate_singleton]
        exact trimEnd_of_free hw.2
      | cons v ws =>
        have hne := intercalate_ne_nil (s := s) (hrest v List.mem_cons_self).1 ws
        rw [List.intercalate_cons_cons, trimEnd_append (by rw [ih hrest]; exact hne), ih hrest]
  cases hcs : [s].intercalate ws with
  | nil => rfl
  | cons c cs =>
    -- and the first word starts it
    have hc : isWhite c = false := by
      cases ws with
      | nil => cases hcs
      | cons w ws =>
        obtain ⟨hne, hfree⟩ := hws w List.mem_cons_self
        obtain ⟨d, w', rfl⟩ := List.exists_cons_of_ne_nil hne
        have hcd : d = c := by
          cases ws with
          | nil => simpa using (List.cons.inj hcs).1
          | cons v ws =>
            rw [List.intercalate_cons_cons] at hcs
            exact (List.cons.inj hcs).1
        exact hfree c (by simp [hcd])
    rw [hcs, trimEnd_cons hc] at hend
    rw [trim_cons hc, hend]

/-- Trimming leaves the words of a text. -/
theorem words_trim (cs : List Char) : words isWhite (trim cs) = words isWhite cs := by
  obtain ⟨a, b, ha, hb, hcs⟩ := exists_white_around cs
  calc words isWhite (trim cs) = words isWhite (a ++ trim cs) := (words_sep_append ha _).symm
    _ = words isWhite (a ++ trim cs ++ b) := (words_append_seps _ hb).symm
    _ = words isWhite cs := by rw [← hcs]

/-- A text with a visible character is more than white space. -/
theorem trim_ne_nil {cs : List Char} {c : Char} (hmem : c ∈ cs) (hc : isWhite c = false) :
    trim cs ≠ [] := by
  intro hnil
  obtain ⟨a, b, ha, hb, hcs⟩ := exists_white_around cs
  rw [hcs, hnil, List.append_nil] at hmem
  have hwhite : isWhite c = true := by
    rcases List.mem_append.1 hmem with hmem | hmem
    · exact ha c hmem
    · exact hb c hmem
  rw [hc] at hwhite
  cases hwhite

/-- There is nothing to see in a text that is white space throughout. -/
theorem trim_eq_nil_iff {cs : List Char} : trim cs = [] ↔ ∀ c ∈ cs, isWhite c = true := by
  constructor
  · intro h c hc
    by_contra hwhite
    exact trim_ne_nil hc (by simpa using hwhite) h
  · intro h
    exact trim_append_white [] h

theorem mem_of_mem_trim {cs : List Char} {c : Char} (h : c ∈ trim cs) : c ∈ cs := by
  obtain ⟨a, b, -, -, hcs⟩ := exists_white_around cs
  rw [hcs]
  simp [h]

/-! ## §3. Lines. -/

/-- A character that is no ending and no part of one joins the line behind it. -/
theorem lines_cons {c : Char} {cs l : List Char} {ls : List (List Char)} (hlf : c ≠ '\n')
    (hcr : c = '\r' → cs.head? ≠ some '\n') (hcs : lines cs = l :: ls) :
    lines (c :: cs) = (c :: l) :: ls := by
  rw [lines, hcs]
  · exact hlf
  · intro ds hc hds
    apply hcr hc
    rw [hds, List.head?_cons]

/-- A line ends at LF.  A CR right before it would belong to the ending. -/
theorem lines_append_lf {l : List Char} (hl : '\n' ∉ l) (hlast : l.getLast? ≠ some '\r')
    (cs : List Char) : lines (l ++ '\n' :: cs) = l :: lines cs := by
  induction l with
  | nil => rw [List.nil_append, lines]
  | cons c l ih =>
    have hrest : l.getLast? ≠ some '\r' := by
      intro h
      apply hlast
      rw [List.getLast?_cons, h, Option.getD_some]
    apply lines_cons (fun h => hl (by simp [h]))
    · -- a CR is not the last character of the line, so no LF stands behind it
      intro hc
      cases l with
      | nil => simp [hc] at hlast
      | cons d l =>
        intro hd
        exact hl (by simp_all)
    · exact ih (fun h => hl (List.mem_cons_of_mem _ h)) hrest

theorem lines_append_crlf {l : List Char} (hl : '\n' ∉ l) (cs : List Char) :
    lines (l ++ '\r' :: '\n' :: cs) = l :: lines cs := by
  induction l with
  | nil => rw [List.nil_append, lines]
  | cons c l ih =>
    have hlf : '\n' ∉ l := fun h => hl (List.mem_cons_of_mem _ h)
    apply lines_cons (fun h => hl (by simp [h]))
    · intro _ hhead
      cases l with
      | nil => cases hhead
      | cons d l => exact hlf (by simp_all)
    · exact ih hlf

/-- Text without LF is a line of its own, whatever its last character is. -/
theorem lines_unended {l : List Char} (hne : l ≠ []) (hl : '\n' ∉ l) : lines l = [l] := by
  induction l with
  | nil => exact absurd rfl hne
  | cons c l ih =>
    have hlf : '\n' ∉ l := fun h => hl (List.mem_cons_of_mem _ h)
    have hc : c ≠ '\n' := fun h => hl (by simp [h])
    cases l with
    | nil =>
      rw [lines, lines]
      · exact hc
      · intro _ _ h
        cases h
    | cons d l =>
      apply lines_cons hc
      · intro _ hd
        exact hlf (by simp_all)
      · exact ih (List.cons_ne_nil d l) hlf

/-- A text that stops at the end of a line. -/
def Whole (cs : List Char) : Prop := cs = [] ∨ cs.getLast? = some '\n'

instance : DecidablePred Whole := fun cs => inferInstanceAs (Decidable (cs = [] ∨ _))

theorem Whole.tail {c : Char} {cs : List Char} (h : Whole (c :: cs)) : Whole cs := by
  cases cs with
  | nil => exact Or.inl rfl
  | cons d cs =>
    refine Or.inr ?_
    rcases h with h | h
    · cases h
    · rwa [List.getLast?_cons_cons] at h

theorem lines_ne_nil {cs : List Char} (hne : cs ≠ []) : lines cs ≠ [] := by
  fun_cases lines cs with
  | case1 => exact absurd rfl hne
  | case2 | case3 | case4 | case5 => simp

/-- **What follows a text of whole lines begins a line of its own.** -/
theorem lines_append {a : List Char} (ha : Whole a) (b : List Char) :
    lines (a ++ b) = lines a ++ lines b := by
  fun_induction lines a with
  | case1 => rfl
  | case2 cs ih => rw [List.cons_append, lines, ih ha.tail, List.cons_append]
  | case3 cs ih =>
    rw [List.cons_append, List.cons_append, lines, ih ha.tail.tail, List.cons_append]
  | case4 c cs hlf hcr hnone ih =>
    -- nothing follows the character, so the text would stop at a LF
    obtain rfl : cs = [] := by_contra fun hne => lines_ne_nil hne hnone
    rcases ha with ha | ha
    · cases ha
    · exact absurd (Option.some.inj ha) hlf
  | case5 c cs hlf hcr l ls heq ih =>
    have hne : cs ≠ [] := by
      rintro rfl
      cases heq
    rw [List.cons_append, lines, ih ha.tail, heq, List.cons_append]
    · rfl
    · exact hlf
    · -- a CR that stands before a LF does so in the first text
      intro ds hc hds
      obtain ⟨d, ds', rfl⟩ := List.exists_cons_of_ne_nil hne
      exact hcr ds' hc (by rw [(List.cons.inj hds).1])

theorem not_mem_of_plain {l : List Char} (hl : ∀ c ∈ l, c ≠ '\n' ∧ c ≠ '\r') :
    '\n' ∉ l ∧ '\r' ∉ l :=
  ⟨fun h => (hl _ h).1 rfl, fun h => (hl _ h).2 rfl⟩

/-- Lines that end at LF read back. -/
theorem lines_lf {ls : List (List Char)} (hls : ∀ l ∈ ls, ∀ c ∈ l, c ≠ '\n' ∧ c ≠ '\r') :
    lines (ls.flatMap (· ++ ['\n'])) = ls := by
  induction ls with
  | nil => rw [List.flatMap_nil, lines]
  | cons l ls ih =>
    obtain ⟨hlf, hcr⟩ := not_mem_of_plain (hls l List.mem_cons_self)
    rw [List.flatMap_cons, List.append_assoc, List.singleton_append,
      lines_append_lf hlf fun h => hcr (List.mem_of_getLast? h),
      ih fun m hm => hls m (List.mem_cons_of_mem _ hm)]

/-- Lines that end at CR LF read back. -/
theorem lines_crlf {ls : List (List Char)} (hls : ∀ l ∈ ls, ∀ c ∈ l, c ≠ '\n' ∧ c ≠ '\r') :
    lines (ls.flatMap (· ++ ['\r', '\n'])) = ls := by
  induction ls with
  | nil => rw [List.flatMap_nil, lines]
  | cons l ls ih =>
    rw [List.flatMap_cons, List.append_assoc, List.cons_append, List.singleton_append,
      lines_append_crlf (not_mem_of_plain (hls l List.mem_cons_self)).1,
      ih fun m hm => hls m (List.mem_cons_of_mem _ hm)]

end Lineup.Text
