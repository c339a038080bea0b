/-
  Lineup.Text.White
  ─────────────────
  **WHITE SPACE.**  Two classes matter in session text:

      isWhite  — every character with the Unicode property White_Space; it
                 ends a token and is trimmed from both ends of a line
      isBlank  — space and tab, the only separators between the fields of a
                 line

  Main statements: a blank is white (`isWhite_of_isBlank`), and what `trim`
  leaves has a white character at neither end (`head?_trim`, `getLast?_trim`).
-/

namespace Lineup.Text

/-! ## §1. The two classes. -/

/-- A character with the Unicode property White_Space. -/
def isWhite (c : Char) : Bool :=
  let n := c.toNat
  (9 ≤ n && n ≤ 13) || n == 0x20 || n == 0x85 || n == 0xA0 || n == 0x1680
    || (0x2000 ≤ n && n ≤ 0x200A) || n == 0x2028 || n == 0x2029 || n == 0x202F
    || n == 0x205F || n == 0x3000

/-- A space or a tab. -/
def isBlank (c : Char) : Bool := c == ' ' || c == '\t'

theorem isWhite_of_isBlank {c : Char} (h : isBlank c = true) : isWhite c = true := by
  simp only [isBlank, Bool.or_eq_true, beq_iff_eq] at h
  rcases h with rfl | rfl <;> rfl

/-! ## §2. Trimming. -/

/-- A text without the white characters at its end. -/
def trimEnd (cs : List Char) : List Char := (cs.reverse.dropWhile isWhite).reverse

/-- A text without the white characters at either end. -/
def trim (cs : List Char) : List Char := trimEnd (cs.dropWhile isWhite)

/-- A string without the white characters at either end. -/
def trimmed (s : String) : String := String.ofList (trim s.toList)

theorem getLast?_trimEnd {cs : List Char} {c : Char} (h : (trimEnd cs).getLast? = some c) :
    isWhite c = false := by
  have h' : (cs.reverse.dropWhile isWhite).head? = some c := by
    simpa [trimEnd, List.getLast?_reverse] using h
  have := List.head?_dropWhile_not isWhite cs.reverse
  rw [h'] at this
  simpa using this

theorem trimEnd_prefix (cs : List Char) : trimEnd cs <+: cs := by
  have h : cs.reverse.dropWhile isWhite <:+ cs.reverse := List.dropWhile_suffix isWhite
  have := List.reverse_prefix.2 h
  simpa [trimEnd] using this

theorem head?_trim {cs : List Char} {c : Char} (h : (trim cs).head? = some c) :
    isWhite c = false := by
  obtain ⟨t, ht⟩ := trimEnd_prefix (cs.dropWhile isWhite)
  have hd := List.head?_dropWhile_not isWhite cs
  have hh : (cs.dropWhile isWhite).head? = some c := by
    rw [← ht, List.head?_append]
    simp only [trim] at h
    rw [h]; rfl
  rw [hh] at hd
  simpa using hd

theorem getLast?_trim {cs : List Char} {c : Char} (h : (trim cs).getLast? = some c) :
    isWhite c = false :=
  getLast?_trimEnd h

end Lineup.Text
