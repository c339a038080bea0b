/-
  Lineup.Text.Decimal
  ───────────────────
  **DECIMAL NUMBERS IN TEXT.**  Every number is a non-empty run of ASCII digits
  below a bound.  Leading zeros are fine.  The fields of a line take digits
  only; values inside attributes also take one plus sign in front.

  Main statements: what is read is below the bound (`digits?_lt`), and the
  decimal text of a number reads back (`digits?_repr`).
-/

namespace Lineup.Text

/-! ## §1. Digits below a bound. -/

/-- The number that a non-empty run of digits stands for, if it is below
`bound`. -/
def digits? (bound : Nat) (cs : List Char) : Option Nat :=
  if cs ≠ [] ∧ cs.all Char.isDigit ∧ Nat.ofDigitChars 10 cs 0 < bound then
    some (Nat.ofDigitChars 10 cs 0)
  else none

/-- A number with at most one plus sign in front. -/
def number? (bound : Nat) : List Char → Option Nat
  | '+' :: cs => digits? bound cs
  | cs => digits? bound cs

theorem digits?_lt {bound n : Nat} {cs : List Char} (h : digits? bound cs = some n) :
    n < bound := by
  unfold digits? at h
  split at h
  · next hc => cases h; exact hc.2.2
  · cases h

theorem digits?_toDigits {bound n : Nat} (h : n < bound) :
    digits? bound (Nat.toDigits 10 n) = some n := by
  have hd : (Nat.toDigits 10 n).all Char.isDigit = true :=
    List.all_eq_true.2 fun c hc => Nat.isDigit_of_mem_toDigits (by decide) (by decide) hc
  have hv : Nat.ofDigitChars 10 (Nat.toDigits 10 n) 0 = n :=
    Nat.ofDigitChars_toDigits (by decide) (by decide)
  have hn : Nat.toDigits 10 n ≠ [] := Nat.toDigits_ne_nil
  simp only [digits?, hd, hv, hn, h, ne_eq, not_false_eq_true, and_self, if_true]

/-! ## §2. Numbers of a fixed width. -/

/-- Plain digits that fit in 16 bits. -/
def digits16? (cs : List Char) : Option UInt16 := (digits? UInt16.size cs).map UInt16.ofNat

/-- Plain digits that fit in 64 bits. -/
def digits64? (cs : List Char) : Option UInt64 := (digits? UInt64.size cs).map UInt64.ofNat

/-- A number, with or without a plus sign, that fits in 8 bits. -/
def uint8? (cs : List Char) : Option UInt8 := (number? UInt8.size cs).map UInt8.ofNat

/-- A number, with or without a plus sign, that fits in 16 bits. -/
def uint16? (cs : List Char) : Option UInt16 := (number? UInt16.size cs).map UInt16.ofNat

/-- A number, with or without a plus sign, that fits in 32 bits. -/
def uint32? (cs : List Char) : Option UInt32 := (number? UInt32.size cs).map UInt32.ofNat

/-! ## §3. Writing. -/

/-- The decimal text of a number. -/
def decimal (n : Nat) : String := n.repr

theorem toList_decimal (n : Nat) : (decimal n).toList = Nat.toDigits 10 n := by
  simp [decimal, Nat.repr_eq_ofList_toDigits]

theorem digits?_repr {bound n : Nat} (h : n < bound) :
    digits? bound (decimal n).toList = some n := by
  rw [toList_decimal]; exact digits?_toDigits h

end Lineup.Text
