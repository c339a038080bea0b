/-
  Lineup.Net.Ipv4
  ───────────────
  **IPv4 ADDRESSES.**  Four octets, written in decimal with dots.  Reading is
  strict: four parts of one to three digits, none above 255 and none with a
  leading zero, and nothing around them.

  Main statement: the written form of an address reads back
  (`ofString?_toString`).
-/
import Lineup.Text.Split
import Lineup.Text.Decimal

namespace Lineup

open Text

/-- An IPv4 address by its octets, the most significant first. -/
structure Ipv4 where
  /-- The first octet. -/
  a : UInt8
  /-- The second octet. -/
  b : UInt8
  /-- The third octet. -/
  c : UInt8
  /-- The fourth octet. -/
  d : UInt8
  deriving DecidableEq, Repr

namespace Ipv4

/-! ## §1. Value and class. -/

/-- The address as a 32-bit number. -/
def value (ip : Ipv4) : Nat :=
  ((ip.a.toNat * 256 + ip.b.toNat) * 256 + ip.c.toNat) * 256 + ip.d.toNat

/-- Addresses from 224.0.0.0 to 239.255.255.255 name groups of receivers. -/
def isMulticast (ip : Ipv4) : Bool := 224 ≤ ip.a && ip.a ≤ 239

/-! ## §2. Written form. -/

/-- An octet: one to three digits, no leading zero, at most 255. -/
def octet? (cs : List Char) : Option UInt8 :=
  if cs.length ≤ 3 ∧ (cs.head? ≠ some '0' ∨ cs.length = 1) then
    (digits? UInt8.size cs).map UInt8.ofNat
  else none

/-- The address that a text writes. -/
def ofChars? (cs : List Char) : Option Ipv4 :=
  match pieces (· == '.') cs with
  | [a, b, c, d] => do return ⟨← octet? a, ← octet? b, ← octet? c, ← octet? d⟩
  | _ => none

/-- The address that a string writes. -/
def ofString? (s : String) : Option Ipv4 := ofChars? s.toList

/-- The dotted decimal form. -/
protected def toString (ip : Ipv4) : String :=
  decimal ip.a.toNat ++ "." ++ decimal ip.b.toNat ++ "." ++ decimal ip.c.toNat ++ "."
    ++ decimal ip.d.toNat

instance : ToString Ipv4 := ⟨Ipv4.toString⟩

/-! ## §3. Round trip. -/

theorem octet?_toDigits (x : UInt8) : octet? (Nat.toDigits 10 x.toNat) = some x := by
  have h : ∀ n : Fin 256, octet? (Nat.toDigits 10 n.val) = some (UInt8.ofNat n.val) := by
    decide +kernel
  simpa using h ⟨x.toNat, x.toNat_lt⟩

theorem not_dot_of_mem_toDigits {n : Nat} {c : Char} (h : c ∈ Nat.toDigits 10 n) :
    (c == '.') = false := by
  have := Nat.isDigit_of_mem_toDigits (by decide) (by decide) h
  rw [beq_eq_false_iff_ne]
  rintro rfl
  exact absurd this (by decide)

theorem ofString?_toString (ip : Ipv4) : ofString? (toString ip) = some ip := by
  have hp : pieces (· == '.') (toString ip).toList
      = [Nat.toDigits 10 ip.a.toNat, Nat.toDigits 10 ip.b.toNat,
         Nat.toDigits 10 ip.c.toNat, Nat.toDigits 10 ip.d.toNat] := by
    have h (n : Nat) : ∀ c ∈ Nat.toDigits 10 n, (fun c => c == '.') c = false :=
      fun c hc => not_dot_of_mem_toDigits hc
    show pieces (· == '.') (Ipv4.toString ip).toList = _
    simp only [Ipv4.toString, String.toList_append, toList_decimal]
    simp only [String.reduceToList, List.append_assoc, List.cons_append, List.nil_append]
    rw [pieces_append (h _) (by rfl), pieces_append (h _) (by rfl),
      pieces_append (h _) (by rfl), pieces_eq_singleton (h _)]
  simp [ofString?, ofChars?, hp, octet?_toDigits]

end Ipv4

end Lineup
