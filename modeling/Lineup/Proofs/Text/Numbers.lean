/-
  Lineup.Proofs.Text.Numbers
  ──────────────────────────
  **NUMBERS AND ADDRESSES READ BACK.**  The decimal text of a number is a word of
  digits, so no separator of a line cuts it, and every reader of numbers gives the
  number back.  The dotted form of an address is a word as well, and no other text
  is read as that address (`Ipv4.ofString?_eq_some_iff`).
-/
import Lineup.Proofs.Text.Words
import Lineup.Net.Ipv4

namespace Lineup.Text

/-! ## §1. Digits and letters. -/

/-- White space stands below and above the printable characters of ASCII. -/
theorem isWhite_of_printable {c : Char} (h : 32 < c.toNat ∧ c.toNat < 127) : isWhite c = false := by
  simp only [isWhite, Bool.or_eq_false_iff, Bool.and_eq_false_iff, decide_eq_false_iff_not,
    beq_eq_false_iff_ne]
  omega

theorem isWhite_of_isDigit {c : Char} (h : c.isDigit = true) : isWhite c = false := by
  have hv : (decide (48 ≤ c.toNat) && decide (c.toNat ≤ 57)) = true := h
  rw [Bool.and_eq_true, decide_eq_true_eq, decide_eq_true_eq] at hv
  exact isWhite_of_printable (by omega)

theorem isWhite_of_isUpper {c : Char} (h : c.isUpper = true) : isWhite c = false := by
  have hv : 65 ≤ c.toNat ∧ c.toNat ≤ 90 := of_decide_eq_true h
  exact isWhite_of_printable (by omega)

theorem isWhite_of_isLower {c : Char} (h : c.isLower = true) : isWhite c = false := by
  have hv : (decide (97 ≤ c.toNat) && decide (c.toNat ≤ 122)) = true := h
  rw [Bool.and_eq_true, decide_eq_true_eq, decide_eq_true_eq] at hv
  exact isWhite_of_printable (by omega)

theorem ne_of_isDigit {c d : Char} (h : c.isDigit = true) (hd : d.isDigit = false) : c ≠ d := by
  rintro rfl
  rw [h] at hd
  cases hd

theorem isDigit_of_mem_decimal {n : Nat} {c : Char} (h : c ∈ (decimal n).toList) :
    c.isDigit = true := by
  rw [toList_decimal] at h
  exact Nat.isDigit_of_mem_toDigits (by decide) (by decide) h

theorem decimal_ne_nil (n : Nat) : (decimal n).toList ≠ [] := by
  rw [toList_decimal]
  exact Nat.toDigits_ne_nil

/-- A decimal text is a word wherever digits do not separate. -/
theorem isWord_decimal {sep : Char → Bool} (hsep : ∀ c, c.isDigit = true → sep c = false)
    (n : Nat) : IsWord sep (decimal n).toList :=
  ⟨decimal_ne_nil n, fun _ hc => hsep _ (isDigit_of_mem_decimal hc)⟩

/-! ## §2. Reading numbers. -/

theorem number?_decimal {bound n : Nat} (h : n < bound) :
    number? bound (decimal n).toList = some n := by
  unfold number?
  -- a decimal text has no sign
  split
  · next cs heq =>
    have hplus : '+' ∈ (decimal n).toList := by
      rw [heq]
      exact List.mem_cons_self
    exact absurd (isDigit_of_mem_decimal hplus) (by decide)
  · exact digits?_repr h

theorem digits16?_decimal (n : UInt16) : digits16? (decimal n.toNat).toList = some n := by
  simp [digits16?, digits?_repr n.toNat_lt_size]

theorem digits64?_decimal (n : UInt64) : digits64? (decimal n.toNat).toList = some n := by
  simp [digits64?, digits?_repr n.toNat_lt_size]

theorem uint8?_decimal (n : UInt8) : uint8? (decimal n.toNat).toList = some n := by
  simp [uint8?, number?_decimal n.toNat_lt_size]

theorem uint16?_decimal (n : UInt16) : uint16? (decimal n.toNat).toList = some n := by
  simp [uint16?, number?_decimal n.toNat_lt_size]

theorem uint32?_decimal (n : UInt32) : uint32? (decimal n.toNat).toList = some n := by
  simp [uint32?, number?_decimal n.toNat_lt_size]

/-- A number of 64 bits has at most twenty digits. -/
theorem length_decimal_le (n : UInt64) : (decimal n.toNat).toList.length ≤ 20 := by
  rw [toList_decimal, Nat.length_toDigits_le_iff (by decide) (by decide)]
  have h := n.toNat_lt
  omega

/-! ## §3. Addresses. -/

theorem mem_toList_ipv4 {ip : Ipv4} {c : Char} (h : c ∈ (toString ip).toList) :
    c.isDigit = true ∨ c = '.' := by
  have h' : c ∈ (Ipv4.toString ip).toList := h
  simp only [Ipv4.toString, String.toList_append, List.mem_append] at h'
  rcases h' with (((((h | h) | h) | h) | h) | h) | h
  · exact Or.inl (isDigit_of_mem_decimal h)
  · exact Or.inr (by simpa using h)
  · exact Or.inl (isDigit_of_mem_decimal h)
  · exact Or.inr (by simpa using h)
  · exact Or.inl (isDigit_of_mem_decimal h)
  · exact Or.inr (by simpa using h)
  · exact Or.inl (isDigit_of_mem_decimal h)

theorem ipv4_ne_nil (ip : Ipv4) : (toString ip).toList ≠ [] := by
  show (Ipv4.toString ip).toList ≠ []
  simp only [Ipv4.toString, String.toList_append]
  simp

/-- The text of an address is a word wherever neither digits nor dots separate. -/
theorem isWord_ipv4 {sep : Char → Bool} (hsep : ∀ c, c.isDigit = true → sep c = false)
    (hdot : sep '.' = false) (ip : Ipv4) : IsWord sep (toString ip).toList := by
  refine ⟨ipv4_ne_nil ip, fun c hc => ?_⟩
  rcases mem_toList_ipv4 hc with h | rfl
  · exact hsep c h
  · exact hdot

end Lineup.Text

namespace Lineup

open Text

/-! ## §4. The one form of an address. -/

theorem digitChar_of_isDigit {c : Char} (hc : c.isDigit = true) :
    c.toNat - '0'.toNat < 10 ∧ (c.toNat - '0'.toNat).digitChar = c := by
  have hv : (decide (48 ≤ c.toNat) && decide (c.toNat ≤ 57)) = true := hc
  rw [Bool.and_eq_true, decide_eq_true_eq, decide_eq_true_eq] at hv
  have hall : ∀ d : Fin 10, (d.val.digitChar).toNat = 48 + d.val := by decide
  have hlt : c.toNat - '0'.toNat < 10 := by
    show c.toNat - 48 < 10
    omega
  refine ⟨hlt, ?_⟩
  apply Char.toNat_inj.1
  rw [hall ⟨_, hlt⟩]
  show 48 + (c.toNat - 48) = c.toNat
  omega

/-- Digits behind a number that is not zero are the digits behind its own. -/
theorem toDigits_ofDigitChars_pos {cs : List Char} (hcs : ∀ c ∈ cs, c.isDigit = true) :
    ∀ n, 0 < n → Nat.toDigits 10 (Nat.ofDigitChars 10 cs n) = Nat.toDigits 10 n ++ cs := by
  induction cs with
  | nil =>
    intro n _
    rw [Nat.ofDigitChars_nil, List.append_nil]
  | cons c cs ih =>
    intro n hn
    obtain ⟨hlt, hchar⟩ := digitChar_of_isDigit (hcs c List.mem_cons_self)
    rw [Nat.ofDigitChars_cons, ih (fun d hd => hcs d (List.mem_cons_of_mem _ hd)) _ (by omega),
      ← Nat.toDigits_append_toDigits (by decide) hn hlt, Nat.toDigits_of_lt_base hlt, hchar,
      List.append_assoc, List.singleton_append]

/-- Digits without a leading zero are what their number is written with; a zero alone is no
leading zero. -/
theorem toDigits_ofDigitChars {cs : List Char} (hne : cs ≠ []) (hcs : ∀ c ∈ cs, c.isDigit = true)
    (hzero : cs.head? ≠ some '0' ∨ cs.length = 1) :
    Nat.toDigits 10 (Nat.ofDigitChars 10 cs 0) = cs := by
  cases cs with
  | nil => exact absurd rfl hne
  | cons c cs =>
    obtain ⟨hlt, hchar⟩ := digitChar_of_isDigit (hcs c List.mem_cons_self)
    have hfirst : Nat.toDigits 10 (c.toNat - '0'.toNat) = [c] := by
      rw [Nat.toDigits_of_lt_base hlt, hchar]
    rw [Nat.ofDigitChars_cons, Nat.mul_zero, Nat.zero_add]
    rcases hzero with hhead | hlen
    · have hpos : 0 < c.toNat - '0'.toNat := by
        apply Nat.pos_of_ne_zero
        intro h
        rw [h] at hchar
        exact hhead (by rw [List.head?_cons, ← hchar]; rfl)
      rw [toDigits_ofDigitChars_pos (fun d hd => hcs d (List.mem_cons_of_mem _ hd)) _ hpos, hfirst]
      rfl
    · obtain rfl : cs = [] := List.length_eq_zero_iff.1 (by simpa using hlen)
      rw [Nat.ofDigitChars_nil, hfirst]

namespace Ipv4

theorem octet?_eq_some {cs : List Char} {x : UInt8} (h : octet? cs = some x) :
    cs = Nat.toDigits 10 x.toNat := by
  unfold octet? at h
  split at h
  · next hform =>
    obtain ⟨n, hn, rfl⟩ := Option.map_eq_some_iff.1 h
    have hlt := digits?_lt hn
    unfold digits? at hn
    split at hn
    · next hdigits =>
      obtain rfl := Option.some.inj hn
      rw [UInt8.toNat_ofNat_of_lt' hlt,
        toDigits_ofDigitChars hdigits.1 (List.all_eq_true.1 hdigits.2.1) hform.2]
    · cases hn
  · cases h

/-- **An address is written in one way only**: what reads as an address is its dotted form. -/
theorem ofString?_eq_some_iff {s : String} {ip : Ipv4} :
    ofString? s = some ip ↔ s = toString ip := by
  constructor
  · intro h
    have hpieces := intercalate_pieces '.' s.toList
    unfold ofString? ofChars? at h
    split at h
    · next a b c d heq =>
      simp only [Option.bind_eq_bind, Option.bind_eq_some_iff, Option.pure_def,
        Option.some.injEq] at h
      obtain ⟨w, hw, x, hx, y, hy, z, hz, rfl⟩ := h
      rw [heq, octet?_eq_some hw, octet?_eq_some hx, octet?_eq_some hy, octet?_eq_some hz] at hpieces
      apply String.toList_inj.1
      rw [← hpieces]
      show _ = (Ipv4.toString ⟨w, x, y, z⟩).toList
      simp [Ipv4.toString, toList_decimal, List.intercalate_cons_cons]
    · cases h
  · intro h
    rw [h]
    exact ofString?_toString ip

end Ipv4

end Lineup
