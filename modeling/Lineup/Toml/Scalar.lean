/-
  Lineup.Toml.Scalar
  ──────────────────
  **TOML VALUES THAT ARE A SINGLE WORD.**  Truth values, whole numbers, numbers
  with a fraction, dates and times are each written without blanks (only a date
  and its time may have one space between them), so a word is classified as a
  whole:

      true  -17  0xff_ff  6.02e23  inf  1979-05-27T07:32:00Z

  An underscore may stand between two digits.
-/
import Lineup.Data.Basic
import Lineup.Text.Split
import Lineup.Text.Decimal
import Lineup.Time.Instant

namespace Lineup.Toml

open Text

/-! ## §1. Whole numbers. -/

/-- The digits of a number in which single underscores may stand between
digits. -/
def grouped? (isDigit : Char → Bool) (cs : List Char) : Option (List Char) :=
  let groups := pieces (· == '_') cs
  if groups.all fun g => !g.isEmpty && g.all isDigit then some groups.flatten else none

/-- The digits of a decimal number, which has no zero in front. -/
def decimalDigits? (cs : List Char) : Option (List Char) := do
  let ds ← grouped? Char.isDigit cs
  if ds.length = 1 ∨ ds.head? ≠ some '0' then some ds else none

/-- A text without its sign, and whether the sign is a minus. -/
def signed : List Char → Bool × List Char
  | '-' :: cs => (true, cs)
  | '+' :: cs => (false, cs)
  | cs => (false, cs)

/-- The value of a hexadecimal digit. -/
def hexDigit? (c : Char) : Option Nat :=
  if c.isDigit then some (c.toNat - '0'.toNat)
  else if 'a' ≤ c ∧ c ≤ 'f' then some (c.toNat - 'a'.toNat + 10)
  else if 'A' ≤ c ∧ c ≤ 'F' then some (c.toNat - 'A'.toNat + 10)
  else none

/-- Whether a character is a digit of a number system up to the hexadecimal. -/
def isDigitOf (base : Nat) (c : Char) : Bool := (hexDigit? c).any (· < base)

/-- The number that digits of a number system stand for. -/
def ofDigits (base : Nat) (ds : List Char) : Nat :=
  ds.foldl (fun n c => base * n + (hexDigit? c).getD 0) 0

/-- A number of another number system. It has no sign. -/
def based? (base : Nat) (cs : List Char) : Option Int :=
  (grouped? (isDigitOf base) cs).map fun ds => (ofDigits base ds : Int)

/-- A whole number of any size. -/
def anyInteger? (cs : List Char) : Option Int :=
  match cs with
  | '0' :: 'x' :: ds => based? 16 ds
  | '0' :: 'o' :: ds => based? 8 ds
  | '0' :: 'b' :: ds => based? 2 ds
  | cs =>
    let (negative, ds) := signed cs
    (decimalDigits? ds).map fun ds =>
      if negative then -(ofDigits 10 ds : Int) else (ofDigits 10 ds : Int)

/-- A whole number, which fits in 64 bits with its sign. -/
def integer? (cs : List Char) : Option Int :=
  (anyInteger? cs).filter fun n => decide (Int64.minValue.toInt ≤ n ∧ n ≤ Int64.maxValue.toInt)

/-! ## §2. Numbers with a fraction. -/

/-- The least number that is too large for a floating-point number of 64 bits:
halfway from the largest one to the next power of two. -/
def floatLimit : Nat := 1 <<< 1024 - 1 <<< 970

/-- Whether digits with a decimal exponent reach the limit. The number of
digits settles all cases but those near the limit. -/
def overflows (ds : List Char) (exponent : Int) : Bool :=
  let digits := ds.dropWhile (· == '0')
  let n := ofDigits 10 digits
  let size := digits.length + exponent
  if digits.isEmpty then false
  else if size < 300 then false
  else if 310 < size then true
  else if 0 ≤ exponent then floatLimit ≤ n * Nat.pow 10 exponent.toNat
  else floatLimit * Nat.pow 10 exponent.natAbs ≤ n

/-- The exponent of a number. -/
def exponent? (cs : List Char) : Option Int :=
  let (negative, ds) := signed cs
  (grouped? Char.isDigit ds).map fun ds =>
    if negative then -(ofDigits 10 ds : Int) else (ofDigits 10 ds : Int)

/-- The whole digits and the digits of the fraction; at least one of fraction
and exponent has to be there. -/
def mantissa? (needsFraction : Bool) (cs : List Char) : Option (List Char × List Char) :=
  match cut (· == '.') cs with
  | some (whole, fraction) => do
    return (← decimalDigits? whole, ← grouped? Char.isDigit fraction)
  | none => if needsFraction then none else (decimalDigits? cs).map fun ds => (ds, [])

/-- Whether a text is a number with a fraction or an exponent, small enough, or
the name of a special one. -/
def isFloat (cs : List Char) : Bool :=
  let (negative, body) := signed cs
  if body = "inf".toList ∨ body = "nan".toList then true
  else
    let read : Option (List Char × Int) :=
      match cut (fun c => c == 'e' || c == 'E') body with
      | some (m, e) => do
        let (whole, fraction) ← mantissa? false m
        return (whole ++ fraction, (← exponent? e) - fraction.length)
      | none => do
        let (whole, fraction) ← mantissa? true body
        return (whole ++ fraction, -(fraction.length : Int))
    read.any fun (ds, e) => negative || !overflows ds e

/-! ## §3. Dates and times. -/

/-- A number of exactly so many digits, within limits. -/
def fixed? (width low high : Nat) (cs : List Char) : Option Nat :=
  if cs.length = width ∧ cs.all Char.isDigit ∧ low ≤ ofDigits 10 cs ∧ ofDigits 10 cs ≤ high then
    some (ofDigits 10 cs)
  else none

/-- Whether a year has a leap day. -/
def isLeapYear (year : Nat) : Bool := year % 4 == 0 && (year % 100 != 0 || year % 400 == 0)

/-- How many days a month has. -/
def daysIn (year month : Nat) : Nat :=
  if month = 2 then if isLeapYear year then 29 else 28
  else if month = 4 ∨ month = 6 ∨ month = 9 ∨ month = 11 then 30
  else 31

/-- Whether a text is a date. -/
def isDate (cs : List Char) : Bool :=
  match pieces (· == '-') cs with
  | [y, m, d] =>
    match fixed? 4 0 9999 y, fixed? 2 1 12 m with
    | some year, some month => (fixed? 2 1 (daysIn year month) d).isSome
    | _, _ => false
  | _ => false

/-- Whether a text is the seconds of a time, with or without a fraction. -/
def isSeconds (cs : List Char) : Bool :=
  match cut (· == '.') cs with
  | some (s, fraction) =>
    (fixed? 2 0 60 s).isSome && !fraction.isEmpty && fraction.all Char.isDigit
  | none => (fixed? 2 0 60 cs).isSome

/-- Whether a text is a time of day. -/
def isTime (cs : List Char) : Bool :=
  match pieces (· == ':') cs with
  | [h, m, s] => (fixed? 2 0 23 h).isSome && (fixed? 2 0 59 m).isSome && isSeconds s
  | _ => false

/-- Whether a text is a distance from universal time without its sign. -/
def isOffset (cs : List Char) : Bool :=
  match pieces (· == ':') cs with
  | [h, m] => (fixed? 2 0 23 h).isSome && (fixed? 2 0 59 m).isSome
  | _ => false

/-- Whether a text is a time of day, with or without a distance from universal
time. -/
def isZonedTime (cs : List Char) : Bool :=
  match cut (fun c => c == '+' || c == '-') cs with
  | some (time, offset) => isTime time && isOffset offset
  | none =>
    match cs.getLast? with
    | some c => if c = 'Z' ∨ c = 'z' then isTime cs.dropLast else isTime cs
    | none => false

/-- Whether a text is a date, a time, or both with a letter in between. -/
def isDateTime (cs : List Char) : Bool :=
  match cut (fun c => c == 'T' || c == 't') cs with
  | some (date, time) => isDate date && isZonedTime time
  | none => isDate cs || isTime cs

/-! ## §4. Words. -/

/-- Whether a character can belong to a word. -/
def isWordChar (c : Char) : Bool :=
  c.isAlphanum || c == '+' || c == '-' || c == '_' || c == '.' || c == ':'

/-- A date or time. It has no form of its own in structured data, and stands
there as a record. -/
def momentData (cs : List Char) : Data := .record [("moment", .text (.ofList cs))]

/-- The value of a word. -/
def wordValue? (cs : List Char) : Option Data :=
  if cs = "true".toList then some (.bool true)
  else if cs = "false".toList then some (.bool false)
  else match integer? cs with
    | some n => some (.int n)
    | none =>
      if isFloat cs then some (.real (.ofList cs))
      else if isDateTime cs then some (momentData cs)
      else none

/-- Reads a word, or a date and a time with a space in between. -/
def word? (cs : List Char) : Option (Data × List Char) :=
  let word := cs.takeWhile isWordChar
  let rest := cs.dropWhile isWordChar
  match rest with
  | ' ' :: more =>
    let time := more.takeWhile isWordChar
    if isDate word && isZonedTime time then
      some (momentData (word ++ ' ' :: time), more.dropWhile isWordChar)
    else (wordValue? word).map fun d => (d, rest)
  | _ => (wordValue? word).map fun d => (d, rest)

end Lineup.Toml
