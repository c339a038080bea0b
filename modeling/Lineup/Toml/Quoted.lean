/-
  Lineup.Toml.Quoted
  ──────────────────
  **QUOTED TEXT IN TOML.**  Four forms, by quote and by number of quotes:

      "…"        escapes, one line
      '…'        no escapes, one line
      triple "   escapes, many lines; a backslash at the end of a line joins
                 it with the next character that is not white
      triple '   no escapes, many lines

  Of the control characters only the tab may stand in a text as it is.
-/
import Lineup.Toml.Scalar
import Lineup.Text.White

namespace Lineup.Toml

open Text

/-- Whether a character may stand in a text, or a comment, as it is. -/
def isPlain (c : Char) : Bool := c == '\t' || (0x20 ≤ c.toNat && c.toNat != 0x7F)

/-- The character with a hexadecimal number, if there is one. -/
def hexChar? (cs : List Char) : Option Char :=
  let n := ofDigits 16 cs
  if cs.all (isDigitOf 16) ∧ n.isValidChar then some (Char.ofNat n) else none

/-- The character that a letter behind a backslash stands for. -/
def letterChar? (c : Char) : Option Char :=
  [('b', '\x08'), ('t', '\t'), ('n', '\n'), ('f', '\x0c'), ('r', '\r'), ('"', '"'),
    ('\\', '\\')].lookup c

/-- How many digits follow a letter behind a backslash. -/
def escapeDigits (c : Char) : Nat :=
  if c = 'u' then 4 else if c = 'U' then 8 else 0

/-- A read text with one more character in front. -/
def push (c : Char) (r : Option (List Char × List Char)) : Option (List Char × List Char) :=
  r.map fun (text, rest) => (c :: text, rest)

/-! ## §1. One line. -/

/-- Reads the rest of a text with escapes. `pending` holds how many digits of an
escape are still to come, and those that came. -/
def basic (pending : Nat × List Char) : List Char → Option (List Char × List Char)
  | [] => none
  | c :: cs =>
    match pending with
    | (n + 1, ds) =>
      if n = 0 then (hexChar? (ds ++ [c])).bind fun d => push d (basic (0, []) cs)
      else basic (n, ds ++ [c]) cs
    | (0, _) =>
      if c = '"' then some ([], cs)
      else if c = '\\' then
        match cs with
        | e :: cs =>
          if escapeDigits e ≠ 0 then basic (escapeDigits e, []) cs
          else (letterChar? e).bind fun d => push d (basic (0, []) cs)
        | [] => none
      else if isPlain c then push c (basic (0, []) cs)
      else none

/-- Reads the rest of a text without escapes. -/
def literal : List Char → Option (List Char × List Char)
  | [] => none
  | c :: cs =>
    if c = '\'' then some ([], cs)
    else if isPlain c then push c (literal cs)
    else none

/-! ## §2. Many lines. -/

/-- The end of a text of many lines: three quotes, and up to two more in front
of them that belong to the text. -/
def closing? (quote : Char) (cs : List Char) : Option (List Char × List Char) :=
  let n := min (cs.takeWhile (· == quote)).length 5
  if n < 3 then none else some (List.replicate (n - 3) quote, cs.drop n)

/-- Whether nothing but blanks follows on this line. -/
def endsLine (cs : List Char) : Bool :=
  match cs.dropWhile isBlank with
  | '\n' :: _ => true
  | '\r' :: '\n' :: _ => true
  | _ => false

/-- Reads the rest of a text of many lines. With `escapes`, `pending` is as in
one line, and `joining` holds behind a backslash at the end of a line. -/
def multiline (quote : Char) (escapes joining : Bool) (pending : Nat × List Char) :
    List Char → Option (List Char × List Char)
  | [] => none
  | c :: cs =>
    match pending with
    | (n + 1, ds) =>
      if n = 0 then
        (hexChar? (ds ++ [c])).bind fun d =>
          push d (multiline quote escapes false (0, []) cs)
      else multiline quote escapes false (n, ds ++ [c]) cs
    | (0, _) =>
      if c = quote then
        match closing? quote (c :: cs) with
        | some done => some done
        | none => push c (multiline quote escapes false (0, []) cs)
      else if c = '\n' then
        if joining then multiline quote escapes true (0, []) cs
        else push '\n' (multiline quote escapes false (0, []) cs)
      else if c = '\r' then
        -- CR LF counts as LF; a CR alone may not stand in a text
        if cs.head? = some '\n' then multiline quote escapes joining (0, []) cs else none
      else if joining ∧ isBlank c then multiline quote escapes true (0, []) cs
      else if c = '\\' ∧ escapes then
        if endsLine cs then multiline quote escapes true (0, []) cs
        else match cs with
          | e :: cs =>
            if escapeDigits e ≠ 0 then multiline quote escapes false (escapeDigits e, []) cs
            else (letterChar? e).bind fun d =>
              push d (multiline quote escapes false (0, []) cs)
          | [] => none
      else if isPlain c then push c (multiline quote escapes false (0, []) cs)
      else none

/-- A text without the line ending it starts with. -/
def dropLineEnd : List Char → List Char
  | '\n' :: cs => cs
  | '\r' :: '\n' :: cs => cs
  | cs => cs

/-! ## §3. Any form. -/

/-- Reads a quoted text of one line, from its quote on. -/
def quotedLine? : List Char → Option (List Char × List Char)
  | '"' :: cs => basic (0, []) cs
  | '\'' :: cs => literal cs
  | _ => none

/-- Reads a quoted text of any form, from its quotes on. -/
def quoted? : List Char → Option (List Char × List Char)
  | '"' :: '"' :: '"' :: cs => multiline '"' true false (0, []) (dropLineEnd cs)
  | '\'' :: '\'' :: '\'' :: cs => multiline '\'' false false (0, []) (dropLineEnd cs)
  | cs => quotedLine? cs

end Lineup.Toml
