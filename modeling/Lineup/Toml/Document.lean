/-
  Lineup.Toml.Document
  ────────────────────
  **TOML DOCUMENTS.**  A document is a sequence of lines, each a key with its
  value, a header, a comment or blank; only a value may go on over several
  lines.  The result is the record of its top table.

  Values may be nested, and keys dotted, only so deep; this bounds the recursion
  of the reader as well.
-/
import Lineup.Toml.Table
import Lineup.Toml.Quoted

namespace Lineup.Toml

open Text

/-! ## §1. Blanks, comments and line ends. -/

/-- A text without the blanks it starts with. -/
def skipBlanks (cs : List Char) : List Char := cs.dropWhile isBlank

/-- What follows the end of a line, where nothing but blanks and a comment may
come before that end. -/
def lineEnd? (cs : List Char) : Option (List Char) :=
  let cs := skipBlanks cs
  let cs := match cs with
    | '#' :: cs => cs.dropWhile isPlain
    | cs => cs
  match cs with
  | [] => some []
  | '\n' :: cs => some cs
  | '\r' :: '\n' :: cs => some cs
  | _ => none

/-- What follows blanks, line ends and comments. -/
def skipFiller (inComment : Bool) : List Char → Option (List Char)
  | [] => some []
  | '\n' :: cs => skipFiller false cs
  | '\r' :: '\n' :: cs => skipFiller false cs
  | c :: cs =>
    if inComment then if isPlain c then skipFiller true cs else none
    else if isBlank c then skipFiller false cs
    else if c = '#' then skipFiller true cs
    else some (c :: cs)

/-! ## §2. Keys. -/

/-- The most parts a dotted key may have. -/
def maxKeyParts : Nat := 79

/-- Whether a character may stand in a key without quotes. -/
def isKeyChar (c : Char) : Bool := c.isAlphanum || c == '_' || c == '-'

/-- Reads one part of a key. -/
def keyPart? (cs : List Char) : Option (String × List Char) :=
  match quotedLine? cs with
  | some (key, rest) => some (.ofList key, rest)
  | none =>
    let key := cs.takeWhile isKeyChar
    if key.isEmpty then none else some (.ofList key, cs.dropWhile isKeyChar)

/-- Reads a key of at most so many parts, with the blanks around them. -/
def keyPath? : Nat → List Char → Option (List String × List Char)
  | 0, _ => none
  | n + 1, cs => do
    let (part, rest) ← keyPart? (skipBlanks cs)
    match skipBlanks rest with
    | '.' :: rest =>
      let (parts, rest) ← keyPath? n rest
      return (part :: parts, rest)
    | rest => return ([part], rest)

/-- Reads a key: the path to its table, and the key itself. -/
def key? (cs : List Char) : Option ((List String × String) × List Char) := do
  let (parts, rest) ← keyPath? maxKeyParts cs
  let key ← parts.getLast?
  return ((parts.dropLast, key), rest)

/-! ## §3. Values. -/

/-- A reader of values. -/
abbrev Reader := List Char → Option (Data × List Char)

/-- Reads at most so many items of a list, up to its closing bracket. -/
def items? (value? : Reader) : Nat → List Char → Option (List Data × List Char)
  | 0, _ => none
  | n + 1, cs => do
    match ← skipFiller false cs with
    | ']' :: rest => return ([], rest)
    | cs =>
      let (d, cs) ← value? cs
      match ← skipFiller false cs with
      | ']' :: rest => return ([d], rest)
      | ',' :: cs =>
        let (ds, rest) ← items? value? n cs
        return (d :: ds, rest)
      | _ => none

/-- Reads a key and its value, with the blanks around them. -/
def pair? (value? : Reader) (cs : List Char) :
    Option (((List String × String) × Data) × List Char) := do
  let (key, cs) ← key? cs
  match cs with
  | '=' :: cs =>
    let (d, cs) ← value? (skipBlanks cs)
    return ((key, d), skipBlanks cs)
  | _ => none

/-- Reads at most so many fields of a table written in one line, up to its
closing brace, and adds them to the fields before. -/
def fields? (value? : Reader) : Nat → Entries → List Char → Option (Entries × List Char)
  | 0, _, _ => none
  | n + 1, es, cs => do
    let (((path, key), d), cs) ← pair? value? cs
    let es ← put key d path true es
    match cs with
    | '\x7d' :: rest => return (es, rest)
    | ',' :: cs => fields? value? n es cs
    | _ => none

/-- How deep lists and tables may be nested in a value. -/
def maxDepth : Nat := 79

/-- Reads a value that is neither a list nor a table. -/
def plainValue? (cs : List Char) : Option (Data × List Char) :=
  match cs with
  | '"' :: _ => (quoted? cs).map fun (s, rest) => (.text (.ofList s), rest)
  | '\'' :: _ => (quoted? cs).map fun (s, rest) => (.text (.ofList s), rest)
  | _ => word? cs

/-- Reads a value that is nested at most so deep. -/
def value? : Nat → Reader
  | 0, cs => plainValue? cs
  | depth + 1, cs =>
    match cs with
    | '[' :: rest => (items? (value? depth) cs.length rest).map fun (ds, rest) => (.list ds, rest)
    | '\x7b' :: rest =>
      match skipBlanks rest with
      | '\x7d' :: rest => some (.record [], rest)
      | rest =>
        (fields? (value? depth) cs.length [] rest).map fun (es, rest) =>
          (.record (entriesData es), rest)
    | _ => plainValue? cs

/-! ## §4. Lines. -/

/-- A document as far as it was read. -/
structure Progress where
  /-- The top table. -/
  top : Entries
  /-- The header that keys belong to. -/
  header : List String

/-- Reads a header behind its opening brackets, up to the end of its line. -/
def header? (brackets : List Char) (cs : List Char) :
    Option ((List String × String) × List Char) := do
  let (path, cs) ← key? cs
  if brackets.isPrefixOf cs then
    return (path, ← lineEnd? (cs.drop brackets.length))
  else none

/-- Reads one line that is not blank. -/
def line? (p : Progress) (cs : List Char) : Option (Progress × List Char) :=
  match cs with
  | '[' :: '[' :: cs => do
    let ((parents, key), rest) ← header? [']', ']'] cs
    return (⟨← openItem parents key p.top, parents ++ [key]⟩, rest)
  | '[' :: cs => do
    let ((parents, key), rest) ← header? [']'] cs
    return (⟨← openTable parents key p.top, parents ++ [key]⟩, rest)
  | cs => do
    let (((path, key), d), rest) ← pair? (value? maxDepth) cs
    -- keys belong to the last header, or to the top table before any
    let top ← within (put key d path true) p.header p.top
    return (⟨top, p.header⟩, ← lineEnd? rest)

/-- Reads at most so many lines, up to the end of the text. -/
def lines? : Nat → Progress → List Char → Option Entries
  | 0, _, _ => none
  | n + 1, p, cs =>
    match skipBlanks cs with
    | [] => some p.top
    | cs =>
      match lineEnd? cs with
      | some rest => lines? n p rest
      | none => do
        let (p, rest) ← line? p cs
        lines? n p rest

/-- A text without the byte order mark it starts with. -/
def dropMark : List Char → List Char
  | '\ufeff' :: cs => cs
  | cs => cs

/-- The record of a document, if it is one. -/
def read? (s : String) : Option Data :=
  let cs := dropMark s.toList
  (lines? (cs.length + 1) ⟨[], []⟩ cs).map fun es => .record (entriesData es)

end Lineup.Toml
