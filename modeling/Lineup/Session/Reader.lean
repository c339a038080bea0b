/-
  Lineup.Session.Reader
  ─────────────────────
  **READING SESSIONS.**  A text is read line by line into a draft.  The draft
  knows how far the session has come, and so which lines may follow:

      start ──v=── versioned ──o=── announced ──s=── header ──m=── media
                                                     │    ↑         │  ↑
                                                     └────┘         └──┘
                                                  i c b t a       i c b a m

  A line that may not follow, or whose value has the wrong form, ends the
  reading with the number of that line.  Lines for which a session has no use
  (`u e p k r z`) are passed over.
-/
import Lineup.Session.Field
import Lineup.Session.Error

namespace Lineup

open Text

/-! ## §1. One line. -/

/-- Whether a character takes part in a line ending. -/
def isEnding (c : Char) : Bool := c == '\r' || c == '\n'

/-- Reads the first line of a text, and gives the text after its endings. A
line is a lower-case letter, an equals sign, and a value up to LF, CR LF or the
end; a CR anywhere else in it is refused. The value is trimmed. -/
def Line.read? : List Char → Option (Line × List Char)
  | key :: '=' :: cs =>
    let value := cs.takeWhile (!isEnding ·)
    let rest := cs.dropWhile (!isEnding ·)
    -- a CR is part of an ending only in front of LF
    let endsWell := match rest with
      | '\r' :: '\n' :: _ => true
      | '\r' :: _ => false
      | _ => true
    if key.isLower && endsWell then
      some (⟨key, .ofList (trim value)⟩, rest.dropWhile isEnding)
    else none
  | _ => none

/-- The lines of a text that are not blank, trimmed, and numbered from 1. -/
def numberedLines (cs : List Char) : List (List Char × Nat) :=
  (((lines cs).map trim).zipIdx 1).filter fun (l, _) => !l.isEmpty

/-! ## §2. Sections. -/

/-- Keys of lines that are passed over. -/
def Line.isIdle (l : Line) : Bool := l.key ∈ ['u', 'e', 'p', 'k', 'r', 'z']

/-- A reading that succeeds, or is refused as an invalid value. -/
def Line.field (l : Line) (n : Nat) (value : Option α) : Except SyntaxError α :=
  match value with
  | some a => .ok a
  | none => .error (.invalidField l.key n l.value)

/-- Adds line `n` to a section. Of several information lines the last counts,
and of several connections; bandwidths and attributes are kept in order. -/
def Section.add (n : Nat) (s : Section) (l : Line) : Except SyntaxError Section :=
  match l.key with
  | 'i' => .ok { s with information := some l.value }
  | 'c' => do
    let c ← l.field n (Connection.ofChars? l.value.toList)
    return { s with connection := some c }
  | 'b' => do
    let b ← l.field n (Bandwidth.ofChars? l.value.toList)
    return { s with bandwidths := s.bandwidths ++ [b] }
  | 'a' => do
    let a ← l.field n (Attribute.ofChars? l.value.toList)
    return { s with attributes := s.attributes ++ [a] }
  | key =>
    if l.isIdle then .ok s
    else .error (.malformedLine n ("unknown line type '" ++ key.toString ++ "'"))

/-! ## §3. The draft of a session. -/

/-- How far the reading of a session has come. -/
inductive Draft where
  /-- No line yet. -/
  | start
  /-- The version was read. -/
  | versioned
  /-- The origin was read. -/
  | announced (origin : Origin)
  /-- The name was read; lines of the session's own section may follow. -/
  | header (origin : Origin) (name : String) (timing : Option Timing) (body : Section)
  /-- A media stream was begun; `done` are the ones before it. -/
  | media (origin : Origin) (name : String) (timing : Timing) (body : Section)
      (done : List Media) (current : Media)
  deriving DecidableEq, Repr

namespace Draft

/-- Adds line `n` to a draft. -/
def add (n : Nat) (d : Draft) (l : Line) : Except SyntaxError Draft :=
  match l.key, d with
  | 'v', start =>
    if l.value = "0" then .ok versioned else .error (.unsupportedVersion l.value)
  | 'v', _ => .error (.outOfOrder 'v' n .versionFirst)
  | 'o', versioned => do
    return announced (← l.field n (Origin.ofChars? l.value.toList))
  | 'o', _ => .error (.outOfOrder 'o' n .originSecond)
  | 's', announced origin => .ok (header origin l.value none .empty)
  | 's', _ => .error (.outOfOrder 's' n .nameThird)
  -- the first timing counts; later ones only need the right form
  | 't', header origin name timing body => do
    let t ← l.field n (Timing.ofChars? l.value.toList)
    return header origin name (timing <|> some t) body
  | 't', media .. => .error (.outOfOrder 't' n .timingBeforeMedia)
  | 'm', header origin name (some timing) body => do
    let m ← l.field n (Media.ofChars? l.value.toList)
    return media origin name timing body [] m
  | 'm', header _ _ none _ => .error (.outOfOrder 'm' n .timingBeforeMedia)
  | 'm', media origin name timing body done current => do
    let m ← l.field n (Media.ofChars? l.value.toList)
    return media origin name timing body (done ++ [current]) m
  -- all other keys belong to a section, which decides whether it knows them
  | _, header origin name timing body => do
    return header origin name timing (← body.add n l)
  | _, media origin name timing body done current => do
    let body' ← current.body.add n l
    return media origin name timing body done { current with body := body' }
  -- before the name even an unknown key is a matter of order
  | key, _ => .error (.outOfOrder key n .headFirst)

/-- Adds the text of line `n` to a draft. -/
def read (d : Draft) (line : List Char × Nat) : Except SyntaxError Draft :=
  match Line.read? line.1 with
  | some (l, _) => d.add line.2 l
  | none => .error (.malformedLine line.2 (.ofList line.1))

/-- The session that a draft has become, once no line is left. -/
def finish : Draft → Except SyntaxError Session
  | start => .error .empty
  | versioned => .error (.missingField 'o')
  | announced _ => .error (.missingField 's')
  | header _ _ none _ => .error (.missingField 't')
  | header origin name (some timing) body => .ok ⟨"0", origin, name, timing, body, []⟩
  | media origin name timing body done current =>
    .ok ⟨"0", origin, name, timing, body, done ++ [current]⟩

end Draft

/-- The session that a text describes. -/
def Session.ofText (text : String) : Except SyntaxError Session := do
  let draft ← (numberedLines text.toList).foldlM Draft.read .start
  draft.finish

end Lineup
