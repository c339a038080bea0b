/-
  Lineup.Data.Basic
  ─────────────────
  **STRUCTURED DATA.**  The values that a configuration file or a JSON text can
  hold, and how a typed value is taken out of them:

      a record   — fields by name, in any order; unknown fields do not matter,
                   and a field that may be null may also be missing
      a list     — stands for a record when it gives every field in order
      a name     — stands for a case of an enumeration

  Formats differ in what they take for a case and for a list of settings.
  Taking a value out either succeeds or does not; why it failed is not told.
-/

namespace Lineup

/-- A value of a configuration file or of a JSON text. -/
inductive Data where
  /-- No value. -/
  | null
  /-- True or false. -/
  | bool (b : Bool)
  /-- A whole number. -/
  | int (n : Int)
  /-- A number with a fraction or an exponent, as it was written. -/
  | real (text : String)
  /-- A text. -/
  | text (s : String)
  /-- Values in order. -/
  | list (items : List Data)
  /-- Values by name, in order. -/
  | record (fields : List (String × Data))
  deriving Inhabited, Repr

namespace Data

/-! ## §1. Plain values. -/

/-- The text of a text. -/
def text? : Data → Option String
  | text s => some s
  | _ => none

/-- The truth value of a truth value. -/
def bool? : Data → Option Bool
  | bool b => some b
  | _ => none

/-- A whole number from 0 up to, but not including, a bound. -/
def nat? (bound : Nat) : Data → Option Nat
  | int n => if 0 ≤ n ∧ n < bound then some n.toNat else none
  | _ => none

/-- A number of 8 bits. -/
def uint8? (d : Data) : Option UInt8 := (d.nat? UInt8.size).map UInt8.ofNat

/-- A number of 16 bits. -/
def uint16? (d : Data) : Option UInt16 := (d.nat? UInt16.size).map UInt16.ofNat

/-- A number of 32 bits. -/
def uint32? (d : Data) : Option UInt32 := (d.nat? UInt32.size).map UInt32.ofNat

/-- A number of 64 bits. -/
def uint64? (d : Data) : Option UInt64 := (d.nat? UInt64.size).map UInt64.ofNat

/-- The items of a list, each taken out in the same way. -/
def listOf? (item? : Data → Option α) : Data → Option (List α)
  | list items => items.mapM item?
  | _ => none

/-- A value that may be null. -/
def orNull? (item? : Data → Option α) : Data → Option (Option α)
  | null => some none
  | d => (item? d).map some

/-! ## §2. Formats. -/

/-- What a format takes for something else. -/
structure Format where
  /-- Whether a value counts as nothing, behind the name of a case that carries
  nothing. -/
  isNothing : Data → Bool
  /-- Whether a list that stands for settings may go on behind the last one. -/
  surplus : Bool

/-- In JSON only null is nothing. -/
def Format.json : Format where
  isNothing
    | null => true
    | _ => false
  surplus := false

/-- Where the fields of a record stand among those of the record that holds it,
an empty record is nothing as well. -/
def Format.spread : Format where
  isNothing
    | null | record [] => true
    | _ => false
  surplus := false

/-- A configuration file has no null: an empty record or an empty list is
nothing. -/
def Format.configuration : Format where
  isNothing
    | record [] | list [] => true
    | _ => false
  surplus := true

/-! ## §3. Enumerations and records. -/

/-- The case of an enumeration that a name stands for. A record with that name
alone, over nothing, stands for it too. -/
def case? (format : Format) (cases : List (String × α)) : Data → Option α
  | text s => cases.lookup s
  | record [(s, d)] => if format.isNothing d then cases.lookup s else none
  | _ => none

/-- The fields of a record, by name. A list with one item for every name counts
as a record. -/
def members? (names : List String) : Data → Option (List (String × Data))
  | record fields => some fields
  | list items => if items.length = names.length then some (names.zip items) else none
  | _ => none

/-- The fields of a record in which every field has a default. A list that
gives the first few fields counts as a record. -/
def settings? (format : Format) (names : List String) : Data → Option (List (String × Data))
  | record fields => some fields
  | list items =>
    if format.surplus ∨ items.length ≤ names.length then some (names.zip items) else none
  | _ => none

/-- The fields of a record that a list cannot stand for. -/
def fields? : Data → Option (List (String × Data))
  | record fields => some fields
  | _ => none

/-- A field that has to be there. -/
def required? (fields : List (String × Data)) (name : String) (item? : Data → Option α) :
    Option α :=
  (fields.lookup name).bind item?

/-- A field that may be null or missing. -/
def optional? (fields : List (String × Data)) (name : String) (item? : Data → Option α) :
    Option (Option α) :=
  match fields.lookup name with
  | none => some none
  | some d => d.orNull? item?

/-- A field that has a default when it is missing. -/
def setting? (fields : List (String × Data)) (name : String) (default : α)
    (item? : Data → Option α) : Option α :=
  match fields.lookup name with
  | none => some default
  | some d => item? d

/-! ## §4. Writing. -/

/-- A natural number. -/
def nat (n : Nat) : Data := .int n

/-- A value, or null for none. -/
def orNull (f : α → Data) : Option α → Data
  | none => null
  | some a => f a

/-- The name of a case of an enumeration; null for a case without a name. -/
def ofCase [BEq α] (cases : List (String × α)) (a : α) : Data :=
  match cases.find? (·.2 == a) with
  | some (name, _) => text name
  | none => null

/-- A list of values. -/
def ofList (f : α → Data) (items : List α) : Data := list (items.map f)

/-- The fields of two records one after the other. -/
def append : Data → Data → Data
  | record a, record b => record (a ++ b)
  | a, _ => a

end Data

end Lineup
