/-
  Lineup.Toml.Table
  ─────────────────
  **TABLES OF A TOML DOCUMENT.**  A document grows table by table.  How a table
  came to be decides what may still be added to it:

      opened   — by a header of its own; a dotted key cannot reach into it, and
                 no second header can open it
      implied  — by the header of a table inside it; a header may still open it
      dotted   — by a dotted key; further dotted keys may add to it, but no
                 header can open it

  A list of tables takes in whatever is meant for its last table.
-/
import Lineup.Data.Basic

namespace Lineup.Toml

/-- How a table came to be. -/
inductive TableKind where
  /-- By a header of its own. -/
  | opened
  /-- By the header of a table inside it. -/
  | implied
  /-- By a dotted key. -/
  | dotted
  deriving DecidableEq, Repr

/-- What a key of a table stands for. -/
inductive Node where
  /-- A value, to which nothing can be added. -/
  | value (d : Data)
  /-- A table. -/
  | table (kind : TableKind) (entries : List (String × Node))
  /-- A list of tables. -/
  | tables (items : List (List (String × Node)))

/-- The keys of a table with what they stand for, in order. -/
abbrev Entries := List (String × Node)

/-- Entries in which what a key stands for is changed, or set if the key is
new. -/
def alter (key : String) (f : Option Node → Option Node) : Entries → Option Entries
  | [] => (f none).map fun node => [(key, node)]
  | (k, node) :: rest =>
    if k = key then (f (some node)).map fun node => (k, node) :: rest
    else (alter key f rest).map fun rest => (k, node) :: rest

/-- A list whose last item is changed. -/
def alterLast (f : α → Option α) : List α → Option (List α)
  | [] => none
  | [a] => (f a).map fun a => [a]
  | a :: rest => (alterLast f rest).map (a :: ·)

/-! ## §1. Keys. -/

/-- Entries with one more key, which is new. -/
def putHere (key : String) (d : Data) : Entries → Option Entries :=
  alter key fun
    | none => some (.value d)
    | some _ => none

/-- Entries with one more key at the end of a dotted path. `open?` says whether
the table at hand may take the key itself. -/
def put (key : String) (d : Data) : List String → Bool → Entries → Option Entries
  | [], isOpen, es => if isOpen then putHere key d es else none
  | p :: path, _, es =>
    alter p (fun
      | none => (put key d path true []).map (.table .dotted)
      -- a table with a header of its own is closed to dotted keys
      | some (.table .opened _) => none
      -- an implied table may be passed through, but takes no key itself
      | some (.table .implied es) => (put key d path false es).map (.table .implied)
      | some (.table .dotted es) => (put key d path true es).map (.table .dotted)
      | some (.tables items) => (alterLast (put key d path false) items).map .tables
      | some (.value _) => none) es

/-! ## §2. Headers. -/

/-- Entries in which the table at the end of a path of headers is changed.
Tables on the way that are missing are implied. -/
def within (f : Entries → Option Entries) : List String → Entries → Option Entries
  | [], es => f es
  | p :: path, es =>
    alter p (fun
      | none => (within f path []).map (.table .implied)
      | some (.table kind es) => (within f path es).map (.table kind)
      | some (.tables items) => (alterLast (within f path) items).map .tables
      | some (.value _) => none) es

/-- Entries with a table opened by a header. -/
def openTable (parents : List String) (key : String) : Entries → Option Entries :=
  within (alter key fun
    | none => some (.table .opened [])
    -- the header of the outer table comes after that of the inner one
    | some (.table .implied es) => some (.table .opened es)
    | some _ => none) parents

/-- Entries with one more table in a list of tables. -/
def openItem (parents : List String) (key : String) : Entries → Option Entries :=
  within (alter key fun
    | none => some (.tables [[]])
    | some (.tables items) => some (.tables (items ++ [[]]))
    | some _ => none) parents

/-! ## §3. Structured data. -/

mutual

/-- The value of a node. -/
def Node.toData : Node → Data
  | .value d => d
  | .table _ entries => .record (entriesData entries)
  | .tables items => .list (itemsData items)

/-- The values of entries. -/
def entriesData : List (String × Node) → List (String × Data)
  | [] => []
  | (key, node) :: rest => (key, node.toData) :: entriesData rest

/-- The values of tables in a list. -/
def itemsData : List (List (String × Node)) → List Data
  | [] => []
  | entries :: rest => .record (entriesData entries) :: itemsData rest

end

end Lineup.Toml
