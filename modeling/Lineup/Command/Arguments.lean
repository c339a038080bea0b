/-
  Lineup.Command.Arguments
  ────────────────────────
  **THE COMMAND LINE.**  General options come first, then one command with its
  own options and operands:

      [-c PATH] [-l LEVEL] check FILE
      [-c PATH] [-l LEVEL] show DB [--json]
      [-c PATH] [-l LEVEL] lookup DB [--identity TOKEN | --addr IP --port N]
      [-c PATH] [-l LEVEL] update LIVE CANDIDATE [--write]
      [-c PATH] [-l LEVEL] render DB

  The value of an option stands behind it as the next argument, which then must
  not start with a dash, or in the same argument behind an equals sign; a short
  option also takes it without one.  Behind `--` all arguments are operands.
  Every option may be given once.
-/
import Lineup.Net.Ipv4

namespace Lineup.Command

open Text

/-! ## §1. What is asked for. -/

/-- What a channel is looked up by. -/
inductive Wanted where
  /-- A token that names an identity. -/
  | identity (token : String)
  /-- An address and port of its own. -/
  | dest (addr : Ipv4) (port : UInt16)
  /-- Nothing was said. -/
  | nothing
  deriving DecidableEq, Repr

/-- A command with its files. -/
inductive Task where
  /-- Tell for every session of a document whether it is a channel. -/
  | check (file : String)
  /-- List the channels of a configuration. -/
  | list (db : String) (json : Bool)
  /-- Print one channel of a configuration. -/
  | lookup (db : String) (wanted : Wanted)
  /-- Replace a configuration with a document. -/
  | update (live candidate : String) (write : Bool)
  /-- Print a configuration in its canonical form. -/
  | render (db : String)
  deriving DecidableEq, Repr

/-- A command with the general options. -/
structure Invocation where
  /-- Where the settings are. -/
  config : Option String
  /-- How much is logged, whatever the settings say. -/
  logLevel : Option String
  /-- The command. -/
  task : Task
  deriving DecidableEq, Repr

/-- What the arguments of the program ask for. -/
inductive Request where
  /-- A command. -/
  | run (invocation : Invocation)
  /-- Help on the command line. -/
  | help
  /-- The version of the program. -/
  | version
  /-- Nothing; the arguments are wrong. -/
  | wrong
  deriving DecidableEq, Repr

/-! ## §2. Options and operands. -/

/-- What can be the value of an option. -/
inductive ValueKind where
  /-- The option has no value. -/
  | none
  /-- Any text. -/
  | any
  /-- A path, which is not empty. -/
  | path
  /-- An address. -/
  | address
  /-- A port. -/
  | port
  deriving DecidableEq, Repr

/-- A port, with or without a sign. -/
def portOf? (s : String) : Option UInt16 :=
  match s.toList with
  | '-' :: cs => (digits? 1 cs).map UInt16.ofNat
  | cs => uint16? cs

/-- Whether a text can be a value. -/
def ValueKind.accepts : ValueKind → String → Bool
  | none, _ => false
  | any, _ => true
  | path, s => s != ""
  | address, s => (Ipv4.ofString? s).isSome
  | port, s => (portOf? s).isSome

/-- An option. -/
structure OptionRule where
  /-- Its long name, behind two dashes. -/
  long : String
  /-- Its short name, behind one dash. -/
  short : Option Char
  /-- What can be its value. -/
  kind : ValueKind
  deriving DecidableEq, Repr

/-- What the arguments of a command may be. -/
structure Usage where
  /-- The options. -/
  options : List OptionRule
  /-- How many operands there are, all of them paths. -/
  operands : Nat
  /-- Whether a command follows in place of operands. -/
  leadsOn : Bool
  deriving DecidableEq, Repr

/-- What was found among arguments. -/
structure Given where
  /-- The options by their long names, with their values. -/
  options : List (String × String)
  /-- The operands, in order. -/
  operands : List String
  /-- The command that follows, with its arguments. -/
  command : Option (String × List String)
  deriving DecidableEq, Repr

namespace Given

/-- Nothing was found. -/
def nothing : Given := ⟨[], [], none⟩

/-- The value of an option. -/
def value? (g : Given) (long : String) : Option String := g.options.lookup long

/-- Whether an option was found. -/
def has (g : Given) (long : String) : Bool := (g.value? long).isSome

end Given

/-- Why arguments are not read to their end. -/
inductive Stop where
  /-- Help is asked for. -/
  | help
  /-- The version is asked for. -/
  | version
  /-- An argument is wrong. -/
  | wrong
  deriving DecidableEq, Repr

/-- What a reader of one argument finds: more of what is given, and the option
whose value comes next. -/
abbrev Found := Except Stop (Given × Option OptionRule)

namespace Usage

/-- An option with its value. -/
def setOption (rule : OptionRule) (value : String) (g : Given) : Found :=
  if g.has rule.long ∨ rule.kind.accepts value = false then .error .wrong
  else .ok ({ g with options := g.options ++ [(rule.long, value)] }, none)

/-- An option without a value. -/
def setFlag (rule : OptionRule) (g : Given) : Found :=
  if g.has rule.long then .error .wrong
  else .ok ({ g with options := g.options ++ [(rule.long, "")] }, none)

/-- An option by its long name, with the value behind an equals sign. -/
def readLong (u : Usage) (g : Given) (body : List Char) : Found :=
  let (name, value) := match cut (· == '=') body with
    | some (name, value) => (String.ofList name, some (String.ofList value))
    | none => (String.ofList body, none)
  if name = "help" then .error (if value.isSome then .wrong else .help)
  else if name = "version" ∧ u.leadsOn then .error (if value.isSome then .wrong else .version)
  else
    match u.options.find? (·.long == name), value with
    | none, _ => .error .wrong
    | some rule, some value => setOption rule value g
    | some rule, none => if rule.kind = .none then setFlag rule g else .ok (g, some rule)

/-- An option by its short name, with the value right behind it. -/
def readShort (u : Usage) (g : Given) (c : Char) (value : List Char) : Found :=
  if c = 'h' then .error .help
  else if c = 'V' ∧ u.leadsOn then .error .version
  else
    match u.options.find? (·.short == some c), value with
    | none, _ => .error .wrong
    | some rule, [] => .ok (g, some rule)
    | some rule, '=' :: value => setOption rule (.ofList value) g
    | some rule, value => setOption rule (.ofList value) g

/-- An operand. -/
def readOperand (u : Usage) (g : Given) (s : String) : Found :=
  if g.operands.length < u.operands ∧ s ≠ "" then
    .ok ({ g with operands := g.operands ++ [s] }, none)
  else .error .wrong

/-- Reads arguments. `pending` is the option whose value comes next, and
`onlyOperands` holds behind `--`. -/
def read (u : Usage) (pending : Option OptionRule) (onlyOperands : Bool) (g : Given) :
    List String → Except Stop Given
  | [] => if pending.isSome then .error .wrong else .ok g
  | arg :: args =>
    match pending, onlyOperands, arg.toList with
    -- a value must not look like an option
    | some _, _, '-' :: _ :: _ => .error .wrong
    | some rule, _, _ => do
      let (g, pending) ← setOption rule arg g
      u.read pending onlyOperands g args
    | none, false, ['-', '-'] => u.read none true g args
    | none, false, '-' :: '-' :: body => do
      let (g, pending) ← u.readLong g body
      u.read pending false g args
    | none, false, '-' :: c :: value => do
      let (g, pending) ← u.readShort g c value
      u.read pending false g args
    | none, _, _ =>
      -- the rest of the arguments is read by the rules of the command
      if u.leadsOn ∧ onlyOperands = false then .ok { g with command := some (arg, args) }
      else do
        let (g, pending) ← u.readOperand g arg
        u.read pending onlyOperands g args

end Usage

/-! ## §3. Commands. -/

/-- The general options. -/
def generalUsage : Usage where
  options := [⟨"config", some 'c', .path⟩, ⟨"log-level", some 'l', .any⟩]
  operands := 0
  leadsOn := true

/-- The options and operands of a command. -/
def usageOf? (command : String) : Option Usage :=
  [("check", ⟨[], 1, false⟩),
    ("show", ⟨[⟨"json", none, .none⟩], 1, false⟩),
    ("lookup", ⟨[⟨"identity", none, .any⟩, ⟨"addr", none, .address⟩, ⟨"port", none, .port⟩], 1,
      false⟩),
    ("update", ⟨[⟨"write", none, .none⟩], 2, false⟩),
    ("render", ⟨[], 1, false⟩)].lookup command

/-- What a channel is looked up by. An identity excludes an address, and an
address and a port need each other. -/
def Given.wanted? (g : Given) : Option Wanted :=
  match g.value? "identity", g.value? "addr", g.value? "port" with
  | some token, none, none => some (.identity token)
  | none, some addr, some port => do
    return .dest (← Ipv4.ofString? addr) (← portOf? port)
  | none, none, none => some .nothing
  | _, _, _ => none

/-- The command that was given. -/
def Given.task? (g : Given) (command : String) : Option Task :=
  match command, g.operands with
  | "check", [file] => some (.check file)
  | "show", [db] => some (.list db (g.has "json"))
  | "lookup", [db] => g.wanted?.map (.lookup db)
  | "update", [live, candidate] => some (.update live candidate (g.has "write"))
  | "render", [db] => some (.render db)
  | _, _ => none

/-- What the arguments of a command ask for. -/
def readTask (command : String) (args : List String) : Except Stop Task :=
  if command = "help" then
    .error (match args with
      | [] => .help
      | [topic] => if (usageOf? topic).isSome ∨ topic = "help" then .help else .wrong
      | _ => .wrong)
  else
    match usageOf? command with
    | none => .error .wrong
    | some usage => do
      let g ← usage.read none false .nothing args
      match g.task? command with
      | some task => .ok task
      | none => .error .wrong

/-- The command and the general options that arguments ask for. -/
def readInvocation (args : List String) : Except Stop Invocation := do
  let g ← generalUsage.read none false .nothing args
  match g.command with
  | none => .error .wrong
  | some (command, args) =>
    return ⟨g.value? "config", g.value? "log-level", ← readTask command args⟩

/-- What the arguments of the program ask for. -/
def Request.ofArguments (args : List String) : Request :=
  match readInvocation args with
  | .ok invocation => .run invocation
  | .error .help => .help
  | .error .version => .version
  | .error .wrong => .wrong

end Lineup.Command
