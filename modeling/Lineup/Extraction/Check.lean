/-
  Lineup.Extraction.Check
  ───────────────────────
  **CHECKS THAT TAKE NOTES.**  A check either refuses, for one reason, or
  yields a value together with what it noticed on the way.  Notes of two checks
  in a row stand in the order of the checks; a refusal drops all notes.

  Main statements: the monad laws (`LawfulMonad Check`), and what it takes for
  two checks in a row to pass (`bind_eq_passed_iff`).
-/
import Lineup.Channel.Error

namespace Lineup

open Text

/-! ## §1. What can be noticed. -/

/-- Something noticed in a session that is accepted all the same. -/
inductive Warning where
  /-- A multicast stream has no source filter. -/
  | missingSourceFilter (stream : StreamKind)
  /-- Feedback was to be reflected, and is summarised instead. -/
  | reflectionDowngraded
  /-- The time packets are kept for repair was not given. -/
  | rtxTimeDefaulted (ms : UInt32)
  /-- A report is to be smaller than its header. -/
  | runLengthClamped (stream : StreamKind) (token : String)
  /-- A statistic is not supported. -/
  | statFlagMasked (stream : StreamKind) (flag : String)
  /-- A report is not available on a stream. -/
  | xrTokenMasked (stream : StreamKind) (token : String)
  /-- A report is unknown. -/
  | xrTokenIgnored (stream : StreamKind) (token : String)
  deriving DecidableEq, Repr

/-- The wording of a note. -/
def Warning.message : Warning → String
  | missingSourceFilter stream => stream.word ++ " stream has no source filter"
  | reflectionDowngraded => "rtcp-unicast reflection is not supported, using rsi"
  | rtxTimeDefaulted ms =>
    "retransmission fmtp has no rtx-time, using " ++ decimal ms.toNat ++ " ms"
  | runLengthClamped stream token =>
    stream.word ++ " stream: " ++ token ++ " smaller than the report header, using 0"
  | statFlagMasked stream flag =>
    stream.word ++ " stream: unsupported stat-summary flag " ++ flag ++ " masked"
  | xrTokenMasked stream token =>
    stream.word ++ " stream: rtcp-xr " ++ token ++ " not applicable, masked"
  | xrTokenIgnored stream token =>
    stream.word ++ " stream: unknown rtcp-xr token " ++ token ++ " ignored"

/-! ## §2. Checks. -/

/-- The outcome of a check. -/
inductive Check (α : Type) where
  /-- Refused, for a reason. -/
  | refused (reason : ValidationError)
  /-- Passed with a value, and with the notes taken, oldest first. -/
  | passed (value : α) (notes : List Warning)
  deriving DecidableEq, Repr

namespace Check

/-- Takes a note. -/
def note (warning : Warning) : Check Unit := passed () [warning]

/-- A check that takes no notes. -/
def ofExcept : Except ValidationError α → Check α
  | .ok a => passed a []
  | .error e => refused e

/-- A check that refuses where there is no value. -/
def need (reason : ValidationError) : Option α → Check α
  | some a => passed a []
  | none => refused reason

/-- A check that refuses where a condition does not hold. -/
def require (condition : Bool) (reason : ValidationError) : Check Unit :=
  if condition then passed () [] else refused reason

/-- Two checks in a row. -/
protected def bind (x : Check α) (f : α → Check β) : Check β :=
  match x with
  | refused e => refused e
  | passed a notes =>
    match f a with
    | refused e => refused e
    | passed b more => passed b (notes ++ more)

instance : Monad Check where
  pure a := passed a []
  bind := Check.bind

instance : MonadLift (Except ValidationError) Check := ⟨ofExcept⟩

/-- The notes of a check that passed. -/
def notes : Check α → List Warning
  | refused _ => []
  | passed _ notes => notes

/-! ## §3. Laws. -/

theorem bind_refused (e : ValidationError) (f : α → Check β) :
    (refused e >>= f) = refused e := rfl

theorem bind_passed (a : α) (w : List Warning) (f : α → Check β) :
    (passed a w >>= f) = match f a with
      | refused e => refused e
      | passed b more => passed b (w ++ more) := rfl

theorem bind_eq_passed_iff {x : Check α} {f : α → Check β} {b : β} {w : List Warning} :
    (x >>= f) = passed b w ↔
      ∃ a u v, x = passed a u ∧ f a = passed b v ∧ w = u ++ v := by
  cases x with
  | refused e => simp [bind_refused]
  | passed a u =>
    rw [bind_passed]
    cases hf : f a with
    | refused e => simp [hf]
    | passed c v =>
      constructor
      · intro h
        cases h
        exact ⟨a, u, v, rfl, hf, rfl⟩
      · rintro ⟨a', u', v', h, hf', rfl⟩
        cases h
        rw [hf] at hf'
        cases hf'
        rfl

theorem pure_eq (a : α) : (pure a : Check α) = passed a [] := rfl

instance : LawfulMonad Check := LawfulMonad.mk' Check
  (by intro α x; cases x <;> simp [Functor.map, Check.bind])
  (by
    intro α β a f
    rw [pure_eq, bind_passed]
    cases f a <;> simp)
  (by
    intro α β γ x f g
    cases x with
    | refused e => rfl
    | passed a w =>
      simp only [bind_passed]
      cases f a with
      | refused e => rfl
      | passed b v =>
        simp only [bind_passed]
        cases g b <;> simp)

end Check

end Lineup
