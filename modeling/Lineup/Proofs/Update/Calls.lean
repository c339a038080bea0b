/-
  Lineup.Proofs.Update.Calls
  ──────────────────────────
  **EVERY STEP IN ITS TURN.**  A coordinator may be asked for any step at any time, each
  time with another live registry.  It answers a step in one state only, and the steps that
  it has answered since it was reset say all about it (`Progress.Sound`):

      idle         — none
      staging      — a document was staged
      validating   — it was validated as well, and nothing spoke against it
      committed    — it was committed as well
      rejected     — a document was staged, and perhaps validated, before one step failed

  One case for each call shows that a call keeps this (`Progress.Sound.next`), and a run of
  calls is an induction over them (`Progress.sound_after`).

  A coordinator that keeps its shadow beside its state answers alike (`looseAnswer_loosen`), so
  the same holds of it.

  Main result:
    * `Progress.inTurn_after` — so no order of calls commits a shadow that was not staged and
      validated before, or commits one twice.
-/
import Lineup.Proofs.Update.Again
import Lineup.Proofs.Update.Loose

namespace Lineup

/-! ## §1. Calls and answers. -/

namespace Coordinator

open Registry

/-- What can be asked of a coordinator. Each step brings a live registry of its own. -/
inductive Call where
  /-- Taking a document into a shadow. -/
  | stage (live : Registry) (document : String)
  /-- Comparing the shadow with a live registry. -/
  | validate (live : Registry)
  /-- Making the successor of a live registry. -/
  | commit (live : Registry) (now : Instant)
  /-- Giving the update up. -/
  | reset
  deriving DecidableEq, Repr

/-- The step that a call asks for. -/
def Call.step? : Call → Option UpdateStep
  | stage _ _ => some .stage
  | validate _ => some .validate
  | commit _ _ => some .commit
  | reset => none

/-- Whether a call asks for a commit. -/
def Call.isCommit (call : Call) : Bool := call.step? == some .commit

/-- Whether a call succeeds, or why not, and the coordinator after it. -/
def answer (c : Coordinator) : Call → Except UpdateError Unit × Coordinator
  | .stage live document =>
    ((c.stage live document).1.map fun _ => (), (c.stage live document).2)
  | .validate live => ((c.validate live).1.map fun _ => (), (c.validate live).2)
  | .commit live now => ((c.commit live now).1.map fun _ => (), (c.commit live now).2)
  | .reset => (.ok (), c.reset)

/-- Whether a call to a loose coordinator succeeds, or why not, and what is left of it. -/
def looseAnswer (c : LooseCoordinator) : Call → Except UpdateError Unit × LooseCoordinator
  | .stage live document =>
    ((c.stage live document).1.map fun _ => (), (c.stage live document).2)
  | .validate live => ((c.validate live).1.map fun _ => (), (c.validate live).2)
  | .commit live now => ((c.commit live now).1.map fun _ => (), (c.commit live now).2)
  | .reset => (.ok (), c.reset)

/-- A loose coordinator after a sequence of calls. -/
def looseAfter (calls : List Call) : LooseCoordinator :=
  calls.foldl (fun c call => (looseAnswer c call).2) .fresh

/-- A coordinator, and the calls that succeeded since it was reset, the last one first. -/
structure Progress where
  /-- The coordinator. -/
  coordinator : Coordinator
  /-- The calls that succeeded. -/
  done : List Call
  deriving DecidableEq, Repr

namespace Progress

/-- A coordinator that was never called. -/
def start : Progress := ⟨fresh, []⟩

/-- One more call. A call that fails is not noted, and a reset strikes out all others. -/
def next (p : Progress) (call : Call) : Progress where
  coordinator := (p.coordinator.answer call).2
  done := match call, (p.coordinator.answer call).1 with
    | .reset, _ => []
    | call, .ok _ => call :: p.done
    | _, .error _ => p.done

/-- A sequence of calls. -/
def after (calls : List Call) : Progress := calls.foldl next start

end Progress

/-! ## §2. One call. -/

/-- **A step out of turn is refused**, and changes nothing. -/
theorem answer_of_ne {c : Coordinator} {call : Call} {step : UpdateStep}
    (hstep : call.step? = some step) (hturn : c.state ≠ step.source) :
    c.answer call = (.error (.invalidState step c.state), c) := by
  obtain ⟨phase, report⟩ := c
  cases call with
  | stage live document =>
    obtain rfl := Option.some.inj hstep
    cases phase with
    | idle => exact absurd rfl hturn
    | _ => rfl
  | validate live =>
    obtain rfl := Option.some.inj hstep
    cases phase with
    | staging shadow => exact absurd rfl hturn
    | _ => rfl
  | commit live now =>
    obtain rfl := Option.some.inj hstep
    cases phase with
    | validating shadow => exact absurd rfl hturn
    | _ => rfl
  | reset => cases hstep

/-- The comparison of a shadow leaves the failures of its sessions. -/
theorem failures_compare (live shadow : Registry) (report : UpdateReport) :
    (compare live shadow report).report.failures = report.failures := by
  have hfold := Comparison.report_foldl live ⟨shadow, report, []⟩ shadow.handles (.refl shadow)
  unfold compare
  dsimp only
  rw [hfold, UpdateReport.foldl_note]

/-- **A shadow is validated, or the update is rejected.** In the first case no session has
failed, and no channel would take a live one back. -/
theorem validate_cases (shadow : Registry) (report : UpdateReport) (live : Registry) :
    (∃ shadow' report', (⟨.staging shadow, report⟩ : Coordinator).validate live
        = (.ok report', ⟨.validating shadow', report'⟩) ∧
      report'.failures = [] ∧ report'.stale = 0 ∧ report'.conflicting = 0) ∨
    ∃ report', (⟨.staging shadow, report⟩ : Coordinator).validate live = reject report' := by
  simp only [validate, List.isEmpty_iff]
  by_cases hclean : report.failures = []
  · rw [if_pos hclean]
    have hfailures := failures_compare live shadow report
    generalize compare live shadow report = s at hfailures ⊢
    by_cases hforward : s.report.stale = 0 ∧ s.report.conflicting = 0
    · rw [if_pos hforward]
      exact Or.inl ⟨_, _, rfl, hfailures.trans hclean, hforward⟩
    · rw [if_neg hforward]
      exact Or.inr ⟨_, rfl⟩
  · rw [if_neg hclean]
    exact Or.inr ⟨_, rfl⟩

/-- The same, said of a coordinator that has just staged a document. -/
theorem validate_stage_cases (live : Registry) (document : String) (live' : Registry) :
    (∃ shadow report, (fresh.stage live document).2.validate live'
        = (.ok report, ⟨.validating shadow, report⟩) ∧
      report.failures = [] ∧ report.stale = 0 ∧ report.conflicting = 0) ∨
    ∃ report, (fresh.stage live document).2.validate live' = reject report :=
  validate_cases _ _ live'

/-- **A validated shadow is committed, or the update is rejected.** -/
theorem commit_cases (shadow : Registry) (report : UpdateReport) (live : Registry)
    (now : Instant) :
    (∃ next, successor live shadow now = .ok next ∧
      (⟨.validating shadow, report⟩ : Coordinator).commit live now
        = (.ok (next, report), ⟨.committed, report⟩)) ∨
    ∃ e, successor live shadow now = .error e ∧
      (⟨.validating shadow, report⟩ : Coordinator).commit live now
        = (.error (.commit e), ⟨.rejected, report⟩) := by
  simp only [commit]
  cases successor live shadow now with
  | ok next => exact Or.inl ⟨next, rfl, rfl⟩
  | error e => exact Or.inr ⟨e, rfl, rfl⟩

theorem answer_stage_snd (c : Coordinator) (live : Registry) (document : String) :
    (c.answer (.stage live document)).2 = (c.stage live document).2 := rfl

theorem answer_validate_snd (c : Coordinator) (live : Registry) :
    (c.answer (.validate live)).2 = (c.validate live).2 := rfl

section Answers

variable {c c' : Coordinator} {live : Registry}

theorem answer_validate {x : Except UpdateError UpdateReport} (h : c.validate live = (x, c')) :
    c.answer (.validate live) = (x.map fun _ => (), c') := by
  unfold answer
  dsimp only
  rw [h]

theorem answer_commit {now : Instant} {x : Except UpdateError (Registry × UpdateReport)}
    (h : c.commit live now = (x, c')) :
    c.answer (.commit live now) = (x.map fun _ => (), c') := by
  unfold answer
  dsimp only
  rw [h]

end Answers

/-- **A step is refused exactly if it is out of turn.** -/
theorem answer_eq_refused_iff {c : Coordinator} {call : Call} {step : UpdateStep}
    (hstep : call.step? = some step) :
    c.answer call = (.error (.invalidState step c.state), c) ↔ c.state ≠ step.source := by
  refine ⟨fun hrefused hturn => ?_, answer_of_ne hstep⟩
  obtain ⟨phase, report⟩ := c
  -- in its turn a step succeeds or ends in another failure
  cases call with
  | stage live document =>
    obtain rfl := Option.some.inj hstep
    cases phase with
    | idle => cases hrefused
    | _ => cases hturn
  | validate live =>
    obtain rfl := Option.some.inj hstep
    cases phase with
    | staging shadow =>
      rcases validate_cases shadow report live with ⟨_, _, hok, -⟩ | ⟨_, hrejected⟩
      · rw [answer_validate hok] at hrefused
        cases hrefused
      · rw [answer_validate hrejected] at hrefused
        cases hrefused
    | _ => cases hturn
  | commit live now =>
    obtain rfl := Option.some.inj hstep
    cases phase with
    | validating shadow =>
      rcases commit_cases shadow report live now with ⟨_, -, hok⟩ | ⟨_, -, herr⟩
      · rw [answer_commit hok] at hrefused
        cases hrefused
      · rw [answer_commit herr] at hrefused
        cases hrefused
    | _ => cases hturn
  | reset => cases hstep

/-- **A loose coordinator answers alike.** -/
theorem looseAnswer_loosen (c : Coordinator) (call : Call) :
    looseAnswer c.loosen call = ((c.answer call).1, (c.answer call).2.loosen) := by
  unfold looseAnswer answer
  cases call with
  | stage live document => simp only [stage_loosen]
  | validate live => simp only [validate_loosen]
  | commit live now => simp only [commit_loosen]
  | reset => rfl

/-- A commit that succeeds is in its turn. -/
theorem state_of_commit {c : Coordinator} {live : Registry} {now : Instant}
    {x : Registry × UpdateReport} (hok : (c.commit live now).1 = .ok x) : c.state = .validating := by
  by_contra hturn
  have hstep : (Call.commit live now).step? = some .commit := rfl
  have hanswer : (c.answer (.commit live now)).1 = .ok () := by
    rw [answer_commit (Prod.ext hok rfl)]
    rfl
  rw [answer_of_ne hstep hturn] at hanswer
  cases hanswer

/-- All three steps from the start are three calls. -/
theorem commit_of_run {live : Registry} {document : String} {now : Instant}
    {x : Registry × UpdateReport} (hrun : run live document now = .ok x) :
    (((fresh.stage live document).2.validate live).2.commit live now).1 = .ok x := by
  unfold run at hrun
  split at hrun
  · cases hrun
  · next hstage =>
    split at hrun
    · cases hrun
    · next hvalidate =>
      rw [hstage, hvalidate]
      exact hrun

/-! ## §3. Every sequence of calls. -/

namespace Progress

variable {p : Progress}

theorem next_of_ok {c c' : Coordinator} {done : List Call} {call : Call} (hcall : call ≠ .reset)
    (hok : c.answer call = (.ok (), c')) :
    (⟨c, done⟩ : Progress).next call = ⟨c', call :: done⟩ := by
  unfold next
  rw [hok]
  cases call with
  | reset => exact absurd rfl hcall
  | _ => rfl

theorem next_of_error {c c' : Coordinator} {done : List Call} {call : Call} {e : UpdateError}
    (hcall : call ≠ .reset) (herr : c.answer call = (.error e, c')) :
    (⟨c, done⟩ : Progress).next call = ⟨c', done⟩ := by
  unfold next
  rw [herr]
  cases call with
  | reset => exact absurd rfl hcall
  | _ => rfl

/-- What the calls that succeeded say about a coordinator. -/
inductive Sound : Progress → Prop where
  /-- Nothing was done. -/
  | idle : Sound start
  /-- A document was staged. -/
  | staging (live : Registry) (document : String) :
      Sound ⟨(fresh.stage live document).2, [.stage live document]⟩
  /-- Its shadow was validated. -/
  | validating (live : Registry) (document : String) (live' shadow : Registry)
      (report : UpdateReport) :
      (fresh.stage live document).2.validate live' = (.ok report, ⟨.validating shadow, report⟩) →
      report.failures = [] ∧ report.stale = 0 ∧ report.conflicting = 0 →
      Sound ⟨⟨.validating shadow, report⟩, [.validate live', .stage live document]⟩
  /-- The shadow was committed. -/
  | committed (live : Registry) (document : String) (live' live'' : Registry) (now : Instant)
      (report : UpdateReport) :
      ((fresh.stage live document).2.validate live').2.answer (.commit live'' now)
        = (.ok (), ⟨.committed, report⟩) →
      Sound ⟨⟨.committed, report⟩,
        [.commit live'' now, .validate live', .stage live document]⟩
  /-- A shadow was refused when it was to be validated. -/
  | refused (live : Registry) (document : String) (report : UpdateReport) :
      Sound ⟨⟨.rejected, report⟩, [.stage live document]⟩
  /-- A channel was refused when the shadow was to be committed. -/
  | failed (live : Registry) (document : String) (live' : Registry) (report : UpdateReport) :
      Sound ⟨⟨.rejected, report⟩, [.validate live', .stage live document]⟩

/-- **One call keeps to the order.** -/
theorem Sound.next (hp : p.Sound) (call : Call) : (p.next call).Sound := by
  cases hcall : call.step? with
  | none =>
    cases call with
    | reset => exact .idle
    | _ => cases hcall
  | some step =>
    have hne : call ≠ .reset := by
      rintro rfl
      cases hcall
    by_cases hturn : p.coordinator.state = step.source
    swap
    · rw [next_of_error hne (answer_of_ne hcall hturn)]
      exact hp
    -- the state and the step belong together, which leaves three cases
    cases call with
    | stage live document =>
      obtain rfl := Option.some.inj hcall
      cases hp with
      | idle => exact .staging live document
      | _ => cases hturn
    | validate live =>
      obtain rfl := Option.some.inj hcall
      cases hp with
      | staging live₁ document =>
        rcases validate_stage_cases live₁ document live with
          ⟨shadow, report, hok, hclean⟩ | ⟨report, hrejected⟩
        · rw [next_of_ok hne (answer_validate hok)]
          exact .validating live₁ document live shadow report hok hclean
        · rw [next_of_error hne (answer_validate hrejected)]
          exact .refused live₁ document report
      | _ => cases hturn
    | commit live now =>
      obtain rfl := Option.some.inj hcall
      cases hp with
      | validating live₁ document live₂ shadow report hvalidate _ =>
        rcases commit_cases shadow report live now with ⟨_, -, hok⟩ | ⟨_, -, herr⟩
        · rw [next_of_ok hne (answer_commit hok)]
          refine .committed live₁ document live₂ live now report ?_
          rw [hvalidate]
          exact answer_commit hok
        · rw [next_of_error hne (answer_commit herr)]
          exact .failed live₁ document live₂ report
      | _ => cases hturn
    | reset => exact absurd rfl hne

/-- **So does every sequence of calls.** -/
theorem sound_after (calls : List Call) : (after calls).Sound := by
  have key : ∀ (calls : List Call) (p : Progress), p.Sound → (calls.foldl next p).Sound := by
    intro calls
    induction calls with
    | nil => exact fun _ hp => hp
    | cons call calls ih => exact fun p hp => ih _ (hp.next call)
  exact key calls start .idle

/-- **A loose coordinator keeps step**, whatever it is asked for. -/
theorem looseAfter_eq (calls : List Call) :
    looseAfter calls = (after calls).coordinator.loosen := by
  have key : ∀ (calls : List Call) (p : Progress),
      calls.foldl (fun c call => (looseAnswer c call).2) p.coordinator.loosen
        = (calls.foldl next p).coordinator.loosen := by
    intro calls
    induction calls with
    | nil => exact fun _ => rfl
    | cons call calls ih =>
      intro p
      rw [List.foldl_cons, List.foldl_cons, looseAnswer_loosen]
      exact ih (p.next call)
  exact key calls start

/-- What holds of a coordinator between two calls. -/
structure InTurn (p : Progress) : Prop where
  /-- There is a shadow in two states only. -/
  shadow : p.coordinator.phase.shadow?.isSome ↔
    p.coordinator.state = .staging ∨ p.coordinator.state = .validating
  /-- Nothing speaks against a shadow that may be committed. -/
  clean : p.coordinator.state = .validating →
    p.coordinator.report.failures = [] ∧ p.coordinator.report.stale = 0 ∧
      p.coordinator.report.conflicting = 0
  /-- A commit that succeeds comes after one document was staged and validated, and after
  nothing else that succeeded. -/
  commit : ∀ live now next report, (p.coordinator.commit live now).1 = .ok (next, report) →
    ∃ live₁ document live₂, p.done = [.validate live₂, .stage live₁ document]
  /-- So there is one commit at most. -/
  once : p.done.countP Call.isCommit ≤ 1
  /-- Unless an update is rejected, its coordinator is what the calls that succeeded have made
  of a fresh one: the shadow that is committed is the one that they staged and validated. -/
  replay : p.coordinator.state ≠ .rejected →
    p.coordinator = p.done.foldr (fun call c => (c.answer call).2) fresh
  /-- A step is refused exactly if it is out of turn, and then it changes nothing. -/
  refused : ∀ call step, call.step? = some step →
    (p.coordinator.state ≠ step.source ↔ p.coordinator.answer call
      = (.error (.invalidState step p.coordinator.state), p.coordinator))
  /-- An update that is committed or rejected stays so until it is given up. -/
  final : p.coordinator.state = .committed ∨ p.coordinator.state = .rejected →
    ∀ call, call ≠ .reset → p.next call = p
  /-- Giving an update up begins anew. -/
  reset : p.next .reset = start

theorem Sound.inTurn (hp : p.Sound) : p.InTurn where
  shadow := by
    cases hp with
    | _ => simp [start, fresh, stage, state, UpdatePhase.state, UpdatePhase.shadow?]
  clean := by
    intro hstate
    cases hp with
    | validating live document live' shadow report _ hclean => exact hclean
    | _ => cases hstate
  commit := by
    intro live now next report hok
    have hstate := state_of_commit hok
    cases hp with
    | validating live₁ document live₂ shadow report => exact ⟨live₁, document, live₂, rfl⟩
    | _ => cases hstate
  once := by
    cases hp with
    | _ => simp [start, Call.isCommit, Call.step?]
  replay := by
    intro hstate
    cases hp with
    | idle => rfl
    | staging live document => rfl
    | validating live document live' shadow report hvalidate =>
      simp only [List.foldr_cons, List.foldr_nil]
      rw [answer_validate_snd, answer_stage_snd, hvalidate]
    | committed live document live' live'' now report hcommit =>
      simp only [List.foldr_cons, List.foldr_nil]
      rw [answer_validate_snd, answer_stage_snd, hcommit]
    | refused live document report => exact absurd rfl hstate
    | failed live document live' report => exact absurd rfl hstate
  refused := fun call step hstep => (answer_eq_refused_iff hstep).symm
  final := by
    intro hstate call hne
    cases hstep : call.step? with
    | none =>
      cases call with
      | reset => exact absurd rfl hne
      | _ => cases hstep
    | some step =>
      -- no step is in its turn in one of these states
      have hturn : p.coordinator.state ≠ step.source := by
        rcases hstate with h | h <;> rw [h] <;> cases step <;> decide
      rw [next_of_error hne (answer_of_ne hstep hturn)]
  reset := rfl

/-- **EVERY STEP IS DONE IN ITS TURN, WHATEVER IS ASKED FOR**: in any sequence of calls, each with
a live registry and a document of its own, there is a shadow while an update is staged or
validated, nothing speaks against it once it is validated, and what is committed is the shadow
of the one document that was staged and validated since the last reset. A step out of turn is
refused and changes nothing, and an update that is committed or rejected stays so until it is
given up.

All this holds as well where the shadow is kept beside the state: after the same calls a loose
coordinator has the same state, shadow and report, and answers every further call alike. Its
place for a shadow is empty but while an update is staged or validated. -/
theorem inTurn_after (calls : List Call) :
    (after calls).InTurn ∧ looseAfter calls = (after calls).coordinator.loosen ∧
    (∀ call, looseAnswer (looseAfter calls) call
      = (((after calls).coordinator.answer call).1,
          ((after calls).coordinator.answer call).2.loosen)) ∧
    ((looseAfter calls).shadow.isSome ↔
      (looseAfter calls).state = .staging ∨ (looseAfter calls).state = .validating) := by
  have hinTurn := (sound_after calls).inTurn
  rw [looseAfter_eq]
  exact ⟨hinTurn, rfl, looseAnswer_loosen _, hinTurn.shadow⟩

/-- A document that is committed from the start can be committed after two calls. -/
theorem commit_after_of_run {live : Registry} {document : String} {now : Instant}
    {x : Registry × UpdateReport} (hrun : run live document now = .ok x) :
    ((after [.stage live document, .validate live]).coordinator.commit live now).1 = .ok x := by
  simp only [after, List.foldl_cons, List.foldl_nil, next, start, answer]
  exact commit_of_run hrun

/-- Two bulletins, which can be committed once they were staged and validated. A loose coordinator
has their shadow in its place by then. -/
theorem inTurn_after_bulletins :
    ∃ next report,
      ((after [.stage oneDatagram (Document.boundary.intercalate bulletins),
        .validate oneDatagram]).coordinator.commit oneDatagram ⟨0, 0⟩).1 = .ok (next, report) ∧
      (∃ live₁ document live₂,
        (after [.stage oneDatagram (Document.boundary.intercalate bulletins),
          .validate oneDatagram]).done = [.validate live₂, .stage live₁ document]) ∧
      (looseAfter [.stage oneDatagram (Document.boundary.intercalate bulletins),
        .validate oneDatagram]).state = .validating ∧
      (looseAfter [.stage oneDatagram (Document.boundary.intercalate bulletins),
        .validate oneDatagram]).shadow.isSome := by
  obtain ⟨next, report, hrun⟩ := exists_run_bulletins
  have hcommit := commit_after_of_run hrun
  generalize ([.stage oneDatagram (Document.boundary.intercalate bulletins),
    .validate oneDatagram] : List Call) = calls at hcommit ⊢
  obtain ⟨hinTurn, hloose, -, hshadow⟩ := inTurn_after calls
  have hstate : (looseAfter calls).state = .validating := by
    rw [hloose]
    exact state_of_commit hcommit
  exact ⟨next, report, hcommit, hinTurn.commit oneDatagram ⟨0, 0⟩ next report hcommit, hstate,
    hshadow.2 (Or.inr hstate)⟩

end Progress

end Coordinator

end Lineup
