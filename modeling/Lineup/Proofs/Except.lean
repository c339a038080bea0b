/-
  Lineup.Proofs.Except
  ────────────────────
  **STEPS THAT MAY FAIL.**  What it takes for steps in a row to succeed: every one
  of them does; if they fail, there is a first one that does.  Proofs take a
  computation apart with these, one step at a time.
-/
import Mathlib.Data.List.Basic

namespace Lineup

variable {α β ε : Type}

/-! ## Steps in a row. -/

theorem bind_eq_ok_iff {x : Except ε α} {f : α → Except ε β} {b : β} :
    (x >>= f) = .ok b ↔ ∃ a, x = .ok a ∧ f a = .ok b := by
  cases x with
  | error e => simp [Bind.bind, Except.bind]
  | ok a => simp [Bind.bind, Except.bind]

/-- A computation whose value is known to have a property succeeds. -/
theorem exists_ok_of_any {x : Except ε α} {p : α → Prop} [DecidablePred p]
    (h : (x.toOption.any fun a => decide (p a)) = true) : ∃ a, x = .ok a ∧ p a := by
  cases x with
  | error e => cases h
  | ok a => exact ⟨a, rfl, of_decide_eq_true h⟩

/-- A check in front of other steps. -/
theorem check_bind_eq_ok_iff {x : Except ε Unit} {f : Unit → Except ε β} {b : β} :
    (x >>= f) = .ok b ↔ x = .ok () ∧ f () = .ok b := by
  rw [bind_eq_ok_iff]
  exact ⟨fun ⟨_, h⟩ => h, fun h => ⟨(), h⟩⟩

/-- Nothing follows a refusal. -/
theorem error_bind (e : ε) (f : α → Except ε β) : (Except.error e >>= f) = .error e := rfl

/-- A refusal under a condition. -/
theorem refuse_eq_ok_iff {p : Prop} [Decidable p] {e : ε} {x : Except ε α} {a : α} :
    (if p then .error e else x) = .ok a ↔ ¬p ∧ x = .ok a := by
  by_cases hp : p
  · simp [hp]
  · simp [hp]

theorem forM_eq_ok_iff {f : α → Except ε Unit} {as : List α} :
    as.forM f = .ok () ↔ ∀ a ∈ as, f a = .ok () := by
  induction as with
  | nil => simp [List.forM, pure, Except.pure]
  | cons a as ih =>
    show (f a >>= fun _ => as.forM f) = _ ↔ _
    rw [check_bind_eq_ok_iff, ih, List.forall_mem_cons]

/-- Steps that fail do so at one of them, behind steps that succeed. -/
theorem foldlM_eq_error {f : β → α → Except ε β} {b : β} {as : List α} {e : ε}
    (h : as.foldlM f b = .error e) :
    ∃ before a after b', as = before ++ a :: after ∧ before.foldlM f b = .ok b'
      ∧ f b' a = .error e := by
  induction as generalizing b with
  | nil => cases h
  | cons a as ih =>
    rw [List.foldlM_cons] at h
    cases hf : f b a with
    | error e' =>
      rw [hf] at h
      obtain rfl := Except.error.inj h
      exact ⟨[], a, as, b, rfl, rfl, hf⟩
    | ok b₁ =>
      rw [hf] at h
      obtain ⟨before, a', after, b', rfl, hbefore, hf'⟩ := ih h
      refine ⟨a :: before, a', after, b', rfl, ?_, hf'⟩
      rw [List.foldlM_cons, hf]
      exact hbefore

/-! ## Complaints aside. -/

theorem toOption_ok (a : α) : (Except.ok a : Except ε α).toOption = some a := rfl

theorem toOption_error (e : ε) : (Except.error e : Except ε α).toOption = none := rfl

theorem toOption_ite {p : Prop} [Decidable p] (x y : Except ε α) :
    (if p then x else y).toOption = if p then x.toOption else y.toOption :=
  apply_ite Except.toOption p x y

theorem toOption_eq_some_iff {x : Except ε α} {a : α} : x.toOption = some a ↔ x = .ok a := by
  cases x with
  | error e => simp [Except.toOption]
  | ok b => simp [Except.toOption]

theorem toOption_bind (x : Except ε α) (f : α → Except ε β) :
    (x >>= f).toOption = x.toOption.bind fun a => (f a).toOption := by
  cases x with
  | _ => rfl

/-- Steps in a row that give the same one by one, complaints aside. -/
theorem toOption_foldlM {f g : β → α → Except ε β}
    (h : ∀ b a, (f b a).toOption = (g b a).toOption) (as : List α) (b : β) :
    (as.foldlM f b).toOption = (as.foldlM g b).toOption := by
  induction as generalizing b with
  | nil => rfl
  | cons a as ih =>
    rw [List.foldlM_cons, List.foldlM_cons, toOption_bind, toOption_bind, h, funext ih]

/-! ## Side by side. -/

/-- Two computations that end alike: in values that are related, or with one complaint. -/
inductive Agree (R : α → β → Prop) : Except ε α → Except ε β → Prop where
  | ok {a : α} {b : β} : R a b → Agree R (.ok a) (.ok b)
  | error (e : ε) : Agree R (.error e) (.error e)

namespace Agree

variable {γ δ : Type} {R : α → β → Prop} {S : γ → δ → Prop}

theorem refl (x : Except ε α) : Agree (· = ·) x x := by
  cases x with
  | ok a => exact .ok rfl
  | error e => exact .error e

theorem bind {x : Except ε α} {y : Except ε β} {f : α → Except ε γ} {g : β → Except ε δ}
    (h : Agree R x y) (hf : ∀ a b, R a b → Agree S (f a) (g b)) : Agree S (x >>= f) (y >>= g) := by
  cases h with
  | ok hab => exact hf _ _ hab
  | error e => exact .error e

/-- Steps in a row that agree one by one. -/
theorem foldlM {f : α → γ → Except ε α} {g : β → γ → Except ε β}
    (hf : ∀ a b c, R a b → Agree R (f a c) (g b c)) (cs : List γ) {a : α} {b : β} (h : R a b) :
    Agree R (cs.foldlM f a) (cs.foldlM g b) := by
  induction cs generalizing a b with
  | nil => exact .ok h
  | cons c cs ih =>
    rw [List.foldlM_cons, List.foldlM_cons]
    exact (hf a b c h).bind fun a' b' h' => ih h'

end Agree

end Lineup
