namespace Querysmith.Machine

variable {σ α β : Type}

def run (step : σ → α → β × σ) : σ → List α → List (β × σ)
  | _, [] => []
  | s, a :: rest =>
      let after := step s a
      after :: run step after.2 rest

def final (step : σ → α → β × σ) (s : σ) (steps : List α) : σ :=
  steps.foldl (fun s a => (step s a).2) s

theorem run_append (step : σ → α → β × σ) (s : σ) (before rest : List α) :
    run step s (before ++ rest) = run step s before ++ run step (final step s before) rest := by
  induction before generalizing s with
  | nil => rfl
  | cons a before ih =>
      rw [List.cons_append, run, ih]
      rfl

theorem length_run (step : σ → α → β × σ) (s : σ) (steps : List α) :
    (run step s steps).length = steps.length := by
  induction steps generalizing s with
  | nil => rfl
  | cons a steps ih => rw [run, List.length_cons, ih, List.length_cons]

theorem getElem?_run (step : σ → α → β × σ) (s : σ) (before : List α) (a : α) (rest : List α) :
    (run step s (before ++ a :: rest))[before.length]? = some (step (final step s before) a) := by
  have hl := length_run step s before
  rw [run_append, List.getElem?_append_right (Nat.le_of_eq hl), hl, Nat.sub_self]
  rfl

/-- What every step keeps holds after a run. -/
theorem final_induction {step : σ → α → β × σ} {P : σ → Prop} (hstep : ∀ s a, P s → P (step s a).2)
    {s : σ} (h : P s) (steps : List α) : P (final step s steps) := by
  induction steps generalizing s with
  | nil => exact h
  | cons a steps ih => exact ih (hstep s a h)

end Querysmith.Machine
