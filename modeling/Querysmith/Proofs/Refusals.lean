import Querysmith.Database.Transaction
import Querysmith.Proofs.Exchange
import Querysmith.Proofs.Filtering

namespace Querysmith

/-- What executors fail with. -/
def Error.IsExecution : Error → Prop
  | database _ | execution _ => True
  | invalidArgument _ | missingTable _ | noFieldsToUpdate | parameter _ => False

def Error.IsBadParams (e : Error) : Prop :=
  ∃ got, e = .parameter (.paramsNotArray got)

theorem Error.IsExecution.isValidation {e : Error} (h : e.IsExecution) :
    e.isValidation = false := by
  cases e with
  | database | execution => rfl
  | invalidArgument | missingTable | noFieldsToUpdate | parameter => exact h.elim

theorem Error.IsExecution.not_isBadParams {e : Error} (h : e.IsExecution) : ¬e.IsBadParams := by
  rintro ⟨got, rfl⟩
  exact h

theorem Error.isValidation_iff_of_isValidation {e : Error} (h : e.isValidation = true) :
    e.isValidation = true ↔ ¬e.IsBadParams := by
  refine iff_of_true h ?_
  rintro ⟨got, rfl⟩
  exact Bool.false_ne_true h

theorem Query.isValidation_of_ofJson {j : Json} {e : Error} (h : ofJson j = .error e) :
    e.isValidation = true := by
  cases j with
  | string text => cases h
  | null | bool | number | array =>
      cases h
      rfl
  | object fields =>
      rw [ofJson] at h
      split at h
      · cases h
      · cases h
        rfl

theorem Record.isValidation_of_ofJson {j : Json} {e : Error} (h : ofJson j = .error e) :
    e.isValidation = true := by
  cases j with
  | null | object => cases h
  | bool | number | string | array =>
      cases h
      rfl

theorem Query.isValidation_of_compile {mode : ListMode} {q : Query} {e : Error}
    (h : q.compile mode = .error e) : e.isValidation = true := by
  cases q with
  | sql text => cases h
  | selection s =>
      obtain ⟨-, rfl⟩ := Selection.compile_eq_error_iff.1 h
      rfl

theorem Statement.isValidation_of_update {mode : ListMode} {table : String} {changes : Record}
    {filter : Option Filter} {e : Error} (h : update mode table changes filter = .error e) :
    e.isValidation = true := by
  obtain ⟨-, rfl⟩ | ⟨-, -, rfl⟩ := update_eq_error_iff.1 h <;> rfl

theorem Statement.isValidation_of_delete {mode : ListMode} {table : String}
    {filter : Option Filter} {e : Error} (h : delete mode table filter = .error e) :
    e.isValidation = true := by
  obtain ⟨-, rfl⟩ := delete_eq_error_iff.1 h
  rfl

theorem Request.isValidation_of_compile {mode : ListMode} {r : Request} {e : Error}
    (h : r.compile mode = .error e) : e.isValidation = true := by
  cases r with
  | select q => exact Query.isValidation_of_compile h
  | insert table record => cases h
  | update table changes filter => exact Statement.isValidation_of_update h
  | delete table filter => exact Statement.isValidation_of_delete h

theorem Filter.isValidation_iff_of_ofJson {j : Json} {e : Error}
    (h : (ofJson j).mapError FilterFault.error = .error e) :
    e.isValidation = true ↔ ¬e.IsBadParams := by
  cases hj : ofJson j with
  | ok f =>
      rw [hj] at h
      cases h
  | error fault =>
      rw [hj] at h
      cases fault with
      | notObject got =>
          cases h
          exact Error.isValidation_iff_of_isValidation rfl
      | paramsNotArray got =>
          cases h
          exact iff_of_false Bool.false_ne_true (not_not_intro ⟨got, rfl⟩)

theorem Filter.isValidation_iff (j : Json) :
    (∀ e, (ofJson j).mapError FilterFault.error = .error e → e.isValidation = true) ↔
      ¬((∃ text, j.HasClause text) ∧ ∃ got, j.HasBadParams got) := by
  rw [← mapError_ofJson_eq_parameter_iff]
  constructor
  · rintro h ⟨fault, hfault⟩
    exact Bool.false_ne_true (h _ hfault)
  · intro hno e he
    refine (isValidation_iff_of_ofJson he).2 ?_
    rintro ⟨got, rfl⟩
    exact hno ⟨_, he⟩

/-- The errors with which the operands of a request are refused. -/
inductive Refusal (e : Error) : Prop where
  | query {j : Json} (h : Query.ofJson j = .error e)
  | record {j : Json} (h : Record.ofJson j = .error e)
  | filter {j : Json} (h : (Filter.ofJson j).mapError FilterFault.error = .error e)

theorem Refusal.isValidation_iff {e : Error} (h : Refusal e) :
    e.isValidation = true ↔ ¬e.IsBadParams := by
  cases h with
  | query h => exact Error.isValidation_iff_of_isValidation (Query.isValidation_of_ofJson h)
  | record h => exact Error.isValidation_iff_of_isValidation (Record.isValidation_of_ofJson h)
  | filter h => exact Filter.isValidation_iff_of_ofJson h

namespace Exchange

open Session (Answer Report)

variable {σ : Type}

theorem Step.isValidation_of_compilation? {mode : ListMode} {s : Step σ} {op : Operation}
    {e : Error} (h : s.compilation? mode = some (op, .error e)) : e.isValidation = true := by
  have hquery {q : Query} (h : some (Operation.select, q.compile mode) = some (op, .error e)) :
      e.isValidation = true :=
    Query.isValidation_of_compile (Prod.mk.inj (Option.some.inj h)).2
  cases s with
  | select query | compile query =>
      cases query with
      | error failure => cases h
      | ok q => exact hquery h
  | selectJson document =>
      cases document with
      | error failure => cases h
      | ok j =>
          cases hj : Query.ofJson j with
          | error e' =>
              simp only [Step.compilation?, hj] at h
              cases h
              exact Query.isValidation_of_ofJson hj
          | ok q =>
              simp only [Step.compilation?, hj] at h
              exact hquery h
  | insert table record =>
      cases record with
      | error failure => cases h
      | ok r => cases h
  | update table changes filter =>
      cases changes with
      | error failure => cases h
      | ok r =>
          cases filter with
          | error failure => cases h
          | ok f => exact Statement.isValidation_of_update (Prod.mk.inj (Option.some.inj h)).2
  | delete table filter =>
      cases filter with
      | error failure => cases h
      | ok f => exact Statement.isValidation_of_delete (Prod.mk.inj (Option.some.inj h)).2
  | batch | setLogQueries | elsewhere => cases h

theorem rejected_inj {e e' : Error}
    (h : (Except.error (.rejected e) : Operand Answer) = .error (.rejected e')) : e = e' :=
  ReadFailure.rejected.inj (Except.error.inj h)

/-- A step that ends in an error either leaves the executor alone or calls it and ends in an error
of the executor. -/
theorem Ends.of_error {ex : Executor σ} (hex : ∀ e, ex.Raises e → e.IsExecution)
    {c : State σ} {s : Step σ} (hs : ∀ e, s.unread? = some (.rejected e) → Refusal e)
    {after : Report × State σ} (h : Ends ex c s after) {e : Error}
    (he : after.1.result = .error (.rejected e)) :
    after.2.state.calls = c.state.calls ∧ (e.isValidation = true ↔ ¬e.IsBadParams) ∨
      after.2.state.calls ≠ c.state.calls ∧ e.IsExecution := by
  have hcalled {result : Except Error Answer} (raises : ∀ e, result = .error e → ex.Raises e)
      (he : Operand.ofResult result = .error (.rejected e)) : e.IsExecution := by
    cases result with
    | ok a => cases he
    | error e' =>
        obtain rfl := rejected_inj he
        exact hex _ (raises _ rfl)
  have hne (call : Call) : c.state.calls ++ [call] ≠ c.state.calls := by simp
  cases h with
  | unread h =>
      cases he
      exact .inl ⟨rfl, (hs e h).isValidation_iff⟩
  | refused h =>
      obtain rfl := rejected_inj he
      have hv := Step.isValidation_of_compilation? h
      exact .inl ⟨rfl, Error.isValidation_iff_of_isValidation hv⟩
  | compiled h | logging h | elsewhere h => cases he
  | called _ _ _ raises => exact .inr ⟨hne _, hcalled raises he⟩
  | batch _ _ raises => exact .inr ⟨hne _, hcalled raises he⟩

end Exchange

theorem Database.isExecution_of_raises {e : Error} (h : executor.Raises e) : e.IsExecution := by
  have hfault {α : Type} {r : Except DatabaseFault α} (h : r.mapError Error.database = .error e) :
      e.IsExecution := by
    cases r with
    | ok a => cases h
    | error fault =>
        cases h
        trivial
  cases h with
  | batch h | query h | write h => exact hfault h

/-- Requests are refused with errors of validation, and in every session an error is one of
validation if and only if the executor was not called. Bad parameters of a clause are the only
exception to either. -/
theorem Error.isValidation_iff_no_call_unless_bad_params {σ : Type} (ex : Executor σ)
    (hex : ∀ e, ex.Raises e → e.IsExecution) :
    (∀ j e, Query.ofJson j = .error e → e.isValidation = true) ∧
    (∀ j e, Record.ofJson j = .error e → e.isValidation = true) ∧
    (∀ mode (r : Request) e, r.compile mode = .error e → e.isValidation = true) ∧
    (∀ j, (∀ e, (Filter.ofJson j).mapError FilterFault.error = .error e → e.isValidation = true) ↔
      ¬((∃ text, j.HasClause text) ∧ ∃ got, j.HasBadParams got)) ∧
    ∀ (c : Exchange.State σ) before (s : Exchange.Step σ),
      (∀ e, s.unread? = some (.rejected e) → Refusal e) →
      ∀ e, (Exchange.step ex (Exchange.final ex c before) s).1.result = .error (.rejected e) →
        (((Exchange.step ex (Exchange.final ex c before) s).2.state.calls =
            (Exchange.final ex c before).state.calls ↔ e.isValidation = true) ↔
          ¬e.IsBadParams) := by
  refine ⟨fun _ _ => Query.isValidation_of_ofJson, fun _ _ => Record.isValidation_of_ofJson,
    fun _ _ _ => Request.isValidation_of_compile, Filter.isValidation_iff, ?_⟩
  intro c before s hs e he
  rcases (Exchange.ends_step ex (Exchange.final ex c before) s).of_error hex hs he with
    ⟨hcalls, hv⟩ | ⟨hcalls, hfailed⟩
  · rw [← hv]
    exact ⟨fun h => h.1 hcalls, fun h => iff_of_true hcalls h⟩
  · refine iff_of_true ?_ hfailed.not_isBadParams
    exact iff_of_false hcalls fun h => Bool.false_ne_true (hfailed.isValidation.symm.trans h)

theorem Error.isValidation_of_update_without_fields :
    let c : Exchange.State Database := ⟨⟨false, .inline⟩, .fresh, []⟩
    let before : List (Exchange.Step Database) := [.select (.ok (.sql "x"))]
    let s : Exchange.Step Database := .update "t" (.ok .empty) (.ok none)
    let after := Exchange.step Database.executor (Exchange.final Database.executor c before) s
    after.1.result = .error (.rejected .noFieldsToUpdate) ∧
      after.2.state.calls = [.query ⟨"x", []⟩] ∧ noFieldsToUpdate.isValidation = true := by
  intro c before s after
  have hcalls : after.2.state.calls =
      (Exchange.final Database.executor c before).state.calls := rfl
  obtain ⟨-, -, -, -, hsession⟩ := isValidation_iff_no_call_unless_bad_params Database.executor
    fun _ => Database.isExecution_of_raises
  have hcalled := hsession c before s (by rintro _ ⟨⟩) .noFieldsToUpdate rfl
  exact ⟨rfl, rfl, (hcalled.2 (by rintro ⟨_, ⟨⟩⟩)).1 hcalls⟩

/-- The clause of a delete is refused before the executor is called, yet not as invalid. -/
theorem Error.not_isValidation_of_bad_params :
    let j : Json := .object [("clause", .string "a = ?"), ("params", Json.ofInt64 1)]
    let c : Exchange.State Recorder := ⟨⟨false, .inline⟩, .fresh, []⟩
    let filter := (Operand.ofResult ((Filter.ofJson j).mapError FilterFault.error)).map some
    let e : Error := .parameter (.paramsNotArray (Json.ofInt64 1))
    (Filter.ofJson j).mapError FilterFault.error = .error e ∧
      (Exchange.step Recorder.executor c (.delete "t" filter)).1.result = .error (.rejected e) ∧
      (Exchange.step Recorder.executor c (.delete "t" filter)).2.state.calls = [] ∧
      e.isValidation = false :=
  ⟨rfl, rfl, rfl, rfl⟩

end Querysmith
