import Querysmith.Session

namespace Querysmith

variable {σ α ι : Type}

structure Recorded (σ : Type) where
  state : σ
  calls : List Call

namespace Executor

def recording (call : ι → Call) (answer : σ → ι → Except Error α × σ) (r : Recorded σ) (i : ι) :
    Except Error α × Recorded σ :=
  ((answer r.state i).1, ⟨(answer r.state i).2, r.calls ++ [call i]⟩)

def recorded (ex : Executor σ) : Executor (Recorded σ) where
  batch := recording .batch ex.batch
  query := recording .query ex.query
  write := recording .write ex.write

/-- An error that the executor answers with in some state. -/
inductive Raises (ex : Executor σ) (e : Error) : Prop where
  | batch {state : σ} {sql : String} (h : (ex.batch state sql).1 = .error e)
  | query {state : σ} {s : Statement} (h : (ex.query state s).1 = .error e)
  | write {state : σ} {s : Statement} (h : (ex.write state s).1 = .error e)

end Executor

namespace Exchange

open Session (Answer Report)

inductive Step (σ : Type) where
  | select (query : Operand Query)
  | selectJson (document : Operand Json)
  | insert (table : String) (record : Operand Record)
  | update (table : String) (changes : Operand Record) (filter : Operand (Option Filter))
  | delete (table : String) (filter : Operand (Option Filter))
  | batch (sql : String)
  | compile (query : Operand Query)
  | setLogQueries (on : Bool)
  | elsewhere (change : σ → σ)

abbrev State (σ : Type) := Client (Recorded σ)

def answered (f : α → Answer) (reply : Reply (Recorded σ) α) : Report × State σ :=
  (⟨(Operand.ofResult reply.result).map f, reply.events⟩, reply.client)

def reading (c : State σ) (operand : Operand α) (act : α → Report × State σ) :
    Report × State σ :=
  match operand with
  | .ok a => act a
  | .error failure => (⟨.error failure, []⟩, c)

def step (ex : Executor σ) (c : State σ) : Step σ → Report × State σ
  | .select query => reading c query fun q => answered .rows (c.select ex.recorded q)
  | .selectJson document => reading c document fun j => answered .rows (c.selectJson ex.recorded j)
  | .insert table record =>
      reading c record fun r => answered .inserted (c.insert ex.recorded table r)
  | .update table changes filter =>
      reading c changes fun r => reading c filter fun f =>
        answered .changed (c.update ex.recorded table r f)
  | .delete table filter =>
      reading c filter fun f => answered .changed (c.delete ex.recorded table f)
  | .batch sql => answered (fun _ => .done) (c.batch ex.recorded sql)
  | .compile query => reading c query fun q => answered .statement (c.compile q)
  | .setLogQueries on => (⟨.ok .done, []⟩, c.setLogQueries on)
  | .elsewhere change =>
      (⟨.ok .done, []⟩, { c with state := { c.state with state := change c.state.state } })

def run (ex : Executor σ) : State σ → List (Step σ) → List (Report × State σ) :=
  Machine.run (step ex)

def final (ex : Executor σ) : State σ → List (Step σ) → State σ :=
  Machine.final (step ex)

namespace Step

def unread? : Step σ → Option ReadFailure
  | select (.error failure) | compile (.error failure) | selectJson (.error failure)
  | insert _ (.error failure) | update _ (.error failure) _ | update _ (.ok _) (.error failure)
  | delete _ (.error failure) => some failure
  | _ => none

def compilation? (mode : ListMode) : Step σ → Option (Operation × Except Error Statement)
  | select (.ok q) | compile (.ok q) => some (.select, q.compile mode)
  | selectJson (.ok j) => some (.select, (Query.ofJson j).bind (Query.compile mode))
  | insert table (.ok r) => some (.insert, .ok (Statement.insert table r))
  | update table (.ok r) (.ok f) => some (.update, Statement.update mode table r f)
  | delete table (.ok f) => some (.delete, Statement.delete mode table f)
  | _ => none

end Step

def told (c : State σ) (op : Operation) (s : Statement) : List Event :=
  if c.options.logQueries then [.compiled op s.sql] else []

/-- All that a step can come to. -/
inductive Ends (ex : Executor σ) (c : State σ) (s : Step σ) : Report × State σ → Prop where
  | unread {failure : ReadFailure} (h : s.unread? = some failure) :
      Ends ex c s (⟨.error failure, []⟩, c)
  | refused {op : Operation} {e : Error}
      (h : s.compilation? c.options.listMode = some (op, .error e)) :
      Ends ex c s (⟨.error (.rejected e), [.rejected op e]⟩, c)
  | compiled {op : Operation} {st : Statement}
      (h : s.compilation? c.options.listMode = some (op, .ok st)) :
      Ends ex c s (⟨.ok (.statement st), told c op st⟩, c)
  | called {op : Operation} {st : Statement} {call : Call} {result : Except Error Answer}
      (state : σ) (h : s.compilation? c.options.listMode = some (op, .ok st))
      (hcall : call = .query st ∨ call = .write st)
      (raises : ∀ e, result = .error e → ex.Raises e) :
      Ends ex c s (⟨Operand.ofResult result, told c op st⟩,
        { c with state := ⟨state, c.state.calls ++ [call]⟩ })
  | batch {sql : String} {result : Except Error Answer} (state : σ) (h : s = .batch sql)
      (raises : ∀ e, result = .error e → ex.Raises e) :
      Ends ex c s (⟨Operand.ofResult result, []⟩,
        { c with state := ⟨state, c.state.calls ++ [.batch sql]⟩ })
  | logging {on : Bool} (h : s = .setLogQueries on) :
      Ends ex c s (⟨.ok .done, []⟩, c.setLogQueries on)
  | elsewhere {change : σ → σ} (h : s = .elsewhere change) :
      Ends ex c s (⟨.ok .done, []⟩,
        { c with state := { c.state with state := change c.state.state } })

variable {ex : Executor σ} {c : State σ} {s : Step σ}

theorem map_ofResult (f : α → Answer) (result : Except Error α) :
    (Operand.ofResult result).map f = Operand.ofResult (result.map f) := by
  cases result <;> rfl

theorem map_eq_error {f : α → Answer} {result : Except Error α} {e : Error}
    (h : result.map f = .error e) : result = .error e := by
  cases result with
  | ok a => cases h
  | error e' => exact congrArg Except.error (Except.error.inj h)

/-- A request is refused, or it makes one call, whatever is made of the answer. -/
theorem ends_perform (r : Request) (call : Statement → Call)
    (answer : σ → Statement → Except Error α × σ)
    (hcall : ∀ st, call st = .query st ∨ call st = .write st)
    (raises : ∀ state st e, (answer state st).1 = .error e → ex.Raises e) (f : α → Answer)
    (hc : s.compilation? c.options.listMode = some (r.operation, r.compile c.options.listMode)) :
    Ends ex c s (answered f (c.perform (Executor.recording call answer) r)) := by
  cases h : r.compile c.options.listMode with
  | error e =>
      have hevents : r.events c.options = [.rejected r.operation e] := by
        simp only [Request.events, h]
      rw [Client.perform_error h, hevents]
      rw [h] at hc
      exact .refused hc
  | ok st =>
      have hevents : r.events c.options = told c r.operation st := by
        simp only [Request.events, h, told]
      rw [Client.perform_ok h, hevents]
      rw [h] at hc
      simp only [answered, Executor.recording, map_ofResult]
      exact .called _ hc (hcall st) fun e he => raises _ _ e (map_eq_error he)

theorem ends_query (q : Query)
    (hc : s.compilation? c.options.listMode = some (.select, q.compile c.options.listMode)) :
    Ends ex c s (answered .rows (c.select ex.recorded q)) :=
  ends_perform (.select q) .query ex.query (fun _ => .inl rfl) (fun _ _ _ => .query) .rows hc

theorem ends_write (r : Request) (f : WriteOutcome → Answer)
    (hc : s.compilation? c.options.listMode = some (r.operation, r.compile c.options.listMode)) :
    Ends ex c s (answered f (c.perform ex.recorded.write r)) :=
  ends_perform r .write ex.write (fun _ => .inr rfl) (fun _ _ _ => .write) f hc

theorem answered_map {β : Type} (f : β → Answer) (g : α → β) (reply : Reply (Recorded σ) α) :
    answered f { reply with result := reply.result.map g } = answered (f ∘ g) reply := by
  obtain ⟨result, events, client⟩ := reply
  cases result <;> rfl

theorem ends_compile (q : Query)
    (hc : s.compilation? c.options.listMode = some (.select, q.compile c.options.listMode)) :
    Ends ex c s (answered .statement (c.compile q)) := by
  simp only [Client.compile, Request.compile, Request.events, answered]
  cases h : q.compile c.options.listMode with
  | error e =>
      rw [h] at hc
      exact .refused hc
  | ok st =>
      rw [h] at hc
      exact .compiled hc

theorem ends_step (ex : Executor σ) (c : State σ) (s : Step σ) : Ends ex c s (step ex c s) := by
  cases s with
  | select query =>
      cases query with
      | error failure => exact .unread rfl
      | ok q => exact ends_query q rfl
  | selectJson document =>
      cases document with
      | error failure => exact .unread rfl
      | ok j =>
          simp only [step, reading, Client.selectJson]
          cases h : Query.ofJson j with
          | error e =>
              refine .refused ?_
              simp only [Step.compilation?, h]
              rfl
          | ok q =>
              refine ends_query q ?_
              simp only [Step.compilation?, h]
              rfl
  | insert table record =>
      cases record with
      | error failure => exact .unread rfl
      | ok r =>
          simp only [step, reading, Client.insert, answered_map]
          exact ends_write (.insert table r) _ rfl
  | update table changes filter =>
      cases changes with
      | error failure => exact .unread rfl
      | ok r =>
          cases filter with
          | error failure => exact .unread rfl
          | ok f =>
              simp only [step, reading, Client.update, answered_map]
              exact ends_write (.update table r f) _ rfl
  | delete table filter =>
      cases filter with
      | error failure => exact .unread rfl
      | ok f =>
          simp only [step, reading, Client.delete, answered_map]
          exact ends_write (.delete table f) _ rfl
  | batch sql =>
      simp only [step, Client.batch, answered, map_ofResult]
      exact .batch _ rfl fun e he => .batch (map_eq_error he)
  | compile query =>
      cases query with
      | error failure => exact .unread rfl
      | ok q => exact ends_compile q rfl
  | setLogQueries on => exact .logging rfl
  | elsewhere change => exact .elsewhere rfl

theorem Ends.listMode {after : Report × State σ} (h : Ends ex c s after) :
    after.2.options.listMode = c.options.listMode := by
  cases h <;> rfl

theorem final_listMode (ex : Executor σ) (c : State σ) (steps : List (Step σ)) :
    (final ex c steps).options.listMode = c.options.listMode :=
  Machine.final_induction (P := fun reached => reached.options.listMode = c.options.listMode)
    (fun reached s h => (ends_step ex reached s).listMode.trans h) rfl steps

end Exchange

end Querysmith
