import Querysmith.CommandLine.Program
import Querysmith.Proofs.Exchange

namespace Querysmith.CommandLine

variable {σ : Type}

/-- The statement that a request stands for: a text that is no document is one itself. -/
def statement (mode : ListMode) (request : String) : Except Error Statement :=
  match Json.parse? request with
  | none => .ok ⟨request, []⟩
  | some j => (Query.ofJson j).bind (Query.compile mode)

/-- What a request comes to, on the database under the path. -/
def requested (a : Arguments) (request : String) : Operand Statement :=
  match Medium.ofPath a.db with
  | .ok _ => Operand.ofResult (statement a.listMode request)
  | .error fault => .error (.rejected (.database (.notOpened fault)))

def queried (ex : Executor σ) (state : σ) : Operand Statement → Operand ResultSet × σ
  | .ok s => (Operand.ofResult (ex.query state s).1, (ex.query state s).2)
  | .error failure => (.error failure, state)

theorem bind_ofJson_readRequest (mode : ListMode) (request : String) :
    (Query.ofJson (readRequest request)).bind (Query.compile mode) = statement mode request := by
  rw [readRequest, statement]
  cases Json.parse? request with
  | none => rfl
  | some j => rfl

theorem dryRun_readRequest (c : Client σ) (request : String) :
    (dryRun c (readRequest request)).result = statement c.options.listMode request ∧
      (dryRun c (readRequest request)).client = c := by
  rw [← bind_ofJson_readRequest, dryRun]
  cases Query.ofJson (readRequest request) with
  | error e => exact ⟨rfl, rfl⟩
  | ok q => exact ⟨rfl, rfl⟩

theorem select_eq_queried (ex : Executor σ) (c : Client σ) (q : Query) :
    (Operand.ofResult (c.select ex q).result, (c.select ex q).client.state) =
      queried ex c.state (Operand.ofResult (q.compile c.options.listMode)) := by
  cases h : q.compile c.options.listMode with
  | error e =>
      have hr : (Request.select q).compile c.options.listMode = .error e := h
      rw [Client.select, Client.perform_error hr]
      rfl
  | ok s =>
      have hr : (Request.select q).compile c.options.listMode = .ok s := h
      rw [Client.select, Client.perform_ok hr]
      rfl

theorem selectJson_eq_queried (ex : Executor σ) (c : Client σ) (request : String) :
    (Operand.ofResult (c.selectJson ex (readRequest request)).result,
        (c.selectJson ex (readRequest request)).client.state) =
      queried ex c.state (Operand.ofResult (statement c.options.listMode request)) := by
  rw [← bind_ofJson_readRequest, Client.selectJson]
  cases Query.ofJson (readRequest request) with
  | error e => rfl
  | ok q => exact select_eq_queried ex c q

theorem run_sql (ex : Executor σ) (state : σ) (a : Arguments) (request : String) :
    (run ex state { a with command := .sql request }).result =
        (requested a request).map (fun s =>
          .object [("sql", .string s.sql), ("params", .array (s.params.map Value.toJson))]) ∧
      (run ex state { a with command := .sql request }).client.state = state := by
  rw [run, requested]
  cases Medium.ofPath a.db with
  | error fault => exact ⟨rfl, rfl⟩
  | ok medium =>
      obtain ⟨hresult, hclient⟩ :=
        dryRun_readRequest (⟨a.options.compileOptions, state⟩ : Client σ) request
      constructor
      · exact congrArg (fun r => (Operand.ofResult r).map statementJson) hresult
      · exact congrArg Client.state hclient

/-- The command select runs what the request comes to. -/
theorem run_select (ex : Executor σ) (state : σ) (a : Arguments) (request : String) :
    (run ex state { a with command := .select request }).result =
        (queried ex state (requested a request)).1.map ResultSet.toJson ∧
      (run ex state { a with command := .select request }).client.state =
        (queried ex state (requested a request)).2 := by
  rw [run, requested]
  cases Medium.ofPath a.db with
  | error fault => exact ⟨rfl, rfl⟩
  | ok medium =>
      have h := selectJson_eq_queried ex (⟨a.options.compileOptions, state⟩ : Client σ) request
      constructor
      · exact congrArg (fun r => r.1.map ResultSet.toJson) h
      · exact congrArg Prod.snd h

theorem calls_queried (ex : Executor σ) (state : σ) (found : Operand Statement) :
    (queried ex.recorded ⟨state, []⟩ found).2.calls =
      match found with
      | .ok s => [.query s]
      | .error _ => [] := by
  cases found with
  | error failure => rfl
  | ok s => rfl

theorem statement_of_foreign {j : Json} {request : String} (h : Json.parse? request = some j)
    (hs : ∀ text, j ≠ .string text) (ho : ∀ fields, j ≠ .object fields) (mode : ListMode) :
    statement mode request = .error (.invalidArgument .neitherTextNorObject) := by
  rw [statement, h]
  cases j with
  | null | bool | number | array => rfl
  | string text => exact absurd rfl (hs text)
  | object fields => exact absurd rfl (ho fields)

theorem exists_ofPath {path : String} (hzero : '\x00' ∉ path.toList)
    (hfile : startsWith "file:" path = false) : ∃ medium, Medium.ofPath path = .ok medium :=
  ⟨_, Medium.ofPath_of_plain hzero hfile⟩

/-- The two commands on the same request: one shows a statement if and only if the other queries the
executor with it, and neither gets further than the other. -/
theorem sql_shows_what_select_runs (ex : Executor σ) (state : σ) (a : Arguments)
    (request : String) :
    let start : Recorded σ := ⟨state, []⟩
    let shown := run ex.recorded start { a with command := .sql request }
    let done := run ex.recorded start { a with command := .select request }
    shown.result = (requested a request).map (fun s =>
      .object [("sql", .string s.sql), ("params", .array (s.params.map Value.toJson))]) ∧
    shown.client.state = start ∧
    (∀ medium, Medium.ofPath a.db = .ok medium → requested a request =
      Operand.ofResult (dryRun ⟨a.options.compileOptions, start⟩ (readRequest request)).result) ∧
    (∀ s, requested a request = .ok s ↔ done.client.state.calls = [.query s]) ∧
    (∀ s, requested a request = .ok s →
      done.result = (Operand.ofResult (ex.query state s).1).map ResultSet.toJson) ∧
    (∀ failure, requested a request = .error failure →
      shown.result = .error failure ∧ done.result = .error failure ∧ done.client.state = start) ∧
    (∀ medium, Medium.ofPath a.db = .ok medium → Json.parse? request = none →
      requested a request = .ok ⟨request, []⟩) ∧
    ∀ j, Json.parse? request = some j →
      (∀ medium, Medium.ofPath a.db = .ok medium → requested a request =
        Operand.ofResult ((Query.ofJson j).bind (Query.compile a.listMode))) ∧
      ((∀ text, j ≠ .string text) → (∀ fields, j ≠ .object fields) →
        (∃ failure, done.result = .error failure) ∧ done.client.state = start) := by
  intro start shown done
  obtain ⟨hshown, hquiet⟩ := run_sql ex.recorded start a request
  obtain ⟨hresult, hstate⟩ := run_select ex.recorded start a request
  have hcalls : done.client.state.calls = _ :=
    (congrArg Recorded.calls hstate).trans (calls_queried ex state (requested a request))
  have hfailed : ∀ failure, requested a request = .error failure →
      shown.result = .error failure ∧ done.result = .error failure ∧ done.client.state = start := by
    intro failure h
    rw [h] at hshown hresult hstate
    exact ⟨hshown, hresult, hstate⟩
  refine ⟨hshown, hquiet, ?_, ?_, ?_, hfailed, ?_, ?_⟩
  · intro medium hm
    rw [requested, hm, (dryRun_readRequest _ request).1]
    rfl
  · intro s
    rw [hcalls]
    cases requested a request with
    | error failure => simp
    | ok s' => simp
  · intro s h
    rw [h] at hresult
    exact hresult
  · intro medium hm h
    rw [requested, hm, statement, h]
    rfl
  · intro j h
    refine ⟨fun medium hm => by rw [requested, hm, statement, h], fun hs ho => ?_⟩
    have hforeign : ∃ failure, requested a request = .error failure := by
      rw [requested, statement_of_foreign h hs ho]
      cases Medium.ofPath a.db with
      | error fault => exact ⟨_, rfl⟩
      | ok medium => exact ⟨_, rfl⟩
    obtain ⟨failure, hfailure⟩ := hforeign
    obtain ⟨-, hdone, hstart⟩ := hfailed failure hfailure
    exact ⟨⟨failure, hdone⟩, hstart⟩

/-- A number is no statement, although its text is not empty; a text that is no document is one. -/
theorem sql_shows_what_select_runs_of_number_and_text :
    let a : Arguments := ⟨":memory:", false, .inline, none, .sql "?"⟩
    let start : Recorded Recorder := ⟨.fresh, []⟩
    let done (request : String) : Answer (Recorded Recorder) :=
      run Recorder.executor.recorded start { a with command := .select request }
    (run Recorder.executor.recorded start { a with command := .sql "?" }).result =
        .ok (.object [("sql", .string "?"), ("params", .array [])]) ∧
      (done "?").client.state.calls = [.query ⟨"?", []⟩] ∧ (done "5").client.state = start := by
  intro a start done
  obtain ⟨medium, hopened⟩ : ∃ medium, Medium.ofPath a.db = .ok medium :=
    exists_ofPath (by decide) (by decide)
  obtain ⟨hshown, -, -, hcalls, -, -, htext, -⟩ :=
    sql_shows_what_select_runs Recorder.executor .fresh a "?"
  obtain ⟨-, -, -, -, -, -, -, hdocument⟩ :=
    sql_shows_what_select_runs Recorder.executor .fresh a "5"
  have hrequested := htext _ hopened (by rfl)
  rw [hrequested] at hshown
  exact ⟨hshown, (hcalls _).1 hrequested,
    ((hdocument _ (by rfl)).2 (by rintro _ ⟨⟩) (by rintro _ ⟨⟩)).2⟩

end Querysmith.CommandLine
