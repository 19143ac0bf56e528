import Querysmith.Executor
import Querysmith.Machine
import Querysmith.Operand

namespace Querysmith

inductive Call where
  | batch (sql : String)
  | query (s : Statement)
  | write (s : Statement)
deriving DecidableEq

structure Recorder where
  calls : List Call
  outcome : WriteOutcome
  rows : ResultSet
  failure : Option Error
deriving DecidableEq

namespace Recorder

def fresh : Recorder := ⟨[], ⟨0, 0⟩, .empty, none⟩

variable {α : Type}

def answer (call : Call) (a : α) (r : Recorder) : Except Error α × Recorder :=
  let result := match r.failure with
    | some e => .error e
    | none => .ok a
  (result, { r with calls := r.calls ++ [call] })

def executor : Executor Recorder where
  batch := fun r sql => r.answer (.batch sql) ()
  query := fun r s => r.answer (.query s) r.rows
  write := fun r s => r.answer (.write s) r.outcome

end Recorder

namespace Session

inductive Step where
  | select (query : Operand Query)
  | selectOrEmpty (query : Operand Query)
  | selectJson (document : Operand Json)
  | insert (table : String) (record : Operand Record)
  | update (table : String) (changes : Operand Record) (filter : Operand (Option Filter))
  | delete (table : String) (filter : Operand (Option Filter))
  | batch (sql : String)
  | compile (query : Operand Query)
  | setLogQueries (on : Bool)
  | fail (error : Option Error)
  /-- The outcome is set even if the rows cannot be read. -/
  | respond (outcome : Option WriteOutcome) (rows : Operand (Option ResultSet))

inductive Answer where
  | rows (s : ResultSet)
  | inserted (id : Int)
  | changed (count : Nat)
  | statement (s : Statement)
  | logging (on : Bool)
  | done
deriving DecidableEq

structure Report where
  result : Operand Answer
  events : List Event

abbrev State := Client Recorder

def start (options : CompileOptions) : State := ⟨options, .fresh⟩

variable {α β : Type}

def answered (f : α → Answer) (reply : Reply Recorder α) : Report × State :=
  (⟨(Operand.ofResult reply.result).map f, reply.events⟩, reply.client)

@[simp]
theorem answered_ok (f : α → Answer) (a : α) (events : List Event) (client : State) :
    answered f ⟨.ok a, events, client⟩ = (⟨.ok (f a), events⟩, client) := rfl

@[simp]
theorem answered_error (f : α → Answer) (e : Error) (events : List Event) (client : State) :
    answered f ⟨.error e, events, client⟩ = (⟨.error (.rejected e), events⟩, client) := rfl

def reading (c : State) (operand : Operand α) (act : α → Report × State) : Report × State :=
  match operand with
  | .ok a => act a
  | .error failure => (⟨.error failure, []⟩, c)

def orEmpty (reply : Reply Recorder ResultSet) : Reply Recorder ResultSet :=
  match reply.result with
  | .ok _ => reply
  | .error _ => { reply with result := .ok .empty }

def step (c : State) : Step → Report × State
  | .select query => reading c query fun q => answered .rows (c.select Recorder.executor q)
  | .selectOrEmpty query =>
      reading c query fun q => answered .rows (orEmpty (c.select Recorder.executor q))
  | .selectJson document =>
      reading c document fun j => answered .rows (c.selectJson Recorder.executor j)
  | .insert table record =>
      reading c record fun r => answered .inserted (c.insert Recorder.executor table r)
  | .update table changes filter =>
      reading c changes fun r => reading c filter fun f =>
        answered .changed (c.update Recorder.executor table r f)
  | .delete table filter =>
      reading c filter fun f => answered .changed (c.delete Recorder.executor table f)
  | .batch sql => answered (fun _ => .done) (c.batch Recorder.executor sql)
  | .compile query => reading c query fun q => answered .statement (c.compile q)
  | .setLogQueries on => (⟨.ok (.logging on), []⟩, c.setLogQueries on)
  | .fail error => (⟨.ok .done, []⟩, { c with state := { c.state with failure := error } })
  | .respond outcome rows =>
      let c := { c with state := { c.state with outcome := outcome.getD c.state.outcome } }
      reading c rows fun s =>
        (⟨.ok .done, []⟩, { c with state := { c.state with rows := s.getD c.state.rows } })

def run : State → List Step → List (Report × State) :=
  Machine.run step

def final : State → List Step → State :=
  Machine.final step

end Session

end Querysmith
