import Querysmith.Compilation
import Querysmith.ResultSet

namespace Querysmith

structure WriteOutcome where
  rowsAffected : Nat
  lastInsertId : Int
deriving DecidableEq

/-- A database, or what stands in for one, with states in `σ`. -/
structure Executor (σ : Type) where
  batch : σ → String → Except Error Unit × σ
  query : σ → Statement → Except Error ResultSet × σ
  write : σ → Statement → Except Error WriteOutcome × σ

structure Client (σ : Type) where
  options : CompileOptions
  state : σ

structure Reply (σ α : Type) where
  result : Except Error α
  events : List Event
  client : Client σ

namespace Client

variable {σ α : Type}

def setLogQueries (c : Client σ) (on : Bool) : Client σ :=
  { c with options := { c.options with logQueries := on } }

/-- Compiles first: a refused request does not reach the executor. -/
def perform (run : σ → Statement → Except Error α × σ) (c : Client σ) (r : Request) : Reply σ α :=
  let events := r.events c.options
  match r.compile c.options.listMode with
  | .error e => ⟨.error e, events, c⟩
  | .ok s =>
      let (result, state) := run c.state s
      ⟨result, events, { c with state }⟩

theorem perform_error {run : σ → Statement → Except Error α × σ} {c : Client σ} {r : Request}
    {e : Error} (h : r.compile c.options.listMode = .error e) :
    c.perform run r = ⟨.error e, r.events c.options, c⟩ := by
  simp only [perform, h]

theorem perform_ok {run : σ → Statement → Except Error α × σ} {c : Client σ} {r : Request}
    {s : Statement} (h : r.compile c.options.listMode = .ok s) :
    c.perform run r =
      ⟨(run c.state s).1, r.events c.options, { c with state := (run c.state s).2 }⟩ := by
  simp only [perform, h]

def select (ex : Executor σ) (c : Client σ) (query : Query) : Reply σ ResultSet :=
  c.perform ex.query (.select query)

def selectJson (ex : Executor σ) (c : Client σ) (j : Json) : Reply σ ResultSet :=
  match Query.ofJson j with
  | .ok query => c.select ex query
  | .error e => ⟨.error e, [.rejected .select e], c⟩

def insert (ex : Executor σ) (c : Client σ) (table : String) (record : Record) : Reply σ Int :=
  let reply := c.perform ex.write (.insert table record)
  { reply with result := reply.result.map WriteOutcome.lastInsertId }

def update (ex : Executor σ) (c : Client σ) (table : String) (changes : Record)
    (filter : Option Filter) : Reply σ Nat :=
  let reply := c.perform ex.write (.update table changes filter)
  { reply with result := reply.result.map WriteOutcome.rowsAffected }

def delete (ex : Executor σ) (c : Client σ) (table : String) (filter : Option Filter) :
    Reply σ Nat :=
  let reply := c.perform ex.write (.delete table filter)
  { reply with result := reply.result.map WriteOutcome.rowsAffected }

def batch (ex : Executor σ) (c : Client σ) (sql : String) : Reply σ Unit :=
  let (result, state) := ex.batch c.state sql
  ⟨result, [], { c with state }⟩

def compile (c : Client σ) (query : Query) : Reply σ Statement :=
  let r := Request.select query
  ⟨r.compile c.options.listMode, r.events c.options, c⟩

end Client

end Querysmith
