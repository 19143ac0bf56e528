import Querysmith.CommandLine.Arguments
import Querysmith.Database.Journal
import Querysmith.Executor
import Querysmith.Operand

namespace Querysmith.CommandLine

/-- A text that is no document is a statement itself. -/
def readRequest (text : String) : Json :=
  (Json.parse? text).getD (.string text)

def readRecord (text : String) : Operand Record :=
  (Operand.ofText text).bind fun j => Operand.ofResult (Record.ofJson j)

def readFilter : Option String → Operand (Option Filter)
  | none => .ok none
  | some text =>
      (Operand.ofText text).bind fun j =>
        (Operand.ofResult ((Filter.ofJson j).mapError FilterFault.error)).map some

def paramsJson (params : List Value) : Json :=
  .array (params.map Value.toJson)

def statementJson (s : Statement) : Json :=
  .object [("sql", .string s.sql), ("params", paramsJson s.params)]

variable {σ α : Type}

structure Answer (σ : Type) where
  result : Operand Json
  events : List Event
  client : Client σ

def answered (f : α → Json) (reply : Reply σ α) : Answer σ :=
  ⟨(Operand.ofResult reply.result).map f, reply.events, reply.client⟩

def reading (c : Client σ) (operand : Operand α) (act : α → Answer σ) : Answer σ :=
  match operand with
  | .ok a => act a
  | .error failure => ⟨.error failure, [], c⟩

def dryRun (c : Client σ) (request : Json) : Reply σ Statement :=
  match Query.ofJson request with
  | .ok query => c.compile query
  | .error e => ⟨.error e, [], c⟩

def perform (ex : Executor σ) (c : Client σ) : Command → Answer σ
  | .select request => answered ResultSet.toJson (c.selectJson ex (readRequest request))
  | .insert table record =>
      reading c (readRecord record) fun r =>
        answered (fun id => .object [("id", Json.ofInt id)]) (c.insert ex table r)
  | .update table changes filter =>
      reading c (readRecord changes) fun r => reading c (readFilter filter) fun f =>
        answered (fun n : Nat => .object [("changes", Json.ofInt n)]) (c.update ex table r f)
  | .delete table filter =>
      reading c (readFilter filter) fun f =>
        answered (fun n : Nat => .object [("changes", Json.ofInt n)]) (c.delete ex table f)
  | .sql request => answered statementJson (dryRun c (readRequest request))

def printed (j : Json) : String :=
  j.pretty ++ "\n"

def Arguments.options (a : Arguments) : Options :=
  ((Options.ofPath a.db).set (.logQueries a.logQueries)).set (.listMode a.listMode)

def run (ex : Executor σ) (state : σ) (a : Arguments) : Answer σ :=
  let c : Client σ := ⟨a.options.compileOptions, state⟩
  match Medium.ofPath a.db with
  | .ok _ => perform ex c a.command
  | .error fault => ⟨.error (.rejected (.database (.notOpened fault))), [], c⟩

end Querysmith.CommandLine
