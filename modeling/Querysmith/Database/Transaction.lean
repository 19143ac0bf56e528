import Querysmith.Database.Engine
import Querysmith.Database.Preparation
import Querysmith.Executor
import Querysmith.Text.Blank

namespace Querysmith

structure Database extends Contents where
  moment : Nat
  engine : Engine

namespace Database

def fresh : Database := ⟨.empty, 0, .plain⟩

def later (d : Database) : Database :=
  { d with moment := d.moment + 1 }

def take (d : Database) (e : Effect) : Database :=
  { d.later with table := e.table, lastId := e.inserted.getD d.lastId }

def run (d : Database) (plan : Plan) (params : List Cell) :
    Except DatabaseFault Effect × Database :=
  match plan.run (params.map Cell.kept) d.table (d.engine.draws d.moment) with
  | .error fault => (.error fault, d.later)
  | .ok e => (.ok e, d.take e)

/-- A text in which a fault was found is none of the statements that are read here. -/
def pass (d : Database) (fault : DatabaseFault) (text : List Char) (params : List Value) :
    Except DatabaseFault Consequence × Database :=
  if fault.isForeign then
    match d.engine.foreign d.moment fault text params d.toContents with
    | .error fault => (.error fault, d.later)
    | .ok found => (.ok found, { d.take found.effect with saved := found.saved })
  else (.error fault, d.later)

def runFirst (text : List Char) (d : Database) :
    Except DatabaseFault (Option (List Char)) × Database :=
  if text.isEmpty then (.ok none, d)
  else
    match d.engine.refuses d.moment text [] with
    | some fault => (.error fault, d.later)
    | none =>
        match Prepared.next text with
        | .error fault =>
            let (result, after) := d.pass (.refused fault (String.ofList text)) text []
            (result.map fun found => some (text.drop (found.length + 1)), after)
        | .ok (none, _) => (.ok none, d)
        | .ok (some p, rest) =>
            let (result, after) := d.run p.plan []
            (result.map fun _ => some rest, after)

/-- The statements of a text run one after the other up to the first that fails. The count bounds
them and is never reached when it is more than the length of the text. -/
def runText : Nat → List Char → Database → Except DatabaseFault Unit × Database
  | 0, _, d => (.ok (), d)
  | count + 1, text, d =>
      match runFirst text d with
      | (.error fault, d) => (.error fault, d)
      | (.ok none, d) => (.ok (), d)
      | (.ok (some rest), d) => runText count rest d

def begin (d : Database) : Except DatabaseFault Unit × Database :=
  match d.saved with
  | none => (.ok (), { d with saved := some d.table })
  | some _ => (.error .beginInTransaction, d)

def commit (d : Database) : Except DatabaseFault Unit × Database :=
  match d.saved with
  | none => (.error .commitOutsideTransaction, d)
  | some _ => (.ok (), { d with saved := none })

def rollback (d : Database) : Except DatabaseFault Unit × Database :=
  match d.saved with
  | none => (.error .rollbackOutsideTransaction, d)
  | some t => (.ok (), { d with table := t, saved := none })

def inTransaction (d : Database) (act : Database → Except DatabaseFault Unit × Database) :
    Except DatabaseFault Unit × Database :=
  match d.saved with
  | some _ => act d
  | none =>
      match act d.begin.2 with
      | (.ok (), after) => after.commit
      | (.error fault, after) => (.error fault, after.rollback.2)

def close (d : Database) : Database :=
  match d.saved with
  | none => d
  | some _ => d.rollback.2

def perform (d : Database) (text : List Char) (params : List Value) :
    Except DatabaseFault Effect × Database :=
  match d.engine.refuses d.moment text params with
  | some fault => (.error fault, d.later)
  | none =>
      match Prepared.sole? text with
      | .error fault =>
          let (result, after) := d.pass fault text params
          (result.map Consequence.effect, after)
      | .ok found =>
          match Prepared.checkCount params.length ((found.map Prepared.arity).getD 0), found with
          | .error fault, _ => (.error fault, d.later)
          | .ok (), none => (.error .noStatement, d.later)
          | .ok (), some p => d.run p.plan (params.map Value.cell)

def query (d : Database) (s : Statement) : Except Error ResultSet × Database :=
  let (result, after) := d.perform s.sql.toList s.params
  ((result.map Effect.rows).mapError .database, after)

def outcome (after : Database) (e : Effect) : Except DatabaseFault WriteOutcome :=
  if e.rows.isEmpty then .ok ⟨e.changed, after.lastId⟩ else .error .returnsRows

/-- Blanks around the text of a write are no part of it. -/
def write (d : Database) (s : Statement) : Except Error WriteOutcome × Database :=
  let (result, after) := d.perform (Text.trim s.sql.toList) s.params
  ((result.bind (outcome after)).mapError .database, after)

def script (d : Database) (sql : String) : Except Error Unit × Database :=
  let (result, after) := d.inTransaction (runText (sql.length + 1) sql.toList)
  (result.mapError .database, after)

def executor : Executor Database where
  batch := script
  query := query
  write := write

end Database

end Querysmith
