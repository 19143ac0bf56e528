import Querysmith.Database.Journal
import Querysmith.Database.Transaction
import Querysmith.Machine
import Querysmith.Operand

namespace Querysmith

inductive Target where
  | all
  | one (id : Int64)
  | among (ids : List Int64)
deriving DecidableEq

def Target.filter : Target → Option Filter
  | all => none
  | one id => some (Filter.equals "id" (.int id))
  | among ids => some (.fields (OrderedMap.empty.insert "id" (.oneOf (ids.map Value.int))))

namespace Store

inductive Step where
  | insert (v : Operand Value)
  | update (v : Operand Value) (target : Target)
  | delete (target : Target)
  | batch (values : List Int64) (fails : Bool)
  | begin
  | commit
  | rollback
  | reopen

inductive Answer where
  | inserted (id : Int)
  | changed (count : Nat)
  | done
deriving DecidableEq

abbrev State := Client Database

def start (mode : ListMode) : State := ⟨⟨false, mode⟩, .fresh⟩

def insertionText (column : String) (i : Int64) : String :=
  "insert into t (" ++ column ++ ") values (" ++ toString i.toInt ++ ");"

def insertionsText (values : List Int64) : String :=
  String.join (values.map (insertionText "v"))

def batchText (values : List Int64) (fails : Bool) : String :=
  insertionsText values ++ if fails then insertionText "nope" 0 else ""

def valueRecord (v : Value) : Record :=
  OrderedMap.empty.insert "v" v

variable {α : Type}

def answered (f : α → Answer) (reply : Reply Database α) : Operand Answer × State :=
  ((Operand.ofResult reply.result).map f, reply.client)

def reading (c : State) (operand : Operand α) (act : α → Operand Answer × State) :
    Operand Answer × State :=
  match operand with
  | .ok a => act a
  | .error failure => (.error failure, c)

def onDatabase (c : State) (act : Database → Except DatabaseFault Unit × Database) :
    Operand Answer × State :=
  let (result, d) := act c.state
  ((Operand.ofResult (result.mapError .database)).map fun _ => .done, { c with state := d })

def reopened (medium : Medium) (d : Database) : Database :=
  match medium with
  | .file => { d.close with lastId := 0 }
  | _ => { d with toContents := .empty }

def step (medium : Medium) (c : State) : Step → Operand Answer × State
  | .insert v =>
      reading c v fun v => answered .inserted (c.insert Database.executor "t" (valueRecord v))
  | .update v target =>
      reading c v fun v =>
        answered .changed (c.update Database.executor "t" (valueRecord v) target.filter)
  | .delete target => answered .changed (c.delete Database.executor "t" target.filter)
  | .batch values fails =>
      answered (fun _ => .done) (c.batch Database.executor (batchText values fails))
  | .begin => onDatabase c Database.begin
  | .commit => onDatabase c Database.commit
  | .rollback => onDatabase c Database.rollback
  | .reopen => (.ok .done, { c with state := reopened medium c.state })

def run (medium : Medium) : State → List Step → List (Operand Answer × State) :=
  Machine.run (step medium)

def final (medium : Medium) : State → List Step → State :=
  Machine.final (step medium)

end Store

end Querysmith
