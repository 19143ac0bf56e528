import Querysmith.Error
import Querysmith.Json.Reader

namespace Querysmith

inductive ReadFailure where
  | malformed
  | rejected (error : Error)
  /-- A typed reader refused the document and passed on the message alone. -/
  | undecodable (message : String)
deriving DecidableEq

abbrev Operand (α : Type) := Except ReadFailure α

namespace Operand

def ofText (text : String) : Operand Json :=
  match Json.parse? text with
  | some j => .ok j
  | none => .error .malformed

variable {α : Type}

def ofResult (r : Except Error α) : Operand α :=
  r.mapError .rejected

def ofDecoded (r : Except Error α) : Operand α :=
  r.mapError fun e => .undecodable e.message

end Operand

end Querysmith
