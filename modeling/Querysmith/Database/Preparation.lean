import Querysmith.Database.Resolution
import Querysmith.Error
import Querysmith.Sql.Reader.Command

namespace Querysmith

structure Prepared where
  plan : Plan
  arity : Nat

namespace Prepared

def ofParsed (p : Sql.Parsed) : Except Sql.Fault Prepared :=
  (Plan.ofCommand p.command).map fun plan => ⟨plan, p.arity⟩

def next (text : List Char) : Except Sql.Fault (Option Prepared × List Char) := do
  match ← Sql.Parsed.next text with
  | (none, rest) => .ok (none, rest)
  | (some p, rest) => .ok (some (← ofParsed p), rest)

/-- The only statement of a text, unless the text has none. A fault in the second statement comes
before the fault that there is a second one. The count bounds the statements and is never reached
when it is more than the length of the text. -/
def soleFrom : Nat → List Char → Except DatabaseFault (Option Prepared)
  | 0, _ => .ok none
  | count + 1, text =>
      match next text with
      | .error fault => .error (.refused fault (String.ofList text))
      | .ok (found, []) => .ok found
      | .ok (found, rest) =>
          match soleFrom count rest with
          | .error fault => .error fault
          | .ok none => .ok found
          | .ok (some _) => .error .severalStatements

def sole? (text : List Char) : Except DatabaseFault (Option Prepared) :=
  soleFrom (text.length + 1) text

/-- Of parameters that are too many, the first that has no place is the last that is counted. -/
def checkCount (got needed : Nat) : Except DatabaseFault Unit :=
  if got = needed then .ok () else .error (.wrongParameterCount (min got (needed + 1)) needed)

end Prepared

end Querysmith
