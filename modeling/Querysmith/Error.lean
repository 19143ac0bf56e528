import Querysmith.Json.Printer
import Querysmith.Sql.Fault
import Querysmith.Text.Quoted

namespace Querysmith

inductive FilterFault where
  | notObject (got : Json)
  | paramsNotArray (got : Json)
deriving DecidableEq

inductive SelectionFault where
  | notText (got : Json)
  | notCount (got : Json)
  | negative (n : Int)
  | notFieldList
  | filter (fault : FilterFault)
deriving DecidableEq

inductive ArgumentFault where
  | filterNotObject (got : Json)
  | recordNotObject (got : Json)
  | neitherTextNorObject
  | selection (fault : SelectionFault)
  | other (reason : String)
deriving DecidableEq

inductive ParameterFault where
  | paramsNotArray (got : Json)
  | other (reason : String)
deriving DecidableEq

inductive OpeningFault where
  | zeroInPath (path : String)
  | invalidAuthority (host : String)
  | noSuchMode (kind mode : String)
  | noSuchFileSystem (name : String)
  | cannotOpen (path : String)
  | readOnly
deriving DecidableEq

inductive DatabaseFault where
  | notOpened (fault : OpeningFault)
  | refused (fault : Sql.Fault) (text : String)
  | severalStatements
  | noStatement
  | wrongParameterCount (got needed : Nat)
  | notInteger
  | idTaken
  | full
  | returnsRows
  | noSuchCell (place : Nat)
  | beginInTransaction
  | commitOutsideTransaction
  | rollbackOutsideTransaction
  | other (reason : String)
deriving DecidableEq

inductive Error where
  | invalidArgument (fault : ArgumentFault)
  /-- The operation got a table whose name is cut to nothing. -/
  | missingTable (operation : String)
  | noFieldsToUpdate
  | database (fault : DatabaseFault)
  | parameter (fault : ParameterFault)
  | execution (message : String)
deriving DecidableEq

def FilterFault.error : FilterFault → Error
  | notObject got => .invalidArgument (.filterNotObject got)
  | paramsNotArray got => .parameter (.paramsNotArray got)

def filterNotObjectText (got : Json) : String :=
  "where must be an object, got " ++ got.compact

def paramsNotArrayText (got : Json) : String :=
  "where.params must be an array, got " ++ got.compact

def invalidArgumentText (reason : String) : String :=
  "Invalid argument: " ++ reason

def parameterText (reason : String) : String :=
  "Parameter conversion error: " ++ reason

def FilterFault.message : FilterFault → String
  | notObject got => invalidArgumentText (filterNotObjectText got)
  | paramsNotArray got => parameterText (paramsNotArrayText got)

def foundText : Json → String
  | .null => "null"
  | .bool b => "boolean `" ++ (if b then "true" else "false") ++ "`"
  | .number (.integer n lower upper) =>
      "integer `" ++ (Json.Number.integer n lower upper).text ++ "`"
  | .number (.double x finite) => "floating point `" ++ (Json.Number.double x finite).text ++ "`"
  | .string s => "string " ++ Text.quoted s
  | .array _ => "sequence"
  | .object _ => "map"

def SelectionFault.message : SelectionFault → String
  | notText got => "invalid type: " ++ foundText got ++ ", expected a string"
  | notCount got => "invalid type: " ++ foundText got ++ ", expected u64"
  | negative n => "invalid value: integer `" ++ toString n ++ "`, expected u64"
  | notFieldList => "data did not match any variant of untagged enum FieldList"
  | filter fault => fault.message

def ArgumentFault.message : ArgumentFault → String
  | filterNotObject got => filterNotObjectText got
  | recordNotObject got => "record must be an object, got " ++ got.compact
  | neitherTextNorObject => "First argument in select must be either a string or an object"
  | selection fault => "bad select request: " ++ fault.message
  | other reason => reason

def ParameterFault.message : ParameterFault → String
  | paramsNotArray got => paramsNotArrayText got
  | other reason => reason

def byteOffset (text : String) (position : Nat) : Nat :=
  (String.ofList (text.toList.take position)).utf8ByteSize

namespace OpeningFault

def firstZero (path : String) : Nat :=
  byteOffset path (path.toList.idxOf '\x00')

def reason : OpeningFault → String
  | zeroInPath path => "nul byte found in provided data at position: " ++ toString (firstZero path)
  | invalidAuthority host => "invalid uri authority: " ++ host
  | noSuchMode kind mode => "no such " ++ kind ++ " mode: " ++ mode
  | noSuchFileSystem name => "no such vfs: " ++ name
  | cannotOpen path => "unable to open database file: " ++ path
  | readOnly => "attempt to write a readonly database"

def resultCode : OpeningFault → String × Nat
  | cannotOpen _ => ("CannotOpen", 14)
  | readOnly => ("ReadOnly", 8)
  | _ => ("Unknown", 1)

end OpeningFault

namespace DatabaseFault

def reason : DatabaseFault → String
  | notOpened fault => fault.reason
  | refused fault _ => fault.reason
  | severalStatements => "Multiple statements provided"
  | noStatement => "bad parameter or other API misuse"
  | wrongParameterCount got needed =>
      "Wrong number of parameters passed to query. Got " ++ toString got ++ ", needed " ++
        toString needed
  | notInteger => "datatype mismatch"
  | idTaken => "UNIQUE constraint failed: t.id"
  | full => "database or disk is full"
  | returnsRows => "Execute returned results - did you mean to call query?"
  | noSuchCell place => "Invalid column index: " ++ toString place
  | beginInTransaction => "cannot start a transaction within a transaction"
  | commitOutsideTransaction => "cannot commit - no transaction is active"
  | rollbackOutsideTransaction => "cannot rollback - no transaction is active"
  | other reason => reason

def isForeign : DatabaseFault → Bool
  | refused fault _ => fault.isForeign
  | _ => false

def place? : DatabaseFault → Option (String × Nat)
  | refused fault text => fault.position?.map fun n => (text, byteOffset text n)
  | _ => none

def message (f : DatabaseFault) : String :=
  match f.place? with
  | some (text, offset) => f.reason ++ " in " ++ text ++ " at offset " ++ toString offset
  | none => f.reason

def resultCode : DatabaseFault → String × Nat
  | notOpened fault => fault.resultCode
  | noStatement => ("ApiMisuse", 21)
  | notInteger => ("TypeMismatch", 20)
  | idTaken => ("ConstraintViolation", 1555)
  | full => ("DiskFull", 13)
  | _ => ("Unknown", 1)

def resultText (f : DatabaseFault) : String :=
  "Error \x7b code: " ++ f.resultCode.1 ++ ", extended_code: " ++ toString f.resultCode.2 ++ " \x7d"

def bytesText (s : String) : String :=
  "[" ++ ", ".intercalate (s.toUTF8.toList.map toString) ++ "]"

def details (f : DatabaseFault) : String :=
  match f with
  | notOpened (.zeroInPath path) =>
      "NulError(NulError(" ++ toString (OpeningFault.firstZero path) ++ ", " ++ bytesText path ++
        "))"
  | wrongParameterCount got needed =>
      "InvalidParameterCount(" ++ toString got ++ ", " ++ toString needed ++ ")"
  | severalStatements => "MultipleStatement"
  | returnsRows => "ExecuteReturnedResults"
  | noSuchCell place => "InvalidColumnIndex(" ++ toString place ++ ")"
  | f =>
      match f.place? with
      | some (text, offset) =>
          "SqlInputError \x7b error: " ++ f.resultText ++ ", msg: " ++ Text.quoted f.reason ++
            ", sql: " ++ Text.quoted text ++ ", offset: " ++ toString offset ++ " \x7d"
      | none =>
          "SqliteFailure(" ++ f.resultText ++ ", Some(" ++ Text.quoted f.reason ++ "))"

end DatabaseFault

namespace Error

def message : Error → String
  | invalidArgument fault => invalidArgumentText fault.message
  | missingTable operation => "[sqlite-wrapper." ++ operation ++ "]: table is undefined"
  | noFieldsToUpdate => "[sqlite-wrapper.update]: no fields to update"
  | database fault => fault.message
  | parameter fault => parameterText fault.message
  | execution message => "SQL execution error: " ++ message

/-- Whether the request was at fault and not its execution. -/
def isValidation : Error → Bool
  | invalidArgument _ | missingTable _ | noFieldsToUpdate => true
  | _ => false

def details : Error → String
  | invalidArgument fault => "InvalidArgument(" ++ Text.quoted fault.message ++ ")"
  | missingTable operation =>
      "MissingTable \x7b operation: " ++ Text.quoted operation ++ " \x7d"
  | noFieldsToUpdate => "NoFieldsToUpdate"
  | database fault => "SqliteError(" ++ fault.details ++ ")"
  | parameter fault => "ParameterError(" ++ Text.quoted fault.message ++ ")"
  | execution message => "ExecutionError(" ++ Text.quoted message ++ ")"

end Error

end Querysmith
