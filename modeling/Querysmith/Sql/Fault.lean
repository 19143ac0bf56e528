

namespace Querysmith.Sql

/-- Positions count the characters of the text before. -/
inductive Fault where
  | unrecognized (token : String) (position : Nat)
  | unexpected (token : String) (position : Nat)
  | incomplete
  | misseparated (number : String)
  | hexTooBig (number : String) (position : Nat)
  | noSlot (position : Nat)
  | tooManySlots (position : Nat)
  | noSuchTable (table : String)
  | noSuchColumn (column : String) (position : Option Nat)
  | columnNotInTable (table column : String)
  | valuesForColumns (values columns : Nat)
  | valuesForTable (table : String) (columns values : Nat)
  | termOutOfRange (term columns : Nat) (position : Option Nat)
  | noTables
  | tooManyColumns
  | unlikeRows
deriving DecidableEq

def ordinal (n : Nat) : String :=
  let ending :=
    if n / 10 % 10 = 1 then "th"
    else match n % 10 with
      | 1 => "st"
      | 2 => "nd"
      | 3 => "rd"
      | _ => "th"
  toString n ++ ending

namespace Fault

def reason : Fault → String
  | unrecognized token _ => "unrecognized token: \"" ++ token ++ "\""
  | unexpected token _ => "near \"" ++ token ++ "\": syntax error"
  | incomplete => "incomplete input"
  | misseparated number => "unrecognized token: \"" ++ number ++ "\""
  | hexTooBig number _ => "hex literal too big: " ++ number
  | noSlot _ => "variable number must be between ?1 and ?32766"
  | tooManySlots _ => "too many SQL variables"
  | noSuchTable table => "no such table: " ++ table
  | noSuchColumn column _ => "no such column: " ++ column
  | columnNotInTable table column => "table " ++ table ++ " has no column named " ++ column
  | valuesForColumns values columns =>
      toString values ++ " values for " ++ toString columns ++ " columns"
  | valuesForTable table columns values =>
      "table " ++ table ++ " has " ++ toString columns ++ " columns but " ++ toString values ++
        " values were supplied"
  | termOutOfRange term columns _ =>
      ordinal term ++ " ORDER BY term out of range - should be between 1 and " ++ toString columns
  | noTables => "no tables specified"
  | tooManyColumns => "too many columns in result set"
  | unlikeRows => "all VALUES must have the same number of terms"

def position? : Fault → Option Nat
  | unrecognized _ position | unexpected _ position => some position
  | hexTooBig _ position | noSlot position | tooManySlots position => some position
  | noSuchColumn _ position | termOutOfRange _ _ position => position
  | _ => none

/-- Whether the text may be a statement all the same: there is more to the language than what is
read here, and there may be other tables. -/
def isForeign : Fault → Bool
  | unexpected _ _ | incomplete | noSuchTable _ => true
  | _ => false

end Fault

end Querysmith.Sql
