import Querysmith.Value

namespace Querysmith

def sqlLayout : Decimal.Layout where
  tie := .up
  positional := fun _ => true
  marksWhole := false

def upperHex (b : UInt8) : List Char :=
  let digit (n : Nat) : Char := (Nat.digitChar n).toUpper
  [digit (b.toNat / 16), digit (b.toNat % 16)]

/-- Nothing is escaped. Doubles beyond the finite ones have no literal. -/
def Value.literal : Value → String
  | int i => toString i.toInt
  | float x => if x.isFinite then sqlLayout.format x else "null"
  | text s => s
  | bool b => if b then "1" else "0"
  | timestamp t => t.text
  | null => "null"
  | json j => j.compact
  | blob bytes => "X'" ++ String.ofList (bytes.flatMap upperHex) ++ "'"

/-- The first element decides whether all of them are quoted. -/
def quotesList (vs : List Value) : Bool :=
  match vs with
  | [] => false
  | v :: _ => v.isQuoted

def listItem (quotes : Bool) (v : Value) : String :=
  if quotes then "\"" ++ v.literal ++ "\"" else v.literal

def literalList (vs : List Value) : String :=
  ",".intercalate (vs.map (listItem (quotesList vs)))

end Querysmith
