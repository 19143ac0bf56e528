import Querysmith.Sql.Numeral
import Querysmith.Value

namespace Querysmith

/-- What a database can bind and keep. -/
inductive Cell where
  | null
  | integer (i : Int64)
  | real (x : Float)
  | text (s : String)
  | blob (bytes : List UInt8)
deriving DecidableEq

/-- Truth values are bound as 1 and 0, timestamps and documents as their text. -/
def Value.cell : Value → Cell
  | int i => .integer i
  | float x => .real x
  | text s => .text s
  | bool b => .integer (if b then 1 else 0)
  | timestamp t => .text t.text
  | null => .null
  | json j => .text j.compact
  | blob bytes => .blob bytes

namespace Cell

/-- A bound cell is kept as it is, except that what is no number is nothing. -/
def kept : Cell → Cell
  | real x => if x.isNaN then null else real x
  | c => c

def value : Cell → Value
  | null => .null
  | integer i => .int i
  | real x => .float x
  | text s => .text s
  | blob bytes => .blob bytes

def ofInt (n : Int) : Cell :=
  if -0x8000000000000000 ≤ n ∧ n < 0x8000000000000000 then integer (Int64.ofInt n)
  else real ((Sql.Numeral.ofNat n.natAbs).signedFloat (n < 0))

theorem ofInt_toInt (i : Int64) : ofInt i.toInt = integer i := by
  have hlow : -0x8000000000000000 ≤ i.toInt := Int64.le_toInt i
  have hhigh : i.toInt < 0x8000000000000000 := Int64.toInt_lt i
  rw [ofInt, if_pos ⟨hlow, hhigh⟩, Int64.ofInt_toInt]

def ofNumeral (negative : Bool) (m : Sql.Numeral) : Cell :=
  if m.isWhole then ofInt (if negative then -m.wholePart else m.wholePart)
  else real (m.signedFloat negative)

def readNumber (cs : List Char) : Option (Cell × List Char) :=
  let (negative, cs) := Sql.Numeral.sign (cs.dropWhile Sql.isSpace)
  (Sql.Numeral.read? cs).map fun (m, rest) => (ofNumeral negative m, rest)

def numeric : Cell → Cell
  | text s =>
      match readNumber s.toList with
      | some (c, rest) => if rest.all Sql.isSpace then c else text s
      | none => text s
  | c => c

def leadingNumber (cs : List Char) : Cell :=
  match readNumber cs with
  | some (c, _) => c
  | none => integer 0

def number : Cell → Cell
  | text s => leadingNumber s.toList
  | blob bytes => leadingNumber (bytes.map fun b => Char.ofNat b.toNat)
  | c => c

def integer? (c : Cell) : Option Int64 :=
  match c.numeric with
  | integer i => some i
  | real x =>
      let i := x.toInt64
      if Int64.minValue < i && i < Int64.maxValue && i.toFloat == x then some i else none
  | _ => none

def leadingWord (cs : List Char) : Int64 :=
  let (negative, cs) := Sql.Numeral.sign (cs.dropWhile Sql.isSpace)
  let n : Int := Nat.ofDigitChars 10 (cs.takeWhile Char.isDigit) 0
  if negative then Int64.ofInt (max (-n) (-0x8000000000000000))
  else Int64.ofInt (min n 0x7FFFFFFFFFFFFFFF)

def word? : Cell → Option Int64
  | null => none
  | integer i => some i
  | real x => some x.toInt64
  | text s => some (leadingWord s.toList)
  | blob bytes => some (leadingWord (bytes.map fun b => Char.ofNat b.toNat))

def ofTruth : Option Bool → Cell
  | none => null
  | some b => integer (if b then 1 else 0)

/-- Zero is false, nothing is neither. -/
def truth (c : Cell) : Option Bool :=
  match c.number with
  | null => none
  | integer i => some (i ≠ 0)
  | real x => some (x != 0)
  | _ => none

end Cell

def Value.stored (v : Value) : Cell :=
  v.cell.kept

end Querysmith
