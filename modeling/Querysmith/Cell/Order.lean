import Querysmith.Cell.Basic

namespace Querysmith.Cell

def compareFloats (x y : Float) : Ordering :=
  if x < y then .lt else if y < x then .gt else .eq

/-- A double whose integer part is that of the integer is told apart by its fraction. -/
def compareMixed (i : Int64) (x : Float) : Ordering :=
  if 9223372036854775808.0 ≤ x then .lt
  else if x < -9223372036854775808.0 then .gt
  else (compare i.toInt x.toInt64.toInt).then (compareFloats i.toFloat x)

def rank : Cell → Nat
  | null => 0
  | integer _ | real _ => 1
  | text _ => 2
  | blob _ => 3

def order : Cell → Cell → Ordering
  | integer i, integer j => compare i.toInt j.toInt
  | integer i, real y => compareMixed i y
  | real x, integer j => (compareMixed j x).swap
  | real x, real y => compareFloats x y
  | text s, text t => compare s t
  | blob a, blob b => compare (a.map UInt8.toNat) (b.map UInt8.toNat)
  | a, b => compare a.rank b.rank

def order? (a b : Cell) : Option Ordering :=
  match a, b with
  | null, _ | _, null => none
  | a, b => some (a.order b)

end Querysmith.Cell
