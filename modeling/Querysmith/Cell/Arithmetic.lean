import Querysmith.Cell.Basic

namespace Querysmith

inductive Arithmetic where
  | add
  | subtract
  | multiply
  | divide
  | remainder
deriving DecidableEq

namespace Arithmetic

def onInts (o : Arithmetic) (a b : Int) : Option Int :=
  match o with
  | add => some (a + b)
  | subtract => some (a - b)
  | multiply => some (a * b)
  | divide => if b = 0 then none else some (a.tdiv b)
  | remainder => if b = 0 then none else some (a.tmod b)

/-- The remainder of doubles is that of their integer parts. -/
def onFloats (o : Arithmetic) (x y : Float) : Option Float :=
  match o with
  | add => some (x + y)
  | subtract => some (x - y)
  | multiply => some (x * y)
  | divide => if y == 0 then none else some (x / y)
  | remainder => (remainder.onInts x.toInt64.toInt y.toInt64.toInt).map Float.ofInt

def ofFloat? : Option Float → Cell
  | some x => (Cell.real x).kept
  | none => .null

def apply (o : Arithmetic) (a b : Cell) : Cell :=
  match a.number, b.number with
  | .integer i, .integer j =>
      match o.onInts i.toInt j.toInt with
      | some n =>
          if -0x8000000000000000 ≤ n ∧ n < 0x8000000000000000 then .integer (Int64.ofInt n)
          else ofFloat? (o.onFloats i.toFloat j.toFloat)
      | none => .null
  | .integer i, .real y => ofFloat? (o.onFloats i.toFloat y)
  | .real x, .integer j => ofFloat? (o.onFloats x j.toFloat)
  | .real x, .real y => ofFloat? (o.onFloats x y)
  | _, _ => .null

end Arithmetic

end Querysmith
