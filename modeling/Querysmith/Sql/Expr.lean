import Querysmith.Cell.Arithmetic
import Querysmith.Cell.Order

namespace Querysmith.Sql

inductive Relation where
  | equal
  | unequal
  | less
  | atMost
  | greater
  | atLeast
deriving DecidableEq

def Relation.holds (r : Relation) (o : Ordering) : Bool :=
  match r with
  | equal => o = .eq
  | unequal => o ≠ .eq
  | less => o = .lt
  | atMost => o ≠ .gt
  | greater => o = .gt
  | atLeast => o ≠ .lt

inductive Bitwise where
  | and
  | or
  | shiftLeft
  | shiftRight
deriving DecidableEq

namespace Bitwise

/-- A shift by a negative number is one the other way, and one by the length of a word or more
leaves only the sign. -/
def shifted (i j : Int) : Int :=
  if 64 ≤ j then 0
  else if 0 ≤ j then i <<< j.toNat
  else if j ≤ -64 then (if i < 0 then -1 else 0)
  else i >>> (-j).toNat

def onWords (o : Bitwise) (i j : Int64) : Int64 :=
  match o with
  | and => i &&& j
  | or => i ||| j
  | shiftLeft => Int64.ofInt (shifted i.toInt j.toInt)
  | shiftRight => Int64.ofInt (shifted i.toInt (-j.toInt))

def apply (o : Bitwise) (a b : Cell) : Cell :=
  match a.word?, b.word? with
  | some i, some j => .integer (o.onWords i j)
  | _, _ => .null

end Bitwise

inductive Unary where
  | plus
  | minus
  | complement
  | not
  | isNull
deriving DecidableEq

def Unary.apply (o : Unary) (c : Cell) : Cell :=
  match o with
  | plus => c
  | minus => Arithmetic.subtract.apply (.integer 0) c
  | complement => (c.word?.map fun i => .integer (~~~i)).getD .null
  | not => Cell.ofTruth (c.truth.map (!·))
  | isNull => Cell.ofTruth (some (c = .null))

def conjunction : Option Bool → Option Bool → Option Bool
  | some false, _ | _, some false => some false
  | some true, some true => some true
  | _, _ => none

def disjunction : Option Bool → Option Bool → Option Bool
  | some true, _ | _, some true => some true
  | some false, some false => some false
  | _, _ => none

inductive Binary where
  | or
  | and
  | compare (r : Relation)
  | is
  | member
  | arithmetic (o : Arithmetic)
  | bitwise (o : Bitwise)
deriving DecidableEq

namespace Binary

/-- Whether texts on both sides are taken as the numbers that they are, if the sides by themselves
want that or not. Members of a list have no say. -/
def comparesNumbers (o : Binary) (left right : Bool) : Bool :=
  match o with
  | compare _ | is => left || right
  | member => left
  | _ => false

def apply (o : Binary) (a b : Cell) : Cell :=
  match o with
  | or => Cell.ofTruth (disjunction a.truth b.truth)
  | and => Cell.ofTruth (conjunction a.truth b.truth)
  | compare r => Cell.ofTruth ((a.order? b).map r.holds)
  | is => Cell.ofTruth (some (a.order b = .eq))
  | member => Cell.ofTruth ((a.order? b).map Relation.equal.holds)
  | arithmetic o => o.apply a b
  | bitwise o => o.apply a b

end Binary

inductive Expr (ν : Type) where
  | cell (c : Cell)
  | slot (number : Nat)
  | name (n : ν)
  | unary (o : Unary) (a : Expr ν)
  | binary (o : Binary) (a b : Expr ν)

structure Environment (ν : Type) where
  params : List Cell
  column : ν → Cell
  isNumeric : ν → Bool

namespace Expr

variable {ν μ ε : Type}

def ofBool (b : Bool) : Expr ν :=
  cell (.integer (if b then 1 else 0))

def isZero : Expr ν → Bool
  | cell (.integer i) => i = 0
  | _ => false

/-- A conjunction with a written zero is zero, whatever stands on its other side. -/
def both (a b : Expr ν) : Expr ν :=
  if a.isZero || b.isZero then ofBool false else binary .and a b

def oneOf (a : Expr ν) : List (Expr ν) → Expr ν
  | [] => ofBool false
  | [b] => binary .member a b
  | b :: bs => binary .or (binary .member a b) (oneOf a bs)

def between (a low high : Expr ν) : Expr ν :=
  binary .and (binary (.compare .atLeast) a low) (binary (.compare .atMost) a high)

def negatedIf (negated : Bool) (a : Expr ν) : Expr ν :=
  if negated then unary .not a else a

def resolve (meaning : ν → Except ε (Expr μ)) : Expr ν → Except ε (Expr μ)
  | cell c => .ok (cell c)
  | slot n => .ok (slot n)
  | name n => meaning n
  | unary o a => do .ok (unary o (← a.resolve meaning))
  | binary o a b => do
      let a ← a.resolve meaning
      .ok (binary o a (← b.resolve meaning))

def isNumeric (env : Environment ν) : Expr ν → Bool
  | name n => env.isNumeric n
  | _ => false

def eval (env : Environment ν) : Expr ν → Cell
  | cell c => c
  | slot n => env.params[n - 1]?.getD .null
  | name n => env.column n
  | unary o a => o.apply (a.eval env)
  | binary o a b =>
      if o.comparesNumbers (a.isNumeric env) (b.isNumeric env) then
        o.apply (a.eval env).numeric (b.eval env).numeric
      else o.apply (a.eval env) (b.eval env)

end Expr

end Querysmith.Sql
