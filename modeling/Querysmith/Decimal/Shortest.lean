/-!
The fewest decimal digits that still read back as a given double. A double stands for every real
number that rounds to it; the shortest digits are a point of the coarsest decimal grid that meets
this interval, and of several such points the one nearest to the double.
-/

namespace Querysmith.Decimal

/-- The magnitude of a finite double, `significand * 2 ^ exponent`. At a power of two the double
below is half as far away as the double above. -/
structure Magnitude where
  significand : Nat
  exponent : Int
  closeBelow : Bool

def magnitude (x : Float) : Magnitude :=
  let bits := x.toBits.toNat
  let field : Nat := bits / 0x10000000000000 % 0x800
  let fraction : Nat := bits % 0x10000000000000
  if field = 0 then ⟨fraction, -1074, false⟩
  else ⟨0x10000000000000 + fraction, (field : Int) - 1075, fraction = 0 && 1 < field⟩

def isNegative (x : Float) : Bool :=
  x.toBits.toNat / 0x8000000000000000 = 1

/-- What happens to a double halfway between two equally short decimals. -/
inductive Tie where
  | toEven
  | up
deriving DecidableEq

def powAbove (base : Nat) (e : Int) : Nat :=
  Nat.pow base e.toNat

def powBelow (base : Nat) (e : Int) : Nat :=
  Nat.pow base (-e).toNat

def Magnitude.lower (b : Magnitude) : Nat :=
  4 * b.significand - if b.closeBelow then 1 else 2

def Magnitude.upper (b : Magnitude) : Nat :=
  4 * b.significand + 2

/-- Lengths in quarters of the last binary place become multiples of `unit`, and points of the grid
of `10 ^ k` become multiples of `step`. -/
def Magnitude.unit (b : Magnitude) (k : Int) : Nat :=
  powAbove 2 (b.exponent - 2) * powBelow 10 k

def Magnitude.step (b : Magnitude) (k : Int) : Nat :=
  powAbove 10 k * powBelow 2 (b.exponent - 2)

def Magnitude.holds (b : Magnitude) (k : Int) (c : Nat) : Bool :=
  let p := c * b.step k
  let lo := b.lower * b.unit k
  let hi := b.upper * b.unit k
  if b.significand % 2 = 0 then lo ≤ p && p ≤ hi else lo < p && p < hi

def Magnitude.floor (b : Magnitude) (k : Int) : Nat :=
  4 * b.significand * b.unit k / b.step k

def Magnitude.nearest? (b : Magnitude) (tie : Tie) (k : Int) : Option Nat :=
  let c := b.floor k
  match b.holds k c, b.holds k (c + 1) with
  | false, false => none
  | true, false => some c
  | false, true => some (c + 1)
  | true, true =>
      let below := 4 * b.significand * b.unit k - c * b.step k
      let above := (c + 1) * b.step k - 4 * b.significand * b.unit k
      if below < above then some c
      else if above < below then some (c + 1)
      else match tie with
        | .toEven => some (if c % 2 = 0 then c else c + 1)
        | .up => some (c + 1)

def digitCount (n : Nat) : Nat :=
  (Nat.toDigits 10 n).length

def Magnitude.leading (b : Magnitude) : Int :=
  let scaled := b.significand * powAbove 2 b.exponent * powAbove 10 400 / powBelow 2 b.exponent
  (digitCount scaled : Int) - 401

structure GridPoint where
  coefficient : Nat
  exponent : Int
deriving DecidableEq

def Magnitude.shortestFrom (b : Magnitude) (tie : Tie) : Nat → Int → GridPoint
  | 0, k => ⟨b.floor k, k⟩
  | n + 1, k =>
      match b.nearest? tie k with
      | some c => ⟨c, k⟩
      | none => b.shortestFrom tie n (k - 1)

/-- Seventeen digits always read back. -/
def Magnitude.shortest (b : Magnitude) (tie : Tie) : GridPoint :=
  b.shortestFrom tie 17 b.leading

end Querysmith.Decimal
