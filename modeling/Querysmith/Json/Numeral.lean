import Querysmith.Json.Basic

/-!
Number texts. Digits are gathered into a 64-bit significand and a decimal exponent; the double they
stand for is the significand, rounded, times or divided by a rounded power of ten.
-/

namespace Querysmith.Json

structure Numeral where
  negative : Bool
  whole : List Nat
  fraction : List Nat
  exponent : Option (Bool × List Nat)
  decimal : Bool
deriving DecidableEq

def digitValue (c : Char) : Nat :=
  c.toNat - 48

def takeDigits (cs : List Char) : List Nat × List Char :=
  ((cs.takeWhile Char.isDigit).map digitValue, cs.dropWhile Char.isDigit)

def takeSign (mark : Char) (cs : List Char) : Bool × List Char :=
  match cs with
  | c :: rest => if c = mark then (true, rest) else (false, cs)
  | [] => (false, [])

def takeFraction (cs : List Char) : Option (List Nat × List Char) :=
  match cs with
  | '.' :: rest =>
      let (ds, rest) := takeDigits rest
      if ds.isEmpty then none else some (ds, rest)
  | _ => some ([], cs)

def takeExponent (cs : List Char) : Option (Option (Bool × List Nat) × List Char) :=
  match cs with
  | c :: rest =>
      if c = 'e' ∨ c = 'E' then
        let (negative, rest) := match takeSign '-' rest with
          | (true, rest) => (true, rest)
          | (false, rest) => (false, (takeSign '+' rest).2)
        let (ds, rest) := takeDigits rest
        if ds.isEmpty then none else some (some (negative, ds), rest)
      else some (none, cs)
  | [] => some (none, [])

def takeNumeral (cs : List Char) : Option (Numeral × List Char) :=
  let (negative, cs) := takeSign '-' cs
  let (whole, cs) := takeDigits cs
  if whole.isEmpty || (whole.head? == some 0 && whole.length != 1) then none
  else
    match takeFraction cs with
    | none => none
    | some (fraction, cs) =>
        match takeExponent cs with
        | none => none
        | some (exponent, cs) =>
            some (⟨negative, whole, fraction, exponent, !fraction.isEmpty || exponent.isSome⟩, cs)

/-- Appends digits to a significand while it fits 64 bits; the digits left over come second. -/
def absorb : Nat → List Nat → Nat × List Nat
  | s, [] => (s, [])
  | s, d :: ds => if 10 * s + d < 0x10000000000000000 then absorb (10 * s + d) ds else (s, d :: ds)

def ofDigits (ds : List Nat) : Nat :=
  ds.foldl (fun n d => 10 * n + d) 0

def powTen (n : Nat) : Float :=
  Float.ofScientific 1 false n

def divPowTen (x : Float) (n : Nat) : Float :=
  if n ≤ 308 then x / powTen n
  else if x == 0 then x
  else divPowTen (x / powTen 308) (n - 308)
termination_by n

def scale? (x : Float) (exponent : Int) : Option Float :=
  if exponent < 0 then some (divPowTen x exponent.natAbs)
  else if exponent ≤ 308 then
    let y := x * powTen exponent.toNat
    if y.isFinite then some y else none
  else if x == 0 then some x
  else none

/-- Exponents of `2 ^ 31` and more are not added up: they stand for zero or for a number beyond the
doubles. -/
def Numeral.magnitude? (m : Numeral) : Option Float :=
  let (s, dropped) := absorb 0 m.whole
  let (s, unused) := absorb s m.fraction
  let shift : Int := dropped.length - (m.fraction.length - unused.length : Nat)
  let x := s.toUInt64.toFloat
  match m.exponent with
  | none => scale? x shift
  | some (negative, ds) =>
      let e := ofDigits ds
      if e < 0x80000000 then scale? x (if negative then shift - e else shift + e)
      else if s = 0 ∨ negative then some 0
      else none

def ofDouble? (negative : Bool) (x : Float) : Option Number :=
  let y := if negative then -x else x
  if h : y.isFinite = true then some (.double y h) else none

def ofInteger? (negative : Bool) (n : Nat) : Option Number :=
  let i : Int := if negative then -n else n
  if negative ∧ n = 0 then ofDouble? true 0
  else if h : -0x8000000000000000 ≤ i ∧ i < 0x10000000000000000 then some (.integer i h.1 h.2)
  else ofDouble? negative n.toUInt64.toFloat

def Numeral.value? (m : Numeral) : Option Number :=
  match m.decimal, absorb 0 m.whole with
  | false, (n, []) => ofInteger? m.negative n
  | _, _ =>
      match m.magnitude? with
      | some x => ofDouble? m.negative x
      | none => none

def readNumber (cs : List Char) : Option (Number × List Char) :=
  match takeNumeral cs with
  | some (m, rest) => m.value?.map (·, rest)
  | none => none

end Querysmith.Json
