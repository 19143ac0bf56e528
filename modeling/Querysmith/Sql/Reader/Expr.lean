import Querysmith.Sql.Command
import Querysmith.Sql.Reader.Basic

namespace Querysmith.Sql

inductive Continuation where
  | operator (o : Binary)
  | isNot
  | isNull (negated : Bool)
  | oneOf (negated : Bool)
  | between (negated : Bool)
  | dangling

def markOperator? : Mark → Option (Binary × Nat)
  | .equal => some (.compare .equal, 3)
  | .unequal => some (.compare .unequal, 3)
  | .less => some (.compare .less, 4)
  | .atMost => some (.compare .atMost, 4)
  | .greater => some (.compare .greater, 4)
  | .atLeast => some (.compare .atLeast, 4)
  | .ampersand => some (.bitwise .and, 5)
  | .bar => some (.bitwise .or, 5)
  | .shiftLeft => some (.bitwise .shiftLeft, 5)
  | .shiftRight => some (.bitwise .shiftRight, 5)
  | .plus => some (.arithmetic .add, 6)
  | .minus => some (.arithmetic .subtract, 6)
  | .star => some (.arithmetic .multiply, 7)
  | .slash => some (.arithmetic .divide, 7)
  | .percent => some (.arithmetic .remainder, 7)
  | _ => none

def negated (ls : List Lexeme) : Continuation × List Lexeme :=
  match takeWord "in" ls, takeWord "between" ls, takeWord "null" ls with
  | some rest, _, _ => (.oneOf true, rest)
  | _, some rest, _ => (.between true, rest)
  | _, _, some rest => (.isNull true, rest)
  | _, _, _ => (.dangling, ls)

def takeDistinction (ls : List Lexeme) : Option (List Lexeme) :=
  (takeWord "distinct" ls).bind (takeWord "from")

def wordContinuation? (w : String) (ls : List Lexeme) :
    Option (Nat × Continuation × List Lexeme) :=
  if w = "or" then some (0, .operator .or, ls)
  else if w = "and" then some (1, .operator .and, ls)
  else if w = "not" then some (2, negated ls)
  else if w = "is" then
    match takeWord "not" ls with
    | some rest =>
        match takeDistinction rest with
        | some rest => some (3, .operator .is, rest)
        | none => some (3, .isNot, rest)
    | none =>
        match takeDistinction ls with
        | some rest => some (3, .isNot, rest)
        | none => some (3, .operator .is, ls)
  else if w = "isnull" then some (3, .isNull false, ls)
  else if w = "notnull" then some (3, .isNull true, ls)
  else if w = "in" then some (3, .oneOf false, ls)
  else if w = "between" then some (3, .between false, ls)
  else none

def continuation? : List Lexeme → Option (Nat × Continuation × List Lexeme)
  | l :: rest =>
      match l.token with
      | .mark m => (markOperator? m).map fun (o, level) => (level, .operator o, rest)
      | .word w => wordContinuation? w.toLower rest
      | _ => none
  | [] => none

def applyBinary (o : Binary) (a b : Expr Reference) : Expr Reference :=
  match o with
  | .and => .both a b
  | o => .binary o a b

def readReference (name : String) (quoting : Quoting) (position : Nat) : Read (Expr Reference) :=
  fun ls =>
    match takeMark .dot ls with
    | none => .ok (.name ⟨none, name, quoting, position⟩, ls)
    | some ls => do
        let (second, ls) ← readName ls
        match takeMark .dot ls with
        | none => .ok (.name ⟨some ⟨none, name⟩, second, .other, position⟩, ls)
        | some ls => do
            let (column, ls) ← readName ls
            .ok (.name ⟨some ⟨some name, second⟩, column, .other, position⟩, ls)

/-- A number directly behind a minus is a negative one, and the least integer has no negative. -/
def negativeLiteral? (l : Lexeme) : Option (Except Fault Cell) :=
  match l.token with
  | .integer n =>
      if n = -0x8000000000000000 then some (.error (.hexTooBig ("-" ++ l.written) l.position))
      else some (.ok (.ofInt (-n)))
  | .real x => some (.ok (.real (-x)))
  | .misseparated shown => some (.error (.misseparated shown))
  | .oversized digits => some (.error (.hexTooBig ("-" ++ digits) l.position))
  | _ => none

/-- The words that begin forms of which nothing else is read here. -/
def beginsOther (w : String) : Bool :=
  w.toLower = "case" || w.toLower = "exists"

def isClock (w : String) : Bool :=
  ["current_date", "current_time", "current_timestamp"].contains w.toLower

mutual

/-- An operand with the operators behind it, down to the given level. The count bounds the readers
inside one another, and three for each token are enough. -/
def readExpr : Nat → Nat → Read (Expr Reference)
  | 0, _, ls => unexpected ls
  | count + 1, level, ls => do
      let (a, ls) ← readOperand count ls
      readRest count level a ls

def readOperand : Nat → Read (Expr Reference)
  | 0, ls => unexpected ls
  | _ + 1, [] => unexpected []
  | count + 1, l :: ls =>
      match l.token with
      | .integer n => .ok (.cell (.ofInt n), ls)
      | .real x => .ok (.cell (.real x), ls)
      | .misseparated shown => .error (.misseparated shown)
      | .oversized digits => .error (.hexTooBig digits l.position)
      | .text s =>
          match ls with
          | d :: _ =>
              if d.isMark .dot then readReference s .other l.position ls
              else .ok (.cell (.text s), ls)
          | [] => .ok (.cell (.text s), ls)
      | .blob bytes => .ok (.cell (.blob bytes), ls)
      | .slot n => .ok (.slot n, ls)
      | .noSlot => .error (.noSlot l.position)
      | .name s double => readReference s (if double then .double else .other) l.position ls
      | .mark .leftParen => do
          let (a, ls) ← readExpr count 0 ls
          let ls ← expectMark .rightParen ls
          .ok (a, ls)
      | .mark .plus => do
          let (a, ls) ← readOperand count ls
          .ok (.unary .plus a, ls)
      | .mark .tilde => do
          let (a, ls) ← readOperand count ls
          .ok (.unary .complement a, ls)
      | .mark .minus =>
          match ls.head?.bind negativeLiteral? with
          | some literal => do .ok (.cell (← literal), ls.tail)
          | none => do
              let (a, ls) ← readOperand count ls
              .ok (.unary .minus a, ls)
      | .word w =>
          if w.toLower = "null" then .ok (.cell .null, ls)
          else if w.toLower = "not" then do
            let (a, ls) ← readExpr count 2 ls
            .ok (.unary .not a, ls)
          else if beginsOther w then unexpected ls
          else if isReserved w || isClock w then unexpected (l :: ls)
          else readReference w .plain l.position ls
      | _ => unexpected (l :: ls)

def readRest : Nat → Nat → Expr Reference → Read (Expr Reference)
  | 0, _, _, ls => unexpected ls
  | count + 1, level, a, ls =>
      match continuation? ls with
      | none => .ok (a, ls)
      | some (l, next, rest) =>
          if l < level then .ok (a, ls)
          else
            match next with
            | .operator o => do
                let (b, ls) ← readExpr count (l + 1) rest
                readRest count level (applyBinary o a b) ls
            | .isNot => do
                let (b, ls) ← readExpr count (l + 1) rest
                readRest count level (.unary .not (.binary .is a b)) ls
            | .isNull negated =>
                readRest count level (.negatedIf negated (.unary .isNull a)) rest
            | .oneOf negated => do
                let ls ← expectMark .leftParen rest
                let (bs, ls) ← readMembers count ls
                readRest count level (.negatedIf negated (.oneOf a bs)) ls
            | .between negated => do
                let (low, ls) ← readExpr count 2 rest
                let ls ← expectWord "and" ls
                let (high, ls) ← readExpr count 4 ls
                readRest count level (.negatedIf negated (.between a low high)) ls
            | .dangling => unexpected rest

def readMembers : Nat → Read (List (Expr Reference))
  | 0, ls => unexpected ls
  | count + 1, ls =>
      match takeMark .rightParen ls with
      | some ls => .ok ([], ls)
      | none => do
          let (a, ls) ← readExpr count 0 ls
          match takeMark .comma ls with
          | some ls =>
              let (as, ls) ← readMore count ls
              .ok (a :: as, ls)
          | none => do
              let ls ← expectMark .rightParen ls
              .ok ([a], ls)

def readMore : Nat → Read (List (Expr Reference))
  | 0, ls => unexpected ls
  | count + 1, ls => do
      let (a, ls) ← readExpr count 0 ls
      match takeMark .comma ls with
      | some ls =>
          let (as, ls) ← readMore count ls
          .ok (a :: as, ls)
      | none =>
          let ls ← expectMark .rightParen ls
          .ok ([a], ls)

end

def readValue : Read (Expr Reference) := fun ls =>
  readExpr (3 * ls.length + 3) 0 ls

end Querysmith.Sql
