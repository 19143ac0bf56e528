import Querysmith.Proofs.Lexing
import Querysmith.Sql.Reader.Command

namespace Querysmith.Sql

theorem ok_bind {ε α β : Type} (a : α) (f : α → Except ε β) : (Except.ok a >>= f) = f a := rfl

theorem toLower_eq_self {s : String} (h : s.toList.all (fun c => c.toLower = c) = true) :
    s.toLower = s := by
  apply String.toList_inj.1
  change (String.map Char.toLower s).toList = _
  rw [String.toList_map]
  have hmap := List.map_congr_left fun c hc => of_decide_eq_true (List.all_eq_true.1 h c hc)
  exact hmap.trans (List.map_id _)

theorem takeMark_cons {l : Lexeme} {m n : Mark} (h : l.token = .mark m) (rest : List Lexeme) :
    takeMark n (l :: rest) = if m = n then some rest else none := by
  simp only [takeMark, Lexeme.isMark, h, decide_eq_true_eq]

theorem takeWord_cons {l : Lexeme} {s w : String} (h : l.token = .word s) (rest : List Lexeme) :
    takeWord w (l :: rest) = if s.toLower = w then some rest else none := by
  simp only [takeWord, Lexeme.isWord, h, decide_eq_true_eq]

theorem takeMark_word {l : Lexeme} {s : String} (h : l.token = .word s) (m : Mark)
    (rest : List Lexeme) : takeMark m (l :: rest) = none := by
  simp [takeMark, Lexeme.isMark, h]

theorem takeWord_of_ne {l : Lexeme} {s w : String} (h : l.token = .word s) (hlow : s.toLower = s)
    (hne : s ≠ w) (rest : List Lexeme) : takeWord w (l :: rest) = none := by
  rw [takeWord_cons h, hlow, if_neg hne]

theorem continuation?_nil : continuation? [] = none := rfl

theorem continuation?_mark {l : Lexeme} {m : Mark} (h : l.token = .mark m) (rest : List Lexeme) :
    continuation? (l :: rest) =
      (markOperator? m).map fun (o, level) => (level, .operator o, rest) := by
  simp only [continuation?, h]

theorem continuation?_in {l : Lexeme} (h : l.token = .word "IN") (rest : List Lexeme) :
    continuation? (l :: rest) = some (3, .oneOf false, rest) := by
  have hlow : "IN".toLower = "in" := by decide +kernel
  simp only [continuation?, h, wordContinuation?, hlow, String.reduceEq, if_false, if_true]

section Steps

variable {count level l : Nat} {a b : Expr Reference} {ls rest after : List Lexeme}

theorem readExpr_of_operand (h : readOperand count ls = .ok (a, rest)) :
    readExpr (count + 1) level ls = readRest count level a rest := by
  simp only [readExpr, h, ok_bind]

theorem readRest_of_end (h : continuation? ls = none) :
    readRest (count + 1) level a ls = .ok (a, ls) := by
  simp only [readRest, h]

theorem readRest_of_operator {o : Binary} (h : continuation? ls = some (l, .operator o, rest))
    (hl : ¬l < level) (hb : readExpr count (l + 1) rest = .ok (b, after)) :
    readRest (count + 1) level a ls = readRest count level (applyBinary o a b) after := by
  simp only [readRest, h, hl, if_false, hb, ok_bind]

theorem readRest_of_oneOf {bs : List (Expr Reference)} {p : Lexeme}
    (h : continuation? ls = some (l, .oneOf false, p :: rest)) (hl : ¬l < level)
    (hp : p.token = .mark .leftParen) (hbs : readMembers count rest = .ok (bs, after)) :
    readRest (count + 1) level a ls = readRest count level (.oneOf a bs) after := by
  simp only [readRest, h, hl, if_false, expectMark, takeMark_cons hp, if_true, ok_bind, hbs,
    Expr.negatedIf, Bool.false_eq_true]

end Steps

inductive Argument where
  | written (i : Int64)
  | bound (n : Nat)

namespace Argument

def tokens : Argument → List Token
  | written i => integerTokens i.toInt
  | bound n => [.slot n]

def expr {ν : Type} : Argument → Expr ν
  | written i => .cell (.integer i)
  | bound n => .slot n

theorem readOperand_of_tokens (a : Argument) (count : Nat) {ls : List Lexeme}
    (hls : ls.map Lexeme.token = a.tokens) (rest : List Lexeme) :
    readOperand (count + 1) (ls ++ rest) = .ok (a.expr, rest) := by
  cases a with
  | bound n =>
      obtain ⟨l, ls, rfl, hl, hnil⟩ := List.map_eq_cons_iff.1 hls
      obtain rfl := List.map_eq_nil_iff.1 hnil
      simp only [List.cons_append, List.nil_append, readOperand, hl, expr]
  | written i =>
      rw [tokens, integerTokens] at hls
      split at hls
      · rename_i hneg
        obtain ⟨l, ls, rfl, hl, hls⟩ := List.map_eq_cons_iff.1 hls
        obtain ⟨d, ls, rfl, hd, hnil⟩ := List.map_eq_cons_iff.1 hls
        obtain rfl := List.map_eq_nil_iff.1 hnil
        have hne : ¬-i.toInt = -0x8000000000000000 := by omega
        have hsome : negativeLiteral? d = some (.ok (.integer i)) := by
          simp only [negativeLiteral?, hd, hne, if_false, Int.neg_neg, Cell.ofInt_toInt]
        simp only [List.cons_append, List.nil_append, readOperand, hl, List.head?_cons,
          Option.bind_some, hsome, ok_bind, List.tail_cons, expr]
      · obtain ⟨l, ls, rfl, hl, hnil⟩ := List.map_eq_cons_iff.1 hls
        obtain rfl := List.map_eq_nil_iff.1 hnil
        simp only [List.cons_append, List.nil_append, readOperand, hl, Cell.ofInt_toInt, expr]

theorem readExpr_of_tokens (a : Argument) {ls rest : List Lexeme}
    (hls : ls.map Lexeme.token = a.tokens) (hrest : continuation? rest = none)
    (count level : Nat) : readExpr (count + 2) level (ls ++ rest) = .ok (a.expr, rest) := by
  rw [readExpr_of_operand (a.readOperand_of_tokens count hls rest), readRest_of_end hrest]

theorem takeMark_rightParen (a : Argument) {ls : List Lexeme}
    (hls : ls.map Lexeme.token = a.tokens) (rest : List Lexeme) :
    takeMark .rightParen (ls ++ rest) = none := by
  cases ls with
  | nil =>
      cases a with
      | bound n => cases hls
      | written i =>
          rw [tokens, integerTokens] at hls
          split at hls <;> cases hls
  | cons l ls =>
      have hl : l.isMark .rightParen = false := by
        cases a with
        | bound n => rw [Lexeme.isMark, (List.cons.inj hls).1]
        | written i =>
            rw [tokens, integerTokens] at hls
            split at hls
            · rw [Lexeme.isMark, (List.cons.inj hls).1]
              rfl
            · rw [Lexeme.isMark, (List.cons.inj hls).1]
      rw [List.cons_append, takeMark, hl, if_neg Bool.false_ne_true]

end Argument

theorem separated_cons_cons (ts us : List Token) (tss : List (List Token)) :
    separated (ts :: us :: tss) = ts ++ .mark .comma :: separated (us :: tss) := by
  simp [separated, List.intercalate]

theorem separated_singleton (ts : List Token) : separated [ts] = ts := by
  simp [separated, List.intercalate]

theorem length_le_length_separated (tss : List (List Token)) :
    tss.length ≤ (separated tss).length + 1 := by
  match tss with
  | [] => exact Nat.zero_le _
  | [ts] => exact Nat.le_add_left 1 _
  | ts :: us :: tss =>
      have ih := length_le_length_separated (us :: tss)
      rw [separated_cons_cons, List.length_append, List.length_cons]
      simp only [List.length_cons] at ih ⊢
      omega

section Members

variable {ls rest : List Lexeme} {r : Lexeme}

theorem readMore_of_tokens (hr : r.token = .mark .rightParen) (a : Argument) (as : List Argument)
    (hls : ls.map Lexeme.token = separated ((a :: as).map Argument.tokens)) (count : Nat) :
    readMore (count + as.length + 3) (ls ++ r :: rest) =
      .ok ((a :: as).map Argument.expr, rest) := by
  induction as generalizing a ls with
  | nil =>
      rw [List.map_singleton, separated_singleton] at hls
      have hend : continuation? (r :: rest) = none := by
        rw [continuation?_mark hr]
        rfl
      have ha := a.readExpr_of_tokens hls hend count 0
      simp only [List.length_nil, Nat.add_zero, readMore, ha, ok_bind, takeMark_cons hr,
        expectMark, reduceCtorEq, if_false, if_true, List.map_singleton]
  | cons b as ih =>
      -- the comma ends the first argument, and behind it the rest of the list is read again
      rw [List.map_cons, List.map_cons, separated_cons_cons] at hls
      obtain ⟨first, others, rfl, hfirst, hothers⟩ := List.map_eq_append_iff.1 hls
      obtain ⟨c, others, rfl, hc, hothers⟩ := List.map_eq_cons_iff.1 hothers
      have hend : continuation? (c :: (others ++ r :: rest)) = none := by
        rw [continuation?_mark hc]
        rfl
      have ha := a.readExpr_of_tokens hfirst hend (count + as.length + 1) 0
      have hmore := ih b hothers
      simp only [List.append_assoc, List.cons_append, List.length_cons, readMore, ← Nat.add_assoc,
        Nat.add_right_comm _ 1] at ha hmore ⊢
      simp only [ha, ok_bind, takeMark_cons hc, if_true, hmore, List.map_cons]

theorem readMembers_eq_readMore {count : Nat} (h : takeMark .rightParen ls = none) :
    readMembers (count + 1) ls = readMore (count + 1) ls := by
  simp only [readMembers, readMore, h]

theorem readMembers_of_tokens (hr : r.token = .mark .rightParen) (as : List Argument)
    (hls : ls.map Lexeme.token = separated (as.map Argument.tokens)) (count : Nat) :
    readMembers (count + as.length + 2) (ls ++ r :: rest) =
      .ok (as.map Argument.expr, rest) := by
  cases as with
  | nil =>
      obtain rfl := List.map_eq_nil_iff.1 hls
      simp only [List.nil_append, readMembers, takeMark_cons hr, if_true, List.map_nil]
  | cons a as =>
      have hnone : takeMark .rightParen (ls ++ r :: rest) = none := by
        cases as with
        | nil =>
            rw [List.map_singleton, separated_singleton] at hls
            exact a.takeMark_rightParen hls _
        | cons b as =>
            rw [List.map_cons, List.map_cons, separated_cons_cons] at hls
            obtain ⟨first, others, rfl, hfirst, -⟩ := List.map_eq_append_iff.1 hls
            rw [List.append_assoc]
            exact a.takeMark_rightParen hfirst _
      rw [readMembers_eq_readMore hnone]
      exact readMore_of_tokens hr a as hls count

end Members

def idAt (position : Nat) : Expr Reference :=
  .name ⟨none, "id", .plain, position⟩

theorem readOperand_id {l : Lexeme} (h : l.token = .word "id") {rest : List Lexeme}
    (hrest : takeMark .dot rest = none) (count : Nat) :
    readOperand (count + 1) (l :: rest) = .ok (idAt l.position, rest) := by
  have hlow : "id".toLower = "id" := toLower_eq_self (by decide)
  have hreserved : isReserved "id" = false := by
    rw [isReserved, hlow]
    decide
  have hother : beginsOther "id" = false := by
    rw [beginsOther, hlow]
    decide
  have hclock : isClock "id" = false := by
    rw [isClock, hlow]
    decide
  simp only [readOperand, h, hlow, hreserved, hother, hclock, String.reduceEq, Bool.or_self,
    Bool.false_eq_true, if_false, readReference, hrest, idAt]

inductive Selector where
  | all
  | one (n : Nat)
  | among (as : List Argument)

namespace Selector

def tokens : Selector → List Token
  | all => []
  | one n => [.word "where", .word "id", .mark .equal, .slot n]
  | among as =>
      .word "where" :: .word "id" :: .word "IN" :: .mark .leftParen ::
        (separated (as.map Argument.tokens) ++ [.mark .rightParen])

def expr {ν : Type} (id : Expr ν) : Selector → Option (Expr ν)
  | all => none
  | one n => some (.binary (.compare .equal) id (.slot n))
  | among as => some (.oneOf id (as.map Argument.expr))

theorem readValue_equals {i o : Lexeme} (hi : i.token = .word "id") (ho : o.token = .mark .equal)
    {n : Nat} {ls : List Lexeme} (hls : ls.map Lexeme.token = [.slot n]) :
    readValue (i :: o :: ls) = .ok (.binary (.compare .equal) (idAt i.position) (.slot n), []) := by
  have hdot : takeMark .dot (o :: ls) = none := by
    rw [takeMark_cons ho]
    rfl
  have hid := readOperand_id hi hdot
  have hplace := (Argument.bound n).readExpr_of_tokens hls continuation?_nil
  rw [List.append_nil] at hplace
  obtain ⟨count, hcount⟩ : ∃ count, 3 * (i :: o :: ls).length + 3 = count + 5 :=
    ⟨3 * ls.length + 4, by simp only [List.length_cons]; omega⟩
  rw [readValue, hcount, readExpr_of_operand (hid _),
    readRest_of_operator (continuation?_mark ho _) (Nat.not_lt_zero 3) (hplace _ _),
    readRest_of_end rfl]
  rfl

theorem readValue_oneOf {i o p r : Lexeme} (hi : i.token = .word "id") (ho : o.token = .word "IN")
    (hp : p.token = .mark .leftParen) (hr : r.token = .mark .rightParen) (as : List Argument)
    {ls : List Lexeme} (hls : ls.map Lexeme.token = separated (as.map Argument.tokens)) :
    readValue (i :: o :: p :: (ls ++ [r])) =
      .ok (.oneOf (idAt i.position) (as.map Argument.expr), []) := by
  have hid := readOperand_id hi (takeMark_word ho .dot (p :: (ls ++ [r])))
  have has (count : Nat) : readMembers (count + as.length + 2) (ls ++ [r]) =
      .ok (as.map Argument.expr, []) := readMembers_of_tokens hr as hls count
  have hlength : as.length ≤ ls.length + 1 := by
    have hle := length_le_length_separated (as.map Argument.tokens)
    rwa [← hls, List.length_map, List.length_map] at hle
  obtain ⟨count, hcount⟩ : ∃ count,
      3 * (i :: o :: p :: (ls ++ [r])).length + 3 = count + as.length + 2 + 1 + 1 := by
    refine ⟨3 * ls.length + 11 - as.length, ?_⟩
    simp only [List.length_cons, List.length_append, List.length_nil]
    omega
  rw [readValue, hcount, readExpr_of_operand (hid _),
    readRest_of_oneOf (continuation?_in ho _) (Nat.not_lt_zero 3) hp (has _), readRest_of_end rfl]

theorem readOptional_where {ls : List Lexeme} (s : Selector)
    (hls : ls.map Lexeme.token = s.tokens) :
    ∃ position, readOptional "where" ls = .ok (s.expr (idAt position), []) := by
  have hlow : "where".toLower = "where" := toLower_eq_self (by decide)
  cases s with
  | all =>
      obtain rfl := List.map_eq_nil_iff.1 hls
      exact ⟨0, rfl⟩
  | one n =>
      obtain ⟨w, ls, rfl, hw, hls⟩ := List.map_eq_cons_iff.1 hls
      obtain ⟨i, ls, rfl, hi, hls⟩ := List.map_eq_cons_iff.1 hls
      obtain ⟨o, ls, rfl, ho, hls⟩ := List.map_eq_cons_iff.1 hls
      refine ⟨i.position, ?_⟩
      rw [readOptional, takeWord_cons hw, if_pos hlow]
      simp only [readValue_equals hi ho hls, ok_bind, expr]
  | among as =>
      obtain ⟨w, ls, rfl, hw, hls⟩ := List.map_eq_cons_iff.1 hls
      obtain ⟨i, ls, rfl, hi, hls⟩ := List.map_eq_cons_iff.1 hls
      obtain ⟨o, ls, rfl, ho, hls⟩ := List.map_eq_cons_iff.1 hls
      obtain ⟨p, ls, rfl, hp, hls⟩ := List.map_eq_cons_iff.1 hls
      obtain ⟨members, last, rfl, hmembers, hlast⟩ := List.map_eq_append_iff.1 hls
      obtain ⟨r, last, rfl, hr, hnil⟩ := List.map_eq_cons_iff.1 hlast
      obtain rfl := List.map_eq_nil_iff.1 hnil
      refine ⟨i.position, ?_⟩
      rw [readOptional, takeWord_cons hw, if_pos hlow]
      simp only [readValue_oneOf hi ho hp hr as hmembers, ok_bind, expr]

theorem takeMark_of_tokens (s : Selector) {ls : List Lexeme} (hls : ls.map Lexeme.token = s.tokens)
    (m : Mark) : takeMark m ls = none := by
  cases s with
  | all =>
      obtain rfl := List.map_eq_nil_iff.1 hls
      rfl
  | one | among =>
      obtain ⟨w, ls, rfl, hw, -⟩ := List.map_eq_cons_iff.1 hls
      exact takeMark_word hw m ls

theorem continuation?_of_tokens (s : Selector) {ls : List Lexeme}
    (hls : ls.map Lexeme.token = s.tokens) : continuation? ls = none := by
  have hlow : "where".toLower = "where" := toLower_eq_self (by decide)
  cases s with
  | all =>
      obtain rfl := List.map_eq_nil_iff.1 hls
      rfl
  | one | among =>
      obtain ⟨w, ls, rfl, hw, -⟩ := List.map_eq_cons_iff.1 hls
      simp only [continuation?, hw, wordContinuation?, hlow, String.reduceEq, if_false]

end Selector

section Commands

variable {ls rest : List Lexeme}

theorem readName_word {l : Lexeme} {s : String} (h : l.token = .word s)
    (hs : isReserved s = false) : readName (l :: rest) = .ok (s, rest) := by
  simp only [readName, takeName, h, hs, Bool.false_eq_true, if_false]

theorem readTableName_word {l : Lexeme} {s : String} (h : l.token = .word s)
    (hs : isReserved s = false) (hrest : takeMark .dot rest = none) :
    readTableName (l :: rest) = .ok (⟨none, s⟩, rest) := by
  simp only [readTableName, readName_word h hs, ok_bind, hrest]

theorem isReserved_eq {s : String} (h : s.toList.all (fun c => c.toLower = c) = true) :
    isReserved s = reserved.contains s := by
  rw [isReserved, toLower_eq_self h]

theorem isReserved_t : isReserved "t" = false :=
  (isReserved_eq (by decide)).trans (by decide)

theorem readCommand_delete (text : List Char) (s : Selector)
    (hls : ls.map Lexeme.token = .word "delete" :: .word "from" :: .word "t" :: s.tokens) :
    ∃ position, readCommand text ls =
      .ok (.delete ⟨none, "t"⟩ (s.expr (idAt position)), []) := by
  obtain ⟨d, ls, rfl, hd, hls⟩ := List.map_eq_cons_iff.1 hls
  obtain ⟨f, ls, rfl, hf, hls⟩ := List.map_eq_cons_iff.1 hls
  obtain ⟨t, ls, rfl, ht, hls⟩ := List.map_eq_cons_iff.1 hls
  obtain ⟨position, hwhere⟩ := Selector.readOptional_where s hls
  have hdelete : "delete".toLower = "delete" := toLower_eq_self (by decide)
  have hfrom : "from".toLower = "from" := toLower_eq_self (by decide)
  have hname := readTableName_word ht isReserved_t (s.takeMark_of_tokens hls .dot)
  refine ⟨position, ?_⟩
  simp only [readCommand, takeWord_cons hd, hdelete, String.reduceEq, if_false, if_true, readDelete,
    expectWord, takeWord_cons hf, hfrom, ok_bind, hname, hwhere]

theorem readCommand_update (text : List Char) (n : Nat) (s : Selector)
    (hls : ls.map Lexeme.token = .word "update" :: .word "t" :: .word "set" :: .word "v" ::
      .mark .equal :: .slot n :: s.tokens) :
    ∃ position, readCommand text ls =
      .ok (.update ⟨none, "t"⟩ [("v", .slot n)] (s.expr (idAt position)), []) := by
  obtain ⟨u, ls, rfl, hu, hls⟩ := List.map_eq_cons_iff.1 hls
  obtain ⟨t, ls, rfl, ht, hls⟩ := List.map_eq_cons_iff.1 hls
  obtain ⟨w, ls, rfl, hw, hls⟩ := List.map_eq_cons_iff.1 hls
  obtain ⟨v, ls, rfl, hv, hls⟩ := List.map_eq_cons_iff.1 hls
  obtain ⟨o, ls, rfl, ho, hls⟩ := List.map_eq_cons_iff.1 hls
  obtain ⟨q, ls, rfl, hq, hls⟩ := List.map_eq_cons_iff.1 hls
  obtain ⟨position, hwhere⟩ := Selector.readOptional_where s hls
  have hupdate : "update".toLower = "update" := toLower_eq_self (by decide)
  have hset : "set".toLower = "set" := toLower_eq_self (by decide)
  have htable := readTableName_word ht isReserved_t (takeMark_word hw .dot (v :: o :: q :: ls))
  have hcolumn : readName (v :: o :: q :: ls) = .ok ("v", o :: q :: ls) :=
    readName_word hv ((isReserved_eq (by decide)).trans (by decide))
  have hplace : [q].map Lexeme.token = (Argument.bound n).tokens := by
    rw [List.map_singleton, hq]
    rfl
  have hread : readValue (q :: ls) = .ok (.slot n, ls) :=
    (Argument.bound n).readExpr_of_tokens hplace (s.continuation?_of_tokens hls)
      (3 * (q :: ls).length + 1) 0
  have hchange : readChange (v :: o :: q :: ls) = .ok (("v", .slot n), ls) := by
    simp only [readChange, hcolumn, ok_bind, expectMark, takeMark_cons ho, if_true, hread]
  have hchanges : readSeparated readChange (v :: o :: q :: ls).length (v :: o :: q :: ls) =
      .ok ([("v", .slot n)], ls) := by
    simp only [List.length_cons, readSeparated, hchange, ok_bind, s.takeMark_of_tokens hls]
  refine ⟨position, ?_⟩
  simp only [readCommand, takeWord_cons hu, hupdate, String.reduceEq, if_false, if_true, readUpdate,
    htable, ok_bind, expectWord, takeWord_cons hw, hset, hchanges, hwhere]

theorem readCommand_insert (text : List Char) {column : String} (hc : isReserved column = false)
    (a : Argument)
    (hls : ls.map Lexeme.token = .word "insert" :: .word "into" :: .word "t" :: .mark .leftParen ::
      .word column :: .mark .rightParen :: .word "values" :: .mark .leftParen ::
        (a.tokens ++ [.mark .rightParen])) :
    readCommand text (ls ++ rest) =
      .ok (.insert ⟨none, "t"⟩ (some [column]) [a.expr], rest) := by
  obtain ⟨i, ls, rfl, hi, hls⟩ := List.map_eq_cons_iff.1 hls
  obtain ⟨o, ls, rfl, ho, hls⟩ := List.map_eq_cons_iff.1 hls
  obtain ⟨t, ls, rfl, ht, hls⟩ := List.map_eq_cons_iff.1 hls
  obtain ⟨p, ls, rfl, hp, hls⟩ := List.map_eq_cons_iff.1 hls
  obtain ⟨c, ls, rfl, hcol, hls⟩ := List.map_eq_cons_iff.1 hls
  obtain ⟨q, ls, rfl, hq, hls⟩ := List.map_eq_cons_iff.1 hls
  obtain ⟨v, ls, rfl, hv, hls⟩ := List.map_eq_cons_iff.1 hls
  obtain ⟨p', ls, rfl, hp', hls⟩ := List.map_eq_cons_iff.1 hls
  obtain ⟨value, ls, rfl, hvalue, hls⟩ := List.map_eq_append_iff.1 hls
  obtain ⟨q', ls, rfl, hq', hnil⟩ := List.map_eq_cons_iff.1 hls
  obtain rfl := List.map_eq_nil_iff.1 hnil
  have hinsert : "insert".toLower = "insert" := toLower_eq_self (by decide)
  have hinto : "into".toLower = "into" := toLower_eq_self (by decide)
  have hvalues : "values".toLower = "values" := toLower_eq_self (by decide)
  have hdot : takeMark .dot (p :: c :: q :: v :: p' :: (value ++ q' :: rest)) = none := by
    rw [takeMark_cons hp]
    rfl
  have htable := readTableName_word ht isReserved_t hdot
  have hcolumns : readColumns (p :: c :: q :: v :: p' :: (value ++ q' :: rest)) =
      .ok (some [column], v :: p' :: (value ++ q' :: rest)) := by
    simp only [readColumns, takeMark_cons hp, if_true, List.length_cons, readSeparated,
      readName_word hcol hc, ok_bind, takeMark_cons hq, reduceCtorEq, if_false, expectMark]
  have hend : continuation? (q' :: rest) = none := by
    rw [continuation?_mark hq']
    rfl
  have hread : readValue (value ++ q' :: rest) = .ok (a.expr, q' :: rest) :=
    a.readExpr_of_tokens hvalue hend (3 * (value ++ q' :: rest).length + 1) 0
  have hlength : (value ++ q' :: rest).length = value.length + rest.length + 1 := by
    rw [List.length_append, List.length_cons, Nat.add_assoc]
  have hexprs : readSeparated readValue (value ++ q' :: rest).length (value ++ q' :: rest) =
      .ok ([a.expr], q' :: rest) := by
    rw [hlength]
    simp only [readSeparated, hread, ok_bind, takeMark_cons hq', reduceCtorEq, if_false]
  simp only [List.cons_append, List.append_assoc, List.nil_append, readCommand, takeWord_cons hi,
    hinsert, String.reduceEq, if_false, if_true, readInsert, expectWord, takeWord_cons ho, hinto,
    ok_bind, htable, hcolumns, takeWord_cons hv, hvalues, readRow, expectMark, takeMark_cons hp',
    hexprs, takeMark_cons hq']

end Commands

theorem slotCount_eq (ls : List Lexeme) :
    slotCount ls = (ls.map Lexeme.token).foldl greatestSlot 0 := by
  rw [List.foldl_map]
  rfl

theorem foldl_greatestSlot_le_iff (ts : List Token) (n m : Nat) :
    ts.foldl greatestSlot n ≤ m ↔ n ≤ m ∧ ∀ k, .slot k ∈ ts → k ≤ m := by
  induction ts generalizing n with
  | nil => simp
  | cons t ts ih =>
      rw [List.foldl_cons, ih]
      cases t with
      | slot i => simp only [greatestSlot, List.mem_cons, Token.slot.injEq]; grind
      | _ => simp [greatestSlot]

theorem isBeyond_iff (l : Lexeme) : l.isBeyond = true ↔ ∃ n, l.token = .slot n ∧ maxSlot < n := by
  rw [Lexeme.isBeyond]
  cases l.token <;> simp

/-- There is a place that is beyond the last number if and only if the greatest number is. -/
theorem exists_isBeyond_iff (ls : List Lexeme) :
    (∃ l ∈ ls, l.isBeyond = true) ↔ maxSlot < slotCount ls := by
  rw [← Nat.not_le, slotCount_eq, foldl_greatestSlot_le_iff]
  simp only [Nat.zero_le, true_and, List.mem_map, Classical.not_forall, Nat.not_le, isBeyond_iff]
  grind

theorem Parsed.ofTokens_of_le {ls : List Lexeme} (h : slotCount ls ≤ maxSlot) (command : Command) :
    ofTokens command ls = .ok ⟨command, slotCount ls⟩ := by
  have hnone : ls.find? Lexeme.isBeyond = none := by
    rw [List.find?_eq_none]
    intro l hl hbeyond
    exact Nat.not_lt.2 h ((exists_isBeyond_iff ls).1 ⟨l, hl, hbeyond⟩)
  rw [ofTokens, hnone]

theorem Parsed.ofTokens_of_lt {ls : List Lexeme} (h : maxSlot < slotCount ls) (command : Command) :
    ∃ position, ofTokens command ls = .error (.tooManySlots position) := by
  obtain ⟨l, hl, hbeyond⟩ := (exists_isBeyond_iff ls).2 h
  cases hfind : ls.find? Lexeme.isBeyond with
  | none => exact absurd hbeyond (List.find?_eq_none.1 hfind l hl)
  | some found => exact ⟨found.position, by rw [ofTokens, hfind]⟩

section Texts

variable {F : List Char → Prop} {body : List Char} {ts : List Token} {k : Nat} {w : String}
  {command : Command}

theorem lexemes_of_lexes (h : Lexes F body ts 0 k) (rest : List Char)
    (hrest : F (rest.takeWhile (· ≠ '\x00'))) :
    ∃ ls, ls.map Lexeme.token = ts ∧ slotCount ls = k ∧ lexemes (body ++ rest) =
      ls ++ lexemesFrom k body.length (rest.takeWhile (· ≠ '\x00')) := by
  have hclean : ∀ c ∈ body, decide (c ≠ '\x00') = true := by
    intro c hc
    refine decide_eq_true fun he => h.clean ?_
    rwa [← he]
  obtain ⟨ls, hls, hlex⟩ := h.exists_lexemes 0 _ hrest
  refine ⟨ls, hls, by rw [slotCount_eq, hls, h.slots], ?_⟩
  rw [lexemes, List.takeWhile_append_of_pos hclean]
  rwa [Nat.zero_add] at hlex

theorem Parsed.next_of_lexemes {text : List Char} {l : Lexeme} {ls rest : List Lexeme}
    (hl : l.token = .word w) (hlex : lexemes text = l :: ls ++ rest)
    (hread : readCommand text (l :: ls ++ rest) = .ok (command, rest)) :
    Parsed.next text = (do
      let parsed ← ofTokens command (l :: ls)
      match rest with
      | [] => .ok (some parsed, [])
      | r :: _ =>
          if r.isMark .semicolon then .ok (some parsed, text.drop r.stop)
          else unexpected rest) := by
  have hdrop : (l :: ls ++ rest).dropWhile (·.isMark .semicolon) = l :: (ls ++ rest) := by
    have hmark : l.isMark .semicolon = false := by rw [Lexeme.isMark, hl]
    rw [List.cons_append, List.dropWhile_cons, hmark, if_neg Bool.false_ne_true]
  have htake : (l :: (ls ++ rest)).take ((l :: (ls ++ rest)).length - rest.length) = l :: ls := by
    have hlength : (l :: (ls ++ rest)).length - rest.length = (l :: ls).length := by
      simp only [List.length_cons, List.length_append]
      omega
    rw [hlength, ← List.cons_append, List.take_left]
  rw [List.cons_append] at hread
  cases rest <;> simp only [Parsed.next, hlex, hdrop, hread, htake, ok_bind]

/-- A text that is one command is read as that unless it has places without a number. -/
theorem Parsed.next_whole_eq (h : Lexes (· = []) body (.word w :: ts) 0 k) {P : Command → Prop}
    (hread : ∀ ls, ls.map Lexeme.token = .word w :: ts →
      ∃ command, readCommand body ls = .ok (command, []) ∧ P command) :
    ∃ command ls, slotCount ls = k ∧ P command ∧
      Parsed.next body = (do .ok (some (← ofTokens command ls), [])) := by
  obtain ⟨ls, hls, hcount, hlex⟩ := lexemes_of_lexes h [] rfl
  rw [List.takeWhile_nil, lexemesFrom, lexFrom, List.append_nil, numberSlots] at hlex
  obtain ⟨command, hcommand, hP⟩ := hread ls hls
  obtain ⟨l, ls, rfl, hl, -⟩ := List.map_eq_cons_iff.1 hls
  rw [← List.append_nil (l :: ls)] at hcommand
  exact ⟨command, l :: ls, hcount, hP, Parsed.next_of_lexemes hl hlex hcommand⟩

theorem Parsed.next_whole (h : Lexes (· = []) body (.word w :: ts) 0 k) (hk : k ≤ maxSlot)
    {P : Command → Prop}
    (hread : ∀ ls, ls.map Lexeme.token = .word w :: ts →
      ∃ command, readCommand body ls = .ok (command, []) ∧ P command) :
    ∃ command, Parsed.next body = .ok (some ⟨command, k⟩, []) ∧ P command := by
  obtain ⟨command, ls, rfl, hP, hnext⟩ := Parsed.next_whole_eq h hread
  refine ⟨command, ?_, hP⟩
  rw [hnext, ofTokens_of_le hk]
  rfl

theorem Parsed.next_whole_beyond (h : Lexes (· = []) body (.word w :: ts) 0 k) (hk : maxSlot < k)
    (hread : ∀ ls, ls.map Lexeme.token = .word w :: ts →
      ∃ command, readCommand body ls = .ok (command, [])) :
    ∃ position, Parsed.next body = .error (.tooManySlots position) := by
  have hread' : ∀ ls, ls.map Lexeme.token = .word w :: ts →
      ∃ command, readCommand body ls = .ok (command, []) ∧ True := fun ls hls => by
    obtain ⟨command, hcommand⟩ := hread ls hls
    exact ⟨command, hcommand, trivial⟩
  obtain ⟨command, ls, rfl, -, hnext⟩ := Parsed.next_whole_eq h hread'
  obtain ⟨position, hbeyond⟩ := ofTokens_of_lt hk command
  refine ⟨position, ?_⟩
  rw [hnext, hbeyond]
  rfl

theorem Parsed.next_before_semicolon (h : Lexes (fun _ => True) body (.word w :: ts) 0 k)
    (hk : k ≤ maxSlot) (more : List Char)
    (hread : ∀ text ls rest, ls.map Lexeme.token = .word w :: ts →
      readCommand text (ls ++ rest) = .ok (command, rest)) :
    Parsed.next (body ++ ';' :: more) = .ok (some ⟨command, k⟩, more) := by
  obtain ⟨ls, hls, hcount, hlex⟩ := lexemes_of_lexes h (';' :: more) trivial
  have hsemicolon : (';' :: more).takeWhile (fun c => decide (c ≠ '\x00')) =
      ';' :: more.takeWhile fun c => decide (c ≠ '\x00') := rfl
  have hrest (cs : List Char) : lexemesFrom k body.length (';' :: cs) =
      ⟨.mark .semicolon, body.length, ";"⟩ :: lexemesFrom k (body.length + 1) cs := by
    rw [lexemesFrom, lexFrom]
    rfl
  rw [hsemicolon, hrest] at hlex
  have hcommand := hread (body ++ ';' :: more) ls
    (⟨.mark .semicolon, body.length, ";"⟩ :: lexemesFrom k (body.length + 1)
      (more.takeWhile fun c => decide (c ≠ '\x00'))) hls
  obtain ⟨l, ls, rfl, hl, -⟩ := List.map_eq_cons_iff.1 hls
  have hmark : (⟨.mark .semicolon, body.length, ";"⟩ : Lexeme).isMark .semicolon = true := rfl
  have hstop : (⟨.mark .semicolon, body.length, ";"⟩ : Lexeme).stop = body.length + 1 :=
    congrArg (body.length + ·) (by decide : ";".length = 1)
  have hdrop : (body ++ ';' :: more).drop (body.length + 1) = more := by
    rw [List.append_cons, List.drop_left' (by simp)]
  rw [Parsed.next_of_lexemes hl hlex hcommand, ofTokens_of_le (hcount ▸ hk), hcount]
  simp only [ok_bind, hmark, if_true, hstop, hdrop]

end Texts

end Querysmith.Sql
