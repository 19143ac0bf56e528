import Querysmith.Database.Transaction
import Querysmith.Proofs.Parsing

namespace Querysmith.Sql

def Argument.text : Argument → String
  | written i => toString i.toInt
  | bound _ => "?"

inductive Numbered : List Argument → Nat → Nat → Prop where
  | nil (k : Nat) : Numbered [] k k
  | written (x : Int64) {as : List Argument} {i j : Nat} (h : Numbered as i j) :
      Numbered (.written x :: as) i j
  | bound {as : List Argument} {i j : Nat} (h : Numbered as (i + 1) j) :
      Numbered (.bound (i + 1) :: as) i j

namespace Numbered

variable {as : List Argument} {i j : Nat}

theorem lexesAll (h : Numbered as i j) :
    LexesAll (as.map fun a => a.text.toList) (as.map Argument.tokens) i j := by
  induction h with
  | nil k => exact .nil k
  | written x h ih => exact .cons (.integer x.toInt _) ih
  | @bound as i j h ih =>
      have hplace : Lexes Parted "?".toList [.slot (i + 1)] i (i + 1) := .place i
      exact .cons hplace ih

theorem lexes (h : Numbered as i j) :
    Lexes Parted (",".intercalate (as.map Argument.text)).toList
      (separated (as.map Argument.tokens)) i j := by
  have hjoined := h.lexesAll.joined
  rw [String.toList_intercalate, List.map_map]
  exact hjoined

theorem le_succ_of_singleton {a : Argument} (h : Numbered [a] i j) : j ≤ i + 1 := by
  cases h with
  | written x h =>
      cases h
      exact Nat.le_succ i
  | bound h =>
      cases h
      exact Nat.le_refl _

theorem le_maxSlot_of_singleton {a : Argument} (h : Numbered [a] 0 j) : j ≤ maxSlot :=
  Nat.le_trans h.le_succ_of_singleton (by decide)

theorem lexes_singleton {a : Argument} (h : Numbered [a] i j) :
    Lexes Parted a.text.toList a.tokens i j := by
  have hjoined := h.lexes
  rwa [List.map_singleton, List.map_singleton, separated_singleton, String.intercalate_singleton]
    at hjoined

end Numbered

namespace Selector

def arguments : Selector → List Argument
  | all => []
  | one n => [.bound n]
  | among as => as

def text : Selector → String
  | all => ""
  | one _ => " where id = ?"
  | among as => " where id IN (" ++ ",".intercalate (as.map Argument.text) ++ ")"

end Selector

def Spaced (rest : List Char) : Prop :=
  rest = [] ∨ ∃ more, rest = ' ' :: more

theorem Spaced.parted {rest : List Char} (h : Spaced rest) : Parted rest := by
  obtain rfl | ⟨more, rfl⟩ := h
  · exact parted_nil
  · exact parted_cons (by decide) (by decide)

theorem toList_append_append (x y z : String) :
    (x ++ y ++ z).toList = x.toList ++ (y.toList ++ z.toList) := by
  rw [String.toList_append, String.toList_append, List.append_assoc]

theorem Selector.toList_text_among (as : List Argument) : (among as).text.toList =
    " where id IN (".toList ++ ((",".intercalate (as.map Argument.text)).toList ++ ")".toList) :=
  toList_append_append _ _ _

theorem Selector.spaced_text (s : Selector) : Spaced s.text.toList := by
  cases s with
  | all => exact .inl rfl
  | one n =>
      have htext : " where id = ?".toList = ' ' :: "where id = ?".toList := by decide
      exact .inr ⟨_, htext⟩
  | among as =>
      rw [toList_text_among]
      exact .inr ⟨"where id IN (".toList ++ _, rfl⟩

theorem lexes_one (k : Nat) :
    Lexes Parted " where id = ?".toList (Selector.one (k + 1)).tokens k (k + 1) := by
  have hhead : Lexes (fun rest => rest.head? = some '?') " where id = ".toList
      [.word "where", .word "id", .mark .equal] k k := by
    refine .of_lexSteps 7 (by decide) (by simp [Token.IsFixed]) ?_ k
    rintro p (_ | ⟨c, rest⟩) hrest
    · cases hrest
    · obtain rfl := Option.some.inj hrest
      exact ⟨rfl, rfl⟩
  have hplace : Lexes Parted "?".toList [.slot (k + 1)] k (k + 1) := .place k
  exact hhead.append hplace fun _ _ => rfl

theorem lexes_among {as : List Argument} {i j : Nat} (h : Numbered as i j) :
    Lexes (fun _ => True) (Selector.among as).text.toList (Selector.among as).tokens i j := by
  have hhead : Lexes (fun _ => True) " where id IN (".toList
      [.word "where", .word "id", .word "IN", .mark .leftParen] i i := by
    refine .of_lexSteps 8 (by decide) (by simp [Token.IsFixed]) ?_ i
    intro p rest _
    exact ⟨rfl, rfl⟩
  have hend : Lexes (fun _ => True) ")".toList [.mark .rightParen] j j :=
    .mark (fun _ => rfl) (by decide) j
  have hmembers := h.lexes.append hend fun _ _ => parted_cons (by decide) (by decide)
  have hall := hhead.append hmembers fun _ _ => trivial
  rwa [Selector.toList_text_among]

theorem Selector.lexes (s : Selector) {i j : Nat} (h : Numbered s.arguments i j) :
    Lexes (· = []) s.text.toList s.tokens i j := by
  cases s with
  | all =>
      cases h
      exact .nil i
  | one n =>
      cases h with
      | bound h =>
          cases h
          exact (lexes_one i).weaken fun _ he => he ▸ parted_nil
  | among as => exact (lexes_among h).weaken fun _ _ => trivial

theorem lexes_deletion (s : Selector) {k : Nat} (h : Numbered s.arguments 0 k) :
    Lexes (· = []) ("delete from t" ++ s.text).toList
      (.word "delete" :: .word "from" :: .word "t" :: s.tokens) 0 k := by
  have hhead : Lexes Spaced "delete from t".toList
      [.word "delete", .word "from", .word "t"] 0 0 := by
    refine .of_lexSteps 5 (by decide) (by simp [Token.IsFixed]) ?_ 0
    rintro p rest (rfl | ⟨more, rfl⟩) <;> exact ⟨rfl, rfl⟩
  rw [String.toList_append]
  refine hhead.append (s.lexes h) ?_
  rintro _ rfl
  rw [List.append_nil]
  exact s.spaced_text

theorem lexes_change (s : Selector) {k : Nat} (h : Numbered s.arguments 1 k) :
    Lexes (· = []) ("update t set v = ?" ++ s.text).toList
      (.word "update" :: .word "t" :: .word "set" :: .word "v" :: .mark .equal :: .slot 1 ::
        s.tokens) 0 k := by
  have hhead : Lexes (fun rest => rest.head? = some '?') "update t set v = ".toList
      [.word "update", .word "t", .word "set", .word "v", .mark .equal] 0 0 := by
    refine .of_lexSteps 10 (by decide) (by simp [Token.IsFixed]) ?_ 0
    rintro p (_ | ⟨c, rest⟩) hrest
    · cases hrest
    · obtain rfl := Option.some.inj hrest
      exact ⟨rfl, rfl⟩
  have hplace : Lexes Parted "?".toList [.slot 1] 0 1 := .place 0
  have hchange : Lexes Parted "update t set v = ?".toList _ 0 1 :=
    hhead.append hplace fun _ _ => rfl
  rw [String.toList_append]
  refine hchange.append (s.lexes h) ?_
  rintro _ rfl
  rw [List.append_nil]
  exact s.spaced_text.parted

def insertionOf (column : String) (a : Argument) : String :=
  "insert into t (" ++ column ++ ") values (" ++ a.text ++ ")"

theorem lexes_insertionHead {column : String} (h : column = "v" ∨ column = "nope") :
    Lexes (fun _ => True) ("insert into t (" ++ column ++ ") values (").toList
      [.word "insert", .word "into", .word "t", .mark .leftParen, .word column, .mark .rightParen,
        .word "values", .mark .leftParen] 0 0 := by
  obtain rfl | rfl := h
  all_goals
    refine .of_lexSteps 13 (by decide) (by simp [Token.IsFixed]) ?_ 0
    intro p rest _
    exact ⟨rfl, rfl⟩

theorem lexes_insertion {column : String} (hc : column = "v" ∨ column = "nope") {a : Argument}
    {k : Nat} (h : Numbered [a] 0 k) :
    Lexes (fun _ => True) (insertionOf column a).toList
      (.word "insert" :: .word "into" :: .word "t" :: .mark .leftParen :: .word column ::
        .mark .rightParen :: .word "values" :: .mark .leftParen ::
          (a.tokens ++ [.mark .rightParen])) 0 k := by
  have hhead := lexes_insertionHead hc
  have hend : Lexes (fun _ => True) ")".toList [.mark .rightParen] k k :=
    .mark (fun _ => rfl) (by decide) k
  have hvalue := h.lexes_singleton.append hend fun _ _ => parted_cons (by decide) (by decide)
  have hall := hhead.append hvalue fun _ _ => trivial
  have htext : (insertionOf column a).toList =
      ("insert into t (" ++ column ++ ") values (").toList ++ (a.text.toList ++ ")".toList) :=
    toList_append_append _ _ _
  rwa [htext]

end Querysmith.Sql

namespace Querysmith

open Sql

namespace Plan

theorem resolve_argument {ν ε : Type} (meaning : Reference → Except ε (Expr ν)) (a : Argument) :
    (a.expr : Expr Reference).resolve meaning = .ok a.expr := by
  cases a <;> rfl

theorem resolve_oneOf {ν ε : Type} {meaning : Reference → Except ε (Expr ν)} {e : Expr Reference}
    {f : Expr ν} (h : e.resolve meaning = .ok f) (as : List Argument) :
    (Expr.oneOf e (as.map Argument.expr)).resolve meaning =
      .ok (.oneOf f (as.map Argument.expr)) := by
  match as with
  | [] => rfl
  | [a] =>
      simp only [List.map_singleton, Expr.oneOf, Expr.resolve, h, resolve_argument, ok_bind]
  | a :: b :: as =>
      have ih := resolve_oneOf h (b :: as)
      simp only [List.map_cons] at ih ⊢
      simp only [Expr.oneOf, Expr.resolve, h, resolve_argument, ok_bind, ih]

theorem columnMeaning_id (position : Nat) :
    columnMeaning (some "t") [] ⟨none, "id", .plain, position⟩ = .ok (.name .id) := by
  have hcolumn : Column.ofName? "id" = some .id := by decide +kernel
  simp only [columnMeaning, columnIn?, hcolumn]

theorem resolveOptional_selector (s : Selector) (position : Nat) :
    resolveOptional (columnMeaning (some "t") []) (s.expr (idAt position)) =
      .ok (s.expr (.name .id)) := by
  have hid : (idAt position).resolve (columnMeaning (some "t") []) = .ok (.name .id) :=
    columnMeaning_id position
  cases s with
  | all => rfl
  | one n =>
      simp only [Selector.expr, resolveOptional, Expr.resolve, hid, ok_bind]
      rfl
  | among as =>
      simp only [Selector.expr, resolveOptional, resolve_oneOf hid]
      rfl

theorem checkTable_t : checkTable ⟨none, "t"⟩ = .ok () := by
  have ht : sameName "t" "t" = true := by decide +kernel
  simp only [checkTable, isMain, ht, Bool.and_self, if_true]

theorem ofCommand_delete (s : Selector) (position : Nat) :
    ofCommand (.delete ⟨none, "t"⟩ (s.expr (idAt position))) =
      .ok (.delete (s.expr (.name .id))) := by
  simp only [ofCommand, checkTable_t, ok_bind, resolveOptional_selector]

theorem ofName?_v : Column.ofName? "v" = some .value := by
  decide +kernel

theorem ofCommand_update (s : Selector) (n position : Nat) :
    ofCommand (.update ⟨none, "t"⟩ [("v", .slot n)] (s.expr (idAt position))) =
      .ok (.update [(.value, .slot n)] (s.expr (.name .id))) := by
  simp only [ofCommand, checkTable_t, ok_bind, resolveChanges, Expr.resolve, ofName?_v,
    resolveOptional_selector]

theorem ofCommand_insert (a : Argument) :
    ofCommand (.insert ⟨none, "t"⟩ (some ["v"]) [a.expr]) = .ok (.insert [.value] [a.expr]) := by
  simp only [ofCommand, ofInsert, checkTable_t, ok_bind, insertColumns, ofName?_v, resolveAll,
    resolve_argument, List.length_cons, List.length_nil, if_true]

theorem ofCommand_insert_nope (a : Argument) :
    ofCommand (.insert ⟨none, "t"⟩ (some ["nope"]) [a.expr]) =
      .error (.columnNotInTable "t" "nope") := by
  have hcolumn : Column.ofName? "nope" = none := by decide +kernel
  simp only [ofCommand, ofInsert, checkTable_t, ok_bind, insertColumns, hcolumn]
  rfl

end Plan

namespace Prepared

theorem next_of_parsed {text rest : List Char} {command : Command} {plan : Plan} {k : Nat}
    (h : Parsed.next text = .ok (some ⟨command, k⟩, rest))
    (hplan : Plan.ofCommand command = .ok plan) :
    next text = .ok (some ⟨plan, k⟩, rest) := by
  simp only [next, h, ok_bind, ofParsed, hplan]
  rfl

/-- What a text that is one command is prepared as: the plan, unless it has too many places. -/
def IsPrepared (text : List Char) (plan : Plan) (k : Nat) : Prop :=
  if k ≤ maxSlot then next text = .ok (some ⟨plan, k⟩, [])
  else ∃ position, next text = .error (.tooManySlots position)

theorem next_of_beyond {body : List Char} {w : String} {ts : List Token} {k : Nat}
    (h : Lexes (· = []) body (.word w :: ts) 0 k) (hk : maxSlot < k)
    (hread : ∀ ls, ls.map Lexeme.token = .word w :: ts →
      ∃ command, readCommand body ls = .ok (command, [])) :
    ∃ position, next body = .error (.tooManySlots position) := by
  obtain ⟨position, hbeyond⟩ := Parsed.next_whole_beyond h hk hread
  refine ⟨position, ?_⟩
  rw [next, hbeyond]
  rfl

theorem isPrepared_of_read {body : List Char} {w : String} {ts : List Token} {k : Nat} {plan : Plan}
    (h : Lexes (· = []) body (.word w :: ts) 0 k)
    (hread : ∀ ls, ls.map Lexeme.token = .word w :: ts →
      ∃ command, readCommand body ls = .ok (command, []) ∧ Plan.ofCommand command = .ok plan) :
    IsPrepared body plan k := by
  rw [IsPrepared]
  split
  · rename_i hk
    obtain ⟨command, hnext, hplan⟩ := Parsed.next_whole h hk hread
    exact next_of_parsed hnext hplan
  · rename_i hk
    exact next_of_beyond h (Nat.not_le.1 hk) fun ls hls =>
      (hread ls hls).imp fun _ hcommand => hcommand.1

theorem isPrepared_deletion (s : Selector) {k : Nat} (h : Numbered s.arguments 0 k) :
    IsPrepared ("delete from t" ++ s.text).toList (.delete (s.expr (.name .id))) k := by
  refine isPrepared_of_read (lexes_deletion s h) fun ls hls => ?_
  obtain ⟨position, hread⟩ := readCommand_delete _ s hls
  exact ⟨_, hread, Plan.ofCommand_delete s position⟩

theorem isPrepared_change (s : Selector) {k : Nat} (h : Numbered s.arguments 1 k) :
    IsPrepared ("update t set v = ?" ++ s.text).toList
      (.update [(.value, .slot 1)] (s.expr (.name .id))) k := by
  refine isPrepared_of_read (lexes_change s h) fun ls hls => ?_
  obtain ⟨position, hread⟩ := readCommand_update _ 1 s hls
  exact ⟨_, hread, Plan.ofCommand_update s 1 position⟩

theorem isReserved_column {column : String} (h : column = "v" ∨ column = "nope") :
    isReserved column = false := by
  obtain rfl | rfl := h <;> exact (isReserved_eq (by decide)).trans (by decide)

theorem parsed_insertion {column : String} (hc : column = "v" ∨ column = "nope") {a : Argument}
    {k : Nat} (h : Numbered [a] 0 k) (more : List Char) :
    Parsed.next ((insertionOf column a).toList ++ ';' :: more) =
      .ok (some ⟨.insert ⟨none, "t"⟩ (some [column]) [a.expr], k⟩, more) :=
  Parsed.next_before_semicolon (lexes_insertion hc h) h.le_maxSlot_of_singleton more
    fun text _ _ hls => readCommand_insert text (isReserved_column hc) a hls

theorem next_insertion {a : Argument} {k : Nat} (h : Numbered [a] 0 k) (more : List Char) :
    next ((insertionOf "v" a).toList ++ ';' :: more) =
      .ok (some ⟨.insert [.value] [a.expr], k⟩, more) :=
  next_of_parsed (parsed_insertion (.inl rfl) h more) (Plan.ofCommand_insert a)

theorem next_insertion_whole {a : Argument} {k : Nat} (h : Numbered [a] 0 k) :
    next (insertionOf "v" a).toList = .ok (some ⟨.insert [.value] [a.expr], k⟩, []) := by
  have hlexes : Lexes (· = []) (insertionOf "v" a).toList _ 0 k :=
    (lexes_insertion (.inl rfl) h).weaken fun _ _ => trivial
  obtain ⟨command, hnext, hplan⟩ := Parsed.next_whole hlexes h.le_maxSlot_of_singleton
    (P := fun command => Plan.ofCommand command = .ok (.insert [.value] [a.expr])) fun ls hls => by
      have hread : readCommand (insertionOf "v" a).toList (ls ++ []) = _ :=
        readCommand_insert _ (isReserved_column (.inl rfl)) a hls
      rw [List.append_nil] at hread
      exact ⟨_, hread, Plan.ofCommand_insert a⟩
  exact next_of_parsed hnext hplan

theorem next_insertion_nope {a : Argument} {k : Nat} (h : Numbered [a] 0 k) (more : List Char) :
    next ((insertionOf "nope" a).toList ++ ';' :: more) =
      .error (.columnNotInTable "t" "nope") := by
  simp only [next, parsed_insertion (.inr rfl) h more, ok_bind, ofParsed,
    Plan.ofCommand_insert_nope]
  rfl

end Prepared

namespace Database

variable {d : Database} {text : List Char} {params : List Value}

theorem map_kept_cell (params : List Value) :
    (params.map Value.cell).map Cell.kept = params.map Value.stored := by
  rw [List.map_map]
  rfl

theorem perform_of_next (hample : d.engine.Ample) {p : Prepared}
    (hnext : Prepared.next text = .ok (some p, [])) :
    d.perform text params =
      if params.length = p.arity then d.run p.plan (params.map Value.cell)
      else (.error (.wrongParameterCount (min params.length (p.arity + 1)) p.arity), d.later) := by
  have hsole : Prepared.sole? text = .ok (some p) := by
    rw [Prepared.sole?, Prepared.soleFrom, hnext]
  by_cases hcount : params.length = p.arity
  all_goals
    simp only [perform, hample d.moment text params, hsole, Option.map_some, Option.getD_some,
      Prepared.checkCount, hcount, if_true, if_false]

theorem perform_of_refused (hample : d.engine.Ample) {fault : Fault}
    (hfault : fault.isForeign = false) (hnext : Prepared.next text = .error fault) :
    d.perform text params = (.error (.refused fault (String.ofList text)), d.later) := by
  have hsole : Prepared.sole? text = .error (.refused fault (String.ofList text)) := by
    rw [Prepared.sole?, Prepared.soleFrom, hnext]
  have hknown : (DatabaseFault.refused fault (String.ofList text)).isForeign = false := hfault
  simp only [perform, hample d.moment text params, hsole, pass, hknown]
  rfl

end Database

end Querysmith
