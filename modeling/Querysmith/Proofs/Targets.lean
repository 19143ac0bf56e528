import Querysmith.Proofs.Statements
import Querysmith.Proofs.TableGrowth
import Querysmith.Store

namespace Querysmith

open Sql

namespace Table

variable {t : Table} {r s : TableRow}

theorem eq_of_key_eq (hr : r ∈ t.rows) (hs : s ∈ t.rows) (hkey : r.key = s.key) : r = s := by
  have h : r.id = s.id := congrArg Int64.toInt hkey
  obtain ⟨before, after, he⟩ := List.append_of_mem hr
  have hsorted := t.sorted
  rw [he] at hsorted hs
  obtain ⟨-, hafter, hbefore⟩ := List.pairwise_append.1 hsorted
  rcases List.mem_append.1 hs with hs | hs
  · have hlt := hbefore s hs r List.mem_cons_self
    omega
  · rcases List.mem_cons.1 hs with rfl | hs
    · rfl
    · have hlt := (List.pairwise_cons.1 hafter).1 s hs
      omega

def write (t : Table) (p : TableRow → Bool) (v : Cell) : Table where
  rows := t.rows.map fun r => if p r then ⟨r.key, v⟩ else r
  sorted := by
    have hid (r : TableRow) : (if p r then TableRow.mk r.key v else r).id = r.id := by
      split <;> rfl
    refine List.pairwise_map.2 (t.sorted.imp fun {r s} h => ?_)
    rwa [hid, hid]

theorem write_congr {p q : TableRow → Bool} (h : ∀ r ∈ t.rows, p r = q r) (v : Cell) :
    t.write p v = t.write q v := by
  refine Table.ext (List.map_congr_left fun r hr => ?_)
  rw [h r hr]

theorem write_false (v : Cell) : t.write (fun _ => false) v = t := by
  refine Table.ext ?_
  simp [write]

theorem write_write (p q : TableRow → Bool) (v : Cell) (h : ∀ r, q ⟨r.key, v⟩ = q r) :
    (t.write p v).write q v = t.write (fun r => p r || q r) v := by
  refine Table.ext ?_
  simp only [write, List.map_map]
  refine List.map_congr_left fun r _ => ?_
  by_cases hp : p r = true <;> simp [Function.comp, hp, h]

theorem has_write (p : TableRow → Bool) (v : Cell) (key : Int64) :
    (t.write p v).has key = t.has key := by
  simp only [has, write, List.any_map]
  congr 1
  funext r
  by_cases hp : p r = true <;> simp [Function.comp, hp]

theorem place_delete {key : Int64} (h : t.has key = true) (v : Cell) :
    (t.delete fun r => r.key = key).place key v = t.write (fun r => r.key = key) v := by
  obtain ⟨old, hold, hkey⟩ := has_iff.1 h
  have hfresh : ∀ r ∈ (t.delete fun r => r.key = key).rows, r.key ≠ key := by
    intro r hr
    simpa [delete] using (List.mem_filter.1 hr).2
  refine eq_of_mem_iff fun r => ?_
  rw [mem_place hfresh]
  simp only [delete, write, List.mem_filter, List.mem_map, decide_eq_true_eq, Bool.not_eq_true',
    decide_eq_false_iff_not]
  constructor
  · rintro (⟨hr, hne⟩ | rfl)
    · exact ⟨r, hr, if_neg hne⟩
    · exact ⟨old, hold, by rw [if_pos hkey, hkey]⟩
  · rintro ⟨s, hs, rfl⟩
    by_cases he : s.key = key
    · rw [if_pos he, he]
      exact .inr rfl
    · rw [if_neg he]
      exact .inl ⟨hs, he⟩

end Table

namespace Plan

theorem updateRows_eq_write {params : List Cell} {changes : List (Column × Expr Column)} {v : Cell}
    (hchange : ∀ r, changedRow params changes r = .ok ⟨r.key, v⟩) (t : Table)
    (chosen : List TableRow) (hmem : ∀ r ∈ chosen, t.has r.key = true) :
    updateRows params changes t chosen =
      .ok (t.write (fun r => chosen.any fun s => r.key = s.key) v) := by
  induction chosen generalizing t with
  | nil =>
      simp only [updateRows, List.any_nil, Table.write_false]
  | cons r chosen ih =>
      -- a row keeps its identifier, so the rows still to come are in the table after it as well
      have hplace := Table.place_delete (hmem r List.mem_cons_self) v
      have hrest := ih (t.write (fun s => s.key = r.key) v) fun s hs => by
        rw [Table.has_write]
        exact hmem s (List.mem_cons_of_mem r hs)
      rw [Table.write_write _ _ _ fun _ => rfl] at hrest
      simp only [updateRows, hchange, ok_bind, ne_eq, not_true, false_and, if_false, hplace, hrest,
        List.any_cons]

theorem updating_eq_write {params : List Cell} {changes : List (Column × Expr Column)} {v : Cell}
    (hchange : ∀ r, changedRow params changes r = .ok ⟨r.key, v⟩) (t : Table)
    {filter : Option (Expr Column)} {p : TableRow → Bool}
    (hp : ∀ r, passes (rowEnvironment params r) filter = p r) :
    updating params t changes filter = .ok ⟨t.write p v, t.rows.countP p, none, .empty⟩ := by
  have hchosen : (t.rows.filter fun r => passes (rowEnvironment params r) filter) =
      t.rows.filter p := List.filter_congr fun r _ => hp r
  have hupdate := updateRows_eq_write hchange t (t.rows.filter p) fun r hr =>
    List.any_eq_true.2 ⟨r, (List.mem_filter.1 hr).1, decide_eq_true rfl⟩
  have hwrite : t.write (fun r => (t.rows.filter p).any fun s => r.key = s.key) v =
      t.write p v := by
    refine Table.write_congr (fun r hr => ?_) v
    rw [Bool.eq_iff_iff, List.any_eq_true]
    constructor
    · rintro ⟨s, hs, he⟩
      obtain ⟨hs, hps⟩ := List.mem_filter.1 hs
      rwa [Table.eq_of_key_eq hr hs (of_decide_eq_true he)]
    · intro hpr
      exact ⟨r, List.mem_filter.2 ⟨hr, hpr⟩, decide_eq_true rfl⟩
  simp only [updating, hchosen, hupdate, ok_bind, hwrite, List.countP_eq_length_filter]

end Plan

/-- The rows that a target means: all of them, or those whose identifier is named. -/
def Target.selects : Target → TableRow → Bool
  | all, _ => true
  | one id, r => r.key = id
  | among ids, r => ids.contains r.key

namespace Plan

variable {params : List Cell} {r : TableRow}

theorem column_id : (rowEnvironment params r).column .id = .integer r.key := rfl

theorem isNumeric_id : (rowEnvironment params r).isNumeric .id = true := rfl

theorem numeric_integer (i : Int64) : (Cell.integer i).numeric = .integer i := rfl

theorem order?_integer (i j : Int64) :
    (Cell.integer i).order? (.integer j) = some (compare i.toInt j.toInt) := rfl

theorem equal_holds_compare (i j : Int64) :
    Relation.equal.holds (compare i.toInt j.toInt) = decide (i = j) := by
  rw [Relation.holds, Bool.eq_iff_iff, decide_eq_true_eq, decide_eq_true_eq, Int.compare_eq_eq,
    Int64.toInt_inj]

theorem truth_ofTruth (b : Bool) : (Cell.ofTruth (some b)).truth = some b := by
  cases b <;> rfl

theorem eval_compare {e : Expr Column} {i : Int64}
    (he : e.eval (rowEnvironment params r) = .integer i) (o : Binary)
    (ho : o = .compare .equal ∨ o = .member) :
    (Expr.binary o (.name .id) e).eval (rowEnvironment params r) =
      Cell.ofTruth (some (decide (r.key = i))) := by
  obtain rfl | rfl := ho
  all_goals
    simp only [Expr.eval, he, Expr.isNumeric, column_id, isNumeric_id, Binary.comparesNumbers,
      Bool.true_or, if_true, numeric_integer, Binary.apply, order?_integer, Option.map_some,
      equal_holds_compare]

theorem disjunction_some (a b : Bool) : disjunction (some a) (some b) = some (a || b) := by
  cases a <;> cases b <;> rfl

theorem eval_or (env : Environment Column) (a b : Expr Column) :
    (Expr.binary .or a b).eval env =
      Cell.ofTruth (disjunction (a.eval env).truth (b.eval env).truth) := rfl

theorem eval_oneOf {es : List (Expr Column)} {ids : List Int64}
    (h : es.map (Expr.eval (rowEnvironment params r)) = ids.map Cell.integer) :
    (Expr.oneOf (.name .id) es).eval (rowEnvironment params r) =
      Cell.ofTruth (some (ids.contains r.key)) := by
  induction es generalizing ids with
  | nil =>
      obtain rfl := List.map_eq_nil_iff.1 h.symm
      rfl
  | cons e es ih =>
      obtain ⟨i, ids, rfl, hi, hids⟩ := List.map_eq_cons_iff.1 h.symm
      have he := eval_compare hi.symm .member (.inr rfl)
      cases es with
      | nil =>
          obtain rfl := List.map_eq_nil_iff.1 hids
          rw [Expr.oneOf, he, List.contains_cons, List.contains_nil, Bool.or_false, beq_eq_decide]
      | cons f es =>
          rw [Expr.oneOf, eval_or, he, ih hids.symm, truth_ofTruth, truth_ofTruth,
            disjunction_some, List.contains_cons, beq_eq_decide]
          exact fun hnil => absurd hnil (List.cons_ne_nil f es)

theorem passes_one {n : Nat} {i : Int64}
    (h : (Expr.slot n).eval (rowEnvironment params r) = .integer i) :
    passes (rowEnvironment params r) ((Selector.one n).expr (.name .id)) =
      decide (r.key = i) := by
  rw [Selector.expr, passes, eval_compare h _ (.inl rfl), truth_ofTruth, Bool.eq_iff_iff]
  simp only [decide_eq_true_eq, Option.some.injEq]

theorem passes_among {as : List Argument} {ids : List Int64}
    (h : as.map (fun a => a.expr.eval (rowEnvironment params r)) = ids.map Cell.integer) :
    passes (rowEnvironment params r) ((Selector.among as).expr (.name .id)) =
      ids.contains r.key := by
  have hmap : (as.map Argument.expr).map (Expr.eval (rowEnvironment params r)) =
      ids.map Cell.integer := by rw [List.map_map]; exact h
  rw [Selector.expr, passes, eval_oneOf hmap, truth_ofTruth, Bool.eq_iff_iff]
  simp only [decide_eq_true_eq, Option.some.injEq]

end Plan

namespace Target

/-- The condition that a target is written as, its places numbered behind the given number. -/
def selector (mode : ListMode) (k : Nat) : Target → Selector
  | all => .all
  | one _ => .one (k + 1)
  | among ids =>
      .among (match mode with
        | .inline => ids.map .written
        | .parameterized => (List.range' (k + 1) ids.length).map .bound)

def bound (mode : ListMode) : Target → List Int64
  | all => []
  | one id => [id]
  | among ids =>
      match mode with
      | .inline => []
      | .parameterized => ids

theorem numbered_written (ids : List Int64) (k : Nat) :
    Numbered (ids.map .written) k k := by
  induction ids with
  | nil => exact .nil k
  | cons i ids ih => exact .written i ih

theorem numbered_bound (n k : Nat) :
    Numbered ((List.range' (k + 1) n).map .bound) k (k + n) := by
  induction n generalizing k with
  | zero => exact .nil k
  | succ n ih =>
      have hend : k + 1 + n = k + (n + 1) := by omega
      have hrest := ih (k + 1)
      rw [hend] at hrest
      exact .bound hrest

theorem numbered (mode : ListMode) (k : Nat) (target : Target) :
    Numbered (target.selector mode k).arguments k (k + (target.bound mode).length) := by
  cases target with
  | all => exact .nil k
  | one id => exact .bound (.nil (k + 1))
  | among ids =>
      cases mode with
      | inline => exact numbered_written ids k
      | parameterized => exact numbered_bound ids.length k

theorem literalList_int (ids : List Int64) :
    literalList (ids.map Value.int) =
      ",".intercalate ((ids.map Argument.written).map Argument.text) := by
  have hquotes : quotesList (ids.map Value.int) = false := by
    cases ids <;> rfl
  rw [literalList, hquotes, List.map_map, List.map_map]
  rfl

theorem marks_bound (n k : Nat) :
    marks "," n = ",".intercalate (((List.range' k n).map Argument.bound).map Argument.text) := by
  have htext : Argument.text ∘ Argument.bound = fun _ => "?" := rfl
  rw [marks, List.map_map, htext, List.map_const', List.length_range']

theorem text_members (x : String) :
    " where " ++ " and ".intercalate ["id" ++ " IN (" ++ x ++ ")"] =
      " where id IN (" ++ x ++ ")" := by
  have hhead : " where " ++ "id" ++ " IN (" = " where id IN (" := by decide
  rw [String.intercalate_singleton, ← hhead]
  simp only [String.append_assoc]

theorem text_filter (mode : ListMode) (k : Nat) (target : Target) :
    (filterFragment mode target.filter).text = (target.selector mode k).text := by
  cases target with
  | all => rfl
  | one id => rfl
  | among ids =>
      cases mode with
      | inline =>
          change " where " ++ " and ".intercalate ["id" ++ " IN (" ++ literalList _ ++ ")"] = _
          rw [text_members, literalList_int]
          rfl
      | parameterized =>
          change " where " ++ " and ".intercalate ["id" ++ " IN (" ++ marks "," _ ++ ")"] = _
          rw [text_members, List.length_map, marks_bound ids.length (k + 1)]
          rfl

theorem params_filter (mode : ListMode) (target : Target) :
    (filterFragment mode target.filter).params = (target.bound mode).map Value.int := by
  cases target with
  | all => rfl
  | one id => rfl
  | among ids =>
      cases mode with
      | inline => rfl
      | parameterized => exact List.append_nil _

theorem eval_bound (ids : List Int64) (before : List Cell) (r : TableRow) :
    ((List.range' (before.length + 1) ids.length).map Argument.bound).map
        (fun a => a.expr.eval (Plan.rowEnvironment (before ++ ids.map Cell.integer) r)) =
      ids.map Cell.integer := by
  refine List.ext_getElem (by simp) fun j hj hj' => ?_
  have hindex : before.length + 1 + 1 * j - 1 = before.length + j := by omega
  simp only [List.getElem_map, List.getElem_range', Argument.expr, Expr.eval, Plan.rowEnvironment,
    hindex]
  rw [List.getElem?_append_right (Nat.le_add_right _ _), Nat.add_sub_cancel_left,
    List.getElem?_eq_getElem hj', List.getElem_map]
  rfl

theorem passes_selector (mode : ListMode) (target : Target) (before : List Cell) (r : TableRow) :
    Plan.passes (Plan.rowEnvironment (before ++ (target.bound mode).map Cell.integer) r)
      ((target.selector mode before.length).expr (.name .id)) = target.selects r := by
  cases target with
  | all => rfl
  | one id =>
      refine Plan.passes_one ?_
      simp [Expr.eval, Plan.rowEnvironment, bound]
  | among ids =>
      refine Plan.passes_among ?_
      cases mode with
      | inline => rw [List.map_map]; rfl
      | parameterized => exact eval_bound ids before r

end Target

end Querysmith
