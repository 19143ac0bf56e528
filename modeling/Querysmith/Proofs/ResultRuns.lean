import Mathlib.Data.List.Induction
import Mathlib.Data.List.TakeWhile
import Querysmith.Proofs.RowLookup

namespace Querysmith.ResultSet

namespace Step

def isAdd : Step → Bool
  | columns _ => false
  | add _ => true

def names? : Step → Option (List String)
  | columns names => some names
  | add _ => none

def values? : Step → Option (List Value)
  | columns _ => none
  | add values => some values

end Step

/-- The names that were set last. -/
def namesIn (steps : List Step) : Option (List String) :=
  (steps.filterMap Step.names?).getLast?

/-- What was added after names were set for the first time. -/
def additions (steps : List Step) : List (List Value) :=
  (steps.dropWhile Step.isAdd).filterMap Step.values?

/-- The addition that `i` others come before, with the names that were set last before it. -/
def Added (steps : List Step) (i : Nat) (names : List String) (values : List Value) : Prop :=
  ∃ before rest, steps = before ++ .add values :: rest ∧ namesIn before = some names ∧
    (additions before).length = i

variable {steps : List Step} {s : ResultSet} {i : Nat} {names : List String} {values : List Value}

theorem namesIn_concat_columns (steps : List Step) (names : List String) :
    namesIn (steps ++ [.columns names]) = some names := by
  simp [namesIn, Step.names?]

theorem namesIn_concat_add (steps : List Step) (values : List Value) :
    namesIn (steps ++ [.add values]) = namesIn steps := by
  simp [namesIn, Step.names?]

theorem namesIn_eq_none_iff : namesIn steps = none ↔ ∀ c ∈ steps, c.isAdd = true := by
  rw [namesIn, List.getLast?_eq_none_iff, List.filterMap_eq_nil_iff]
  refine forall₂_congr fun c _ => ?_
  cases c <;> simp [Step.names?, Step.isAdd]

theorem dropWhile_of_namesIn_eq_none (h : namesIn steps = none) :
    steps.dropWhile Step.isAdd = [] :=
  List.dropWhile_eq_nil_iff.2 (namesIn_eq_none_iff.1 h)

theorem additions_of_namesIn_eq_none (h : namesIn steps = none) : additions steps = [] := by
  rw [additions, dropWhile_of_namesIn_eq_none h, List.filterMap_nil]

theorem additions_concat_columns (steps : List Step) (names : List String) :
    additions (steps ++ [.columns names]) = additions steps := by
  rw [additions, additions, List.dropWhile_append]
  split
  · rename_i h
    rw [List.isEmpty_iff.1 h]
    rfl
  · rw [List.filterMap_append]
    exact List.append_nil _

theorem additions_concat_add (h : namesIn steps = some names) (values : List Value) :
    additions (steps ++ [.add values]) = additions steps ++ [values] := by
  have hne : ¬(steps.dropWhile Step.isAdd).isEmpty = true := by
    rw [List.isEmpty_iff, List.dropWhile_eq_nil_iff, ← namesIn_eq_none_iff, h]
    exact Option.some_ne_none names
  rw [additions, List.dropWhile_append, if_neg hne, List.filterMap_append]
  rfl

theorem added_concat {c : Step} :
    Added (steps ++ [c]) i names values ↔ Added steps i names values ∨
      c = .add values ∧ namesIn steps = some names ∧ (additions steps).length = i := by
  constructor
  · rintro ⟨before, rest, h, hnames, hi⟩
    rcases List.eq_nil_or_concat rest with rfl | ⟨rest, d, rfl⟩
    · obtain ⟨rfl, hc⟩ := List.append_inj' h rfl
      exact .inr ⟨List.singleton_inj.1 hc, hnames, hi⟩
    · have hsplit : steps ++ [c] = (before ++ .add values :: rest) ++ [d] := by
        simpa [List.concat_eq_append] using h
      exact .inl ⟨before, rest, (List.append_inj' hsplit rfl).1, hnames, hi⟩
  · rintro (⟨before, rest, rfl, hnames, hi⟩ | ⟨rfl, hnames, hi⟩)
    · exact ⟨before, rest ++ [c], by simp, hnames, hi⟩
    · exact ⟨steps, [], rfl, hnames, hi⟩

/-- A result set as the calls have made it: the header is the one of the names set last, and the
rows are those of the additions, each under the names that held then. -/
structure Reflects (steps : List Step) (s : ResultSet) : Prop where
  header : s.header = (namesIn steps).map Header.ofNames
  size : s.size = (additions steps).length
  rowsAffected : s.rowsAffected = s.size
  row : ∀ i r, s.rows[i]? = some r ↔
    ∃ names values, Added steps i names values ∧ r = Row.ofNames names values

theorem reflects_empty : Reflects [] empty where
  header := rfl
  size := rfl
  rowsAffected := rfl
  row := by
    intro i r
    constructor
    · rintro ⟨⟩
    · rintro ⟨names, values, ⟨before, rest, h, -⟩, -⟩
      exact absurd h.symm (List.append_ne_nil_of_right_ne_nil before (List.cons_ne_nil _ _))

theorem Reflects.columns (h : Reflects steps s) (names : List String) :
    Reflects (steps ++ [.columns names]) (s.setColumns names) where
  header := by rw [namesIn_concat_columns]; rfl
  size := by rw [additions_concat_columns]; exact h.size
  rowsAffected := h.rowsAffected
  row := by
    intro i r
    simp only [added_concat, reduceCtorEq, false_and, or_false]
    exact h.row i r

theorem Reflects.dropped (h : Reflects steps s) (hnames : namesIn steps = none)
    (values : List Value) : Reflects (steps ++ [.add values]) s where
  header := by rw [namesIn_concat_add]; exact h.header
  size := by
    have hnone : namesIn (steps ++ [.add values]) = none :=
      (namesIn_concat_add steps values).trans hnames
    rw [h.size, additions_of_namesIn_eq_none hnames, additions_of_namesIn_eq_none hnone]
  rowsAffected := h.rowsAffected
  row := by
    intro i r
    simp only [added_concat, hnames, reduceCtorEq, false_and, and_false, or_false]
    exact h.row i r

theorem Reflects.kept (h : Reflects steps s) (hnames : namesIn steps = some names)
    (values : List Value) :
    Reflects (steps ++ [.add values])
      { s with rows := s.rows ++ [Row.ofNames names values],
               rowsAffected := s.rowsAffected + 1 } where
  header := by rw [namesIn_concat_add]; exact h.header
  size := by
    rw [additions_concat_add hnames, List.length_append, ← h.size]
    exact List.length_append
  rowsAffected := by
    change s.rowsAffected + 1 = (s.rows ++ [_]).length
    rw [h.rowsAffected, List.length_append]
    rfl
  row := by
    intro i r
    rw [getElem?_concat_eq_some_iff, h.row]
    constructor
    · rintro (⟨n, v, hadded, hr⟩ | ⟨hi, hr⟩)
      · exact ⟨n, v, added_concat.2 (.inl hadded), hr⟩
      · exact ⟨names, values, added_concat.2 (.inr ⟨rfl, hnames, h.size.symm.trans hi.symm⟩),
          hr.symm⟩
    · rintro ⟨n, v, hadded, hr⟩
      rcases added_concat.1 hadded with hadded | ⟨hc, hn, hi⟩
      · exact .inl ⟨n, v, hadded, hr⟩
      · obtain rfl := Step.add.inj hc
        obtain rfl := Option.some.inj (hnames.symm.trans hn)
        exact .inr ⟨hi.symm.trans h.size.symm, hr.symm⟩

theorem Reflects.step (h : Reflects steps s) (c : Step) : Reflects (steps ++ [c]) (s.step c) := by
  cases c with
  | columns names => exact h.columns names
  | add values =>
      rw [ResultSet.step]
      cases hnames : namesIn steps with
      | none =>
          have hheader : s.header = none := by rw [h.header, hnames]; rfl
          rw [addRow_of_none hheader]
          exact h.dropped hnames values
      | some names =>
          have hheader : s.header = some (Header.ofNames names) := by rw [h.header, hnames]; rfl
          rw [addRow_of_some hheader]
          exact h.kept hnames values

theorem run_append (s : ResultSet) (before rest : List Step) :
    s.run (before ++ rest) = (s.run before).run rest :=
  List.foldl_append

theorem reflects_run (steps : List Step) : Reflects steps (empty.run steps) := by
  induction steps using List.reverseRecOn with
  | nil => exact reflects_empty
  | append_singleton steps c ih =>
      rw [run_append]
      exact ih.step c

theorem rows_prefix_step (s : ResultSet) (c : Step) : s.rows <+: (s.step c).rows := by
  cases c with
  | columns names => exact List.prefix_rfl
  | add values =>
      rw [step]
      cases h : s.header with
      | none =>
          refine ⟨[], ?_⟩
          rw [addRow_of_none h, List.append_nil]
      | some header =>
          rw [addRow_of_some h]
          exact List.prefix_append s.rows _

theorem rows_prefix_run (s : ResultSet) (steps : List Step) : s.rows <+: (s.run steps).rows := by
  induction steps generalizing s with
  | nil => exact List.prefix_rfl
  | cons c steps ih => exact (rows_prefix_step s c).trans (ih (s.step c))

theorem run_of_namesIn_eq_none (hs : s.header = none) (h : namesIn steps = none) :
    s.run steps = s := by
  induction steps with
  | nil => rfl
  | cons c steps ih =>
      have hadd := namesIn_eq_none_iff.1 h
      cases c with
      | columns names => cases hadd _ List.mem_cons_self
      | add values =>
          have hrest : namesIn steps = none :=
            namesIn_eq_none_iff.2 fun d hd => hadd d (List.mem_cons_of_mem _ hd)
          change (s.addRow values).run steps = s
          rw [addRow_of_none hs, ih hrest]

/-- From an empty result set, whatever is called: as many rows are kept and counted as were added
since names were first set, and until then nothing happens. The row of an addition is the one made
of its values and of the names that were set last before it, so it answers every lookup as that row
does. Later calls leave it where it is. The columns are the names that were set last, and the
document is the list of the rows' documents. -/
theorem rows_of_calls {start : ResultSet}
    (h : start = empty ∨ ∃ capacity, start = withCapacity capacity) (steps : List Step) :
    let s := start.run steps
    s.rowsAffected = s.size ∧ s.size = (additions steps).length ∧
    (namesIn steps = none → s = start) ∧
    (∀ i r, s.rows[i]? = some r ↔
      ∃ names values, Added steps i names values ∧ r = Row.ofNames names values) ∧
    (∀ more, s.rows <+: (start.run (steps ++ more)).rows) ∧
    s.columns = namesIn steps ∧
    ∃ documents, s.toJson = .array documents ∧ ∀ i j, documents[i]? = some j ↔
      ∃ names values, Added steps i names values ∧ j = (Row.ofNames names values).toJson := by
  obtain rfl : start = empty := by
    rcases h with rfl | ⟨capacity, rfl⟩ <;> rfl
  intro s
  have hs : Reflects steps s := reflects_run steps
  refine ⟨hs.rowsAffected, hs.size, run_of_namesIn_eq_none rfl, hs.row, ?_, ?_, _, rfl, ?_⟩
  · intro more
    rw [run_append]
    exact rows_prefix_run s more
  · rw [columns, hs.header]
    cases namesIn steps <;> rfl
  · intro i j
    rw [List.getElem?_map, Option.map_eq_some_iff]
    constructor
    · rintro ⟨r, hr, rfl⟩
      obtain ⟨names, values, hadded, rfl⟩ := (hs.row i r).1 hr
      exact ⟨names, values, hadded, rfl⟩
    · rintro ⟨names, values, hadded, rfl⟩
      exact ⟨_, (hs.row i _).2 ⟨names, values, hadded, rfl⟩, rfl⟩

/-- The row before the names is dropped, and the first kept one keeps its names under the new
ones. -/
theorem rows_of_calls_of_two_headers :
    let steps : List Step :=
      [.add [.null], .columns ["id", "v"], .add [.int 1, .text "Ann"], .columns ["v"],
        .add [.int 2]]
    let s := (withCapacity 2).run steps
    (withCapacity 2 = empty ∨ ∃ capacity, withCapacity 2 = withCapacity capacity) ∧
      s.rowsAffected = 2 ∧ s.columns = some ["v"] ∧
      s.rows[0]? = some (Row.ofNames ["id", "v"] [.int 1, .text "Ann"]) ∧
      s.rows[1]? = some (Row.ofNames ["v"] [.int 2]) ∧
      (withCapacity 2).run (steps.take 1) = withCapacity 2 := by
  intro steps s
  have h : withCapacity 2 = empty ∨ ∃ capacity, withCapacity 2 = withCapacity capacity :=
    .inr ⟨2, rfl⟩
  obtain ⟨hcount, hsize, -, hrow, -, hcolumns, -⟩ := rows_of_calls h steps
  obtain ⟨-, -, hfirst, -⟩ := rows_of_calls h (steps.take 1)
  refine ⟨h, hcount.trans hsize, hcolumns, (hrow 0 _).2 ⟨_, _, ?_, rfl⟩,
    (hrow 1 _).2 ⟨_, _, ?_, rfl⟩, hfirst rfl⟩
  · exact ⟨steps.take 2, steps.drop 3, rfl, rfl, rfl⟩
  · exact ⟨steps.take 4, [], rfl, rfl, rfl⟩

end Querysmith.ResultSet
