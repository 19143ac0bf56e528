import Querysmith.Proofs.GridStatement
import Querysmith.Proofs.StoredForm

namespace Querysmith

namespace ResultSet

theorem cellValues_cons {row : List Cell} {i : Nat} {places : List Nat} {c : Cell}
    {vs : List Value} (hc : row[i]? = some c) (hvs : cellValues row places = .ok vs) :
    cellValues row (i :: places) = .ok (c.value :: vs) := by
  rw [cellValues, cellValue, hc, hvs]
  rfl

/-- The induction is on what is left of the row, and the places go on from where it begins. -/
theorem cellValues_range' (before row : List Cell) :
    cellValues (before ++ row) (List.range' before.length row.length) =
      .ok (row.map Cell.value) := by
  induction row generalizing before with
  | nil => rfl
  | cons c row ih =>
      have hcell : (before ++ c :: row)[before.length]? = some c := by
        rw [List.getElem?_append_right (Nat.le_refl _), Nat.sub_self]
        rfl
      have hrest := ih (before ++ [c])
      rw [List.append_assoc, List.length_append] at hrest
      exact cellValues_cons hcell hrest

theorem cellValues_range (row : List Cell) :
    cellValues row (List.range row.length) = .ok (row.map Cell.value) := by
  rw [List.range_eq_range']
  exact cellValues_range' [] row

theorem addCells_of_width {width : Nat} {rows : List (List Cell)}
    (h : ∀ row ∈ rows, row.length = width) (s : ResultSet) :
    addCells width s rows = .ok ((rows.map (List.map Cell.value)).foldl addRow s) := by
  induction rows generalizing s with
  | nil => rfl
  | cons row rows ih =>
      obtain ⟨hrow, hrows⟩ := List.forall_mem_cons.1 h
      have hvalues := cellValues_range row
      rw [hrow] at hvalues
      rw [addCells, hvalues]
      exact ih hrows (s.addRow (row.map Cell.value))

theorem foldl_addRow {s : ResultSet} {header : Header} (hs : s.header = some header)
    (rows : List (List Value)) :
    rows.foldl addRow s =
      ⟨some header, s.rows ++ rows.map (Row.mk header), s.rowsAffected + rows.length⟩ := by
  induction rows generalizing s with
  | nil =>
      obtain ⟨_, _, _⟩ := s
      obtain rfl : _ = some header := hs
      simp
  | cons values rows ih =>
      have hadd := addRow_of_some hs values
      have hheader : (s.addRow values).header = some header := by rw [hadd, hs]
      rw [List.foldl_cons, ih hheader, hadd]
      simp [Nat.add_assoc, Nat.add_comm 1]

theorem ofCells_of_width {columns : List String} {rows : List (List Cell)}
    (h : ∀ row ∈ rows, row.length = columns.length) :
    ofCells columns rows =
      .ok ⟨some (.ofNames columns),
        (rows.map (List.map Cell.value)).map (Row.ofNames columns), rows.length⟩ := by
  have hfold := foldl_addRow (s := empty.setColumns columns) rfl (rows.map (List.map Cell.value))
  rw [ofCells, addCells_of_width h, hfold]
  simp [empty, setColumns, Row.ofNames]

end ResultSet

namespace Grid

open Sql

section Split

variable {α β : Type}

def split (width : Nat) : Nat → List α → List (List α)
  | 0, _ => []
  | rows + 1, xs => xs.take width :: split width rows (xs.drop width)

theorem length_split (width rows : Nat) (xs : List α) : (split width rows xs).length = rows := by
  induction rows generalizing xs with
  | zero => rfl
  | succ rows ih => rw [split, List.length_cons, ih]

theorem map_split (f : α → β) (width rows : Nat) (xs : List α) :
    (split width rows xs).map (List.map f) = split width rows (xs.map f) := by
  induction rows generalizing xs with
  | zero => rfl
  | succ rows ih => rw [split, split, List.map_cons, ih, List.map_take, List.map_drop]

theorem getElem?_split {width rows i : Nat} (h : i < rows) (xs : List α) :
    (split width rows xs)[i]? = some ((xs.drop (i * width)).take width) := by
  induction rows generalizing xs i with
  | zero => exact absurd h (Nat.not_lt_zero i)
  | succ rows ih =>
      cases i with
      | zero => rw [split, Nat.zero_mul, List.drop_zero, List.getElem?_cons_zero]
      | succ i =>
          rw [split, List.getElem?_cons_succ, ih (Nat.lt_of_succ_lt_succ h), List.drop_drop,
            Nat.succ_mul, Nat.add_comm width]

theorem length_of_mem_split {width rows : Nat} {xs : List α} (h : rows * width ≤ xs.length)
    {row : List α} (hrow : row ∈ split width rows xs) : row.length = width := by
  induction rows generalizing xs with
  | zero => cases hrow
  | succ rows ih =>
      rw [Nat.succ_mul] at h
      rcases List.mem_cons.1 hrow with rfl | hrow
      · rw [List.length_take]
        omega
      · refine ih ?_ hrow
        rw [List.length_drop]
        omega

theorem getElem?_getElem?_split {width rows i j : Nat} (hi : i < rows) (hj : j < width)
    (xs : List α) :
    (split width rows xs)[i]?.bind (·[j]?) = xs[i * width + j]? := by
  rw [getElem?_split hi, Option.bind_some, List.getElem?_take, if_pos hj, List.getElem?_drop]

end Split

section Evaluation

variable {ν : Type} (env : Environment ν) (columns : List String)

theorem eval_rowSlots {k : Nat} (h : k + columns.length ≤ env.params.length) :
    (rowSlots columns k).map (Expr.eval env) = (env.params.drop k).take columns.length := by
  induction columns generalizing k with
  | nil => rfl
  | cons name columns ih =>
      rw [List.length_cons] at h
      have hk : k < env.params.length := by omega
      have hrest := ih (k := k + 1) (by omega)
      have hslot : (Expr.slot (k + 1)).eval env = env.params[k] := by
        rw [Expr.eval, Nat.add_sub_cancel, List.getElem?_eq_getElem hk]
        rfl
      rw [rowSlots] at hrest ⊢
      rw [spread, List.map_cons, hslot, hrest, List.drop_eq_getElem_cons hk, List.length_cons,
        List.take_succ_cons]

theorem eval_spread_rowSlots {α : Type} {k : Nat} (xs : List α)
    (h : k + xs.length * columns.length ≤ env.params.length) :
    (spread columns.length (fun k _ => rowSlots columns k) k xs).map (List.map (Expr.eval env)) =
      split columns.length xs.length (env.params.drop k) := by
  induction xs generalizing k with
  | nil => rfl
  | cons x xs ih =>
      rw [List.length_cons, Nat.succ_mul] at h
      rw [spread, List.map_cons, eval_rowSlots env columns (by omega), ih (by omega),
        List.length_cons, split, List.drop_drop]

end Evaluation

variable {g : Grid} {params : List Value}

theorem rows_mul_le_cells (g : Grid) : g.rows * g.columns.length ≤ g.cells :=
  Nat.mul_le_mul_right _ (Nat.le_max_left g.rows 1)

theorem labels_answers (g : Grid) : g.answers.map Answered.label = g.columns := by
  have hnames (k : Nat) (columns : List String) :
      spread 1 (fun _ name => name) k columns = columns := by
    induction columns generalizing k with
    | nil => rfl
    | cons name columns ih => rw [spread, ih]
  rw [answers, map_spread]
  exact hnames 0 g.columns

theorem eval_answers (g : Grid) (env : Environment Column)
    (h : g.columns.length ≤ env.params.length) :
    (g.answers.map fun o => o.value.eval env) = env.params.take g.columns.length := by
  have hslots := eval_rowSlots env g.columns (k := 0) (by omega)
  rw [rowSlots, map_spread] at hslots
  rw [answers, map_spread]
  exact hslots

theorem answer_of_length {cells : List Cell} (h : cells.length = g.cells) (t : Table) :
    Plan.answer cells t ⟨none, false, g.answers, none, g.moreRows, [], g.limit, none⟩ =
      ResultSet.ofCells g.columns (split g.columns.length g.rows cells) := by
  obtain ⟨columns, rows⟩ := g
  cases rows with
  | zero =>
      have hlabels := labels_answers ⟨columns, 0⟩
      change ResultSet.ofCells ((answers ⟨columns, 0⟩).map Answered.label) [] = _
      rw [hlabels]
      rfl
  | succ more =>
      have hlength : (more + 1) * columns.length = cells.length := by
        rw [h]
        change (more + 1) * columns.length = max (more + 1) 1 * columns.length
        rw [Nat.max_eq_left (by omega)]
      rw [Nat.succ_mul] at hlength
      have hfirst := eval_answers ⟨columns, more + 1⟩ (Plan.emptyEnvironment cells)
        (by change columns.length ≤ cells.length; omega)
      have hmore := eval_spread_rowSlots (Plan.constantEnvironment cells) columns
        (k := columns.length) (List.range more) (by
          rw [List.length_range]
          change _ ≤ cells.length
          omega)
      rw [List.length_range] at hmore
      have hsorted (env : Environment Column) : Plan.sorted [] [env] = [env] := by
        rw [Plan.sorted, List.mergeSort_singleton]
      change ResultSet.ofCells ((answers ⟨columns, more + 1⟩).map Answered.label)
        ((Plan.sorted [] [Plan.emptyEnvironment cells]).map (fun env =>
          (answers ⟨columns, more + 1⟩).map fun o => o.value.eval env) ++
            (moreRows ⟨columns, more + 1⟩).map
              (List.map (Expr.eval (Plan.constantEnvironment cells)))) = _
      rw [hsorted, List.map_singleton, hfirst, labels_answers]
      change ResultSet.ofCells columns ([cells.take columns.length] ++
        (spread columns.length (fun k _ => rowSlots columns k) columns.length
          (List.range more)).map (List.map (Expr.eval (Plan.constantEnvironment cells)))) = _
      rw [hmore]
      rfl

variable {d : Database}

theorem ofCells_of_length {params : List Value} (h : params.length = g.cells) :
    ResultSet.ofCells g.columns (split g.columns.length g.rows (params.map Value.stored)) =
      .ok ⟨some (.ofNames g.columns),
        (split g.columns.length g.rows (params.map Value.readBack)).map (Row.ofNames g.columns),
        g.rows⟩ := by
  have hlength : g.rows * g.columns.length ≤ (params.map Value.stored).length := by
    rw [List.length_map, h]
    exact g.rows_mul_le_cells
  have hcells := ResultSet.ofCells_of_width fun row hrow => length_of_mem_split hlength hrow
  rwa [map_split, ← Database.map_kept_cell, Value.map_value_kept, length_split,
    Database.map_kept_cell] at hcells

theorem run_plan {cells : List Cell} {t : Table} {s : ResultSet} {drawn : Int64}
    (h : Plan.answer cells t ⟨none, false, g.answers, none, g.moreRows, [], g.limit, none⟩ =
      .ok s) : g.plan.run cells t drawn = .ok ⟨t, 0, none, s⟩ := by
  rw [plan, Plan.run, h]
  rfl

theorem query_of_beyond (hample : d.engine.Ample) (hne : g.columns ≠ [])
    (hclean : ∀ name ∈ g.columns, '\x00' ∉ name.toList) (hbeyond : maxSlot < g.cells) :
    ∃ position, (d.query (g.statement params)).1 =
      .error (.database (.refused (.tooManySlots position) g.text)) := by
  obtain ⟨position, hnext⟩ := next_text_of_beyond hne hclean hbeyond
  refine ⟨position, ?_⟩
  rw [Database.query, statement, Database.perform_of_refused hample rfl hnext,
    String.ofList_toList]
  rfl

theorem query_of_wide (hample : d.engine.Ample) (hne : g.columns ≠ [])
    (hclean : ∀ name ∈ g.columns, '\x00' ∉ name.toList) (hfits : g.cells ≤ maxSlot)
    (hwide : ¬ g.columns.length ≤ Plan.maxColumns) :
    (d.query (g.statement params)).1 =
      .error (.database (.refused .tooManyColumns g.text)) := by
  have hnext := next_text_of_fits hne hclean hfits
  rw [if_neg hwide] at hnext
  rw [Database.query, statement, Database.perform_of_refused hample rfl hnext,
    String.ofList_toList]
  rfl

theorem query_of_fits (hample : d.engine.Ample) (hne : g.columns ≠ [])
    (hclean : ∀ name ∈ g.columns, '\x00' ∉ name.toList) (hfits : g.cells ≤ maxSlot)
    (hcolumns : g.columns.length ≤ Plan.maxColumns) :
    (d.query (g.statement params)).1 =
      if params.length = g.cells then
        .ok ⟨some (.ofNames g.columns),
          (split g.columns.length g.rows (params.map Value.readBack)).map (Row.ofNames g.columns),
          g.rows⟩
      else .error (.database (.wrongParameterCount (min params.length (g.cells + 1)) g.cells)) := by
  have hnext := next_text_of_fits hne hclean hfits
  rw [if_pos hcolumns] at hnext
  have hperform : d.perform g.text.toList params = _ := Database.perform_of_next hample hnext
  rw [Database.query, statement, hperform]
  by_cases hcount : params.length = g.cells
  · have hlength : (params.map Value.stored).length = g.cells := by
      rw [List.length_map, hcount]
    have hanswer := answer_of_length hlength d.table
    rw [ofCells_of_length hcount] at hanswer
    rw [if_pos hcount, if_pos hcount, Database.run, Database.map_kept_cell, run_plan hanswer]
    rfl
  · rw [if_neg hcount, if_neg hcount]
    rfl

theorem query_of_spoiled (hample : d.engine.Ample)
    (h : ∃ name ∈ g.columns, '\x00' ∈ name.toList) :
    ∃ fault, (d.query (g.statement params)).1 = .error (.database (.refused fault g.text)) := by
  obtain ⟨token, position, hnext⟩ := next_text_of_spoiled h
  refine ⟨.unrecognized token position, ?_⟩
  rw [Database.query, statement, Database.perform_of_refused hample rfl hnext,
    String.ofList_toList]
  rfl

theorem getElem?_of_place {columns : List String} {n i j : Nat} {params : List Value}
    (h : params.length = max n 1 * columns.length) (hi : i < n) (hj : j < columns.length) :
    ∃ v, params[i * columns.length + j]? = some v ∧
      (((split columns.length n (params.map Value.readBack)).map (Row.ofNames columns))[i]?.bind
        (·.values[j]?)) = some v.readBack := by
  have hplace : i * columns.length + j < params.length := by
    have hrows : (i + 1) * columns.length ≤ n * columns.length := Nat.mul_le_mul_right _ hi
    have hfit : n * columns.length ≤ params.length := h ▸ rows_mul_le_cells ⟨columns, n⟩
    rw [Nat.succ_mul] at hrows
    omega
  refine ⟨params[i * columns.length + j], List.getElem?_eq_getElem hplace, ?_⟩
  have hcell := getElem?_getElem?_split hi hj (params.map Value.readBack)
  rw [List.getElem?_map, List.getElem?_eq_getElem hplace, Option.map_some] at hcell
  rw [List.getElem?_map, Option.bind_map]
  exact hcell

/-- A query of some rows, each a parameter for every column. There may be 2000 columns and 32766
cells, and no name has the character zero in it; otherwise the statement is refused. Then there has
to be a parameter for every cell, those of one row where there is none. The answer has the columns
that were asked for and all of the rows, each as wide as the columns, and the cell in column `j` of
row `i` is parameter `i * columns.length + j` in its stored form. -/
theorem cells_in_place (d : Database) (hample : d.engine.Ample) (columns : List String)
    (hne : columns ≠ []) (n : Nat) (params : List Value) :
    let needed := max n 1 * columns.length
    let answer := (d.query (statement ⟨columns, n⟩ params)).1
    ((∃ name ∈ columns, '\x00' ∈ name.toList) →
      ∃ fault, answer = .error (.database (.refused fault (text ⟨columns, n⟩)))) ∧
    ((∀ name ∈ columns, '\x00' ∉ name.toList) →
      (32766 < needed → ∃ position,
        answer = .error (.database (.refused (.tooManySlots position) (text ⟨columns, n⟩)))) ∧
      (needed ≤ 32766 → 2000 < columns.length →
        answer = .error (.database (.refused .tooManyColumns (text ⟨columns, n⟩)))) ∧
      (needed ≤ 32766 → columns.length ≤ 2000 → params.length ≠ needed →
        answer =
          .error (.database (.wrongParameterCount (min params.length (needed + 1)) needed))) ∧
      (needed ≤ 32766 → columns.length ≤ 2000 → params.length = needed →
        ∃ s, answer = .ok s ∧ s.columns = some columns ∧ s.size = n ∧ s.rowsAffected = n ∧
          (∀ r ∈ s.rows, r.columns = columns ∧ r.values.length = columns.length) ∧
          ∀ i < n, ∀ j < columns.length, ∃ v, params[i * columns.length + j]? = some v ∧
            s.rows[i]?.bind (·.values[j]?) = some v.readBack)) := by
  intro needed answer
  refine ⟨query_of_spoiled (g := ⟨columns, n⟩) hample, fun hclean => ⟨?_, ?_, ?_, ?_⟩⟩
  · exact query_of_beyond (g := ⟨columns, n⟩) hample hne hclean
  · intro hfits hwide
    exact query_of_wide (g := ⟨columns, n⟩) hample hne hclean hfits (Nat.not_le.2 hwide)
  · intro hfits hcolumns hcount
    have hanswer : answer = _ := query_of_fits (g := ⟨columns, n⟩) hample hne hclean hfits hcolumns
    rw [hanswer]
    exact if_neg hcount
  · intro hfits hcolumns hcount
    have hanswer : answer = _ := query_of_fits (g := ⟨columns, n⟩) hample hne hclean hfits hcolumns
    refine ⟨_, hanswer.trans (if_pos hcount), rfl, ?_, rfl, fun r hr => ?_, fun i hi j hj => ?_⟩
    · rw [ResultSet.size, List.length_map, length_split]
    · obtain ⟨values, hvalues, rfl⟩ := List.mem_map.1 hr
      refine ⟨rfl, length_of_mem_split ?_ hvalues⟩
      rw [List.length_map, hcount]
      exact rows_mul_le_cells ⟨columns, n⟩
    · exact getElem?_of_place hcount hi hj

/-- Two rows under a repeated name, then the same with a parameter missing. -/
theorem cells_in_place_of_repeated_columns :
    let columns := ["v", "n", "v"]
    let params : List Value := [.bool true, .float (.ofBits 0x7FF8000000000000),
      .json (.array [.null]), .text "b", .blob [0, 255], .int 4]
    let answer (params : List Value) := (Database.fresh.query (statement ⟨columns, 2⟩ params)).1
    Database.fresh.engine.Ample ∧ columns ≠ [] ∧
      answer (params.drop 1) = .error (.database (.wrongParameterCount 5 6)) ∧
      ∃ s, answer params = .ok s ∧ s.columns = some columns ∧ s.rowsAffected = 2 ∧
        s.rows[0]?.bind (·.values[0]?) = some (.int 1) ∧
        s.rows[0]?.bind (·.values[1]?) = some .null ∧
        s.rows[0]?.bind (·.values[2]?) = some (.text "[null]") ∧
        s.rows[1]?.bind (·.values[2]?) = some (.int 4) := by
  intro columns params answer
  have hne : columns ≠ [] := List.cons_ne_nil _ _
  have hclean : ∀ name ∈ columns, '\x00' ∉ name.toList := by decide
  have hplain (params : List Value) :=
    (cells_in_place Database.fresh Engine.ample_plain columns hne 2 params).2 hclean
  obtain ⟨s, hs, hcolumns, -, haffected, -, hcell⟩ :=
    (hplain params).2.2.2 (by decide) (by decide) rfl
  have hshort := (hplain (params.drop 1)).2.2.1 (by decide) (by decide) (by decide)
  have hread : ∀ i < 2, ∀ j < 3, s.rows[i]?.bind (·.values[j]?) =
      (params[i * 3 + j]?).map Value.readBack := by
    intro i hi j hj
    obtain ⟨v, hv, hcell⟩ := hcell i hi j hj
    have hv : params[i * 3 + j]? = some v := hv
    rw [hcell, hv, Option.map_some]
  refine ⟨Engine.ample_plain, hne, hshort, s, hs, hcolumns, haffected, ?_, ?_, ?_, ?_⟩
  · exact hread 0 (by decide) 0 (by decide)
  · exact (hread 0 (by decide) 1 (by decide)).trans (by decide)
  · exact (hread 0 (by decide) 2 (by decide)).trans (by decide)
  · exact hread 1 (by decide) 2 (by decide)

theorem query_of_replicate {k : Nat} (hlow : 2000 < k) (hhigh : k ≤ 32766) :
    (List.replicate k Value.null).length = max 1 1 * (List.replicate k "a").length ∧
      query ⟨List.replicate k "a", 1⟩ (List.replicate k .null) =
        .error (.database (.refused .tooManyColumns (text ⟨List.replicate k "a", 1⟩))) := by
  have hlength : (List.replicate k "a").length = k := List.length_replicate
  refine ⟨by simp, query_of_wide Engine.ample_plain ?_ ?_ ?_ ?_⟩
  · intro h
    have hk : k = 0 := hlength.symm.trans (congrArg List.length h)
    omega
  · intro name hname
    rw [(List.mem_replicate.1 hname).2]
    decide
  · rw [cells, hlength, Nat.max_self, Nat.one_mul]
    exact hhigh
  · rw [hlength]
    exact Nat.not_le.2 hlow

theorem columns_refused_of_2001 :
    (List.replicate 2001 Value.null).length = max 1 1 * (List.replicate 2001 "a").length ∧
      query ⟨List.replicate 2001 "a", 1⟩ (List.replicate 2001 .null) =
        .error (.database (.refused .tooManyColumns (text ⟨List.replicate 2001 "a", 1⟩))) :=
  query_of_replicate (by decide) (by decide)

end Grid

end Querysmith
