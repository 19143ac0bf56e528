import Mathlib.Logic.Function.Iterate
import Querysmith.Cell.Basic
import Querysmith.Record

namespace Querysmith

namespace Value

/-- What a value is after it has been stored: truth values are 1 and 0, timestamps and documents
texts, and what is no number is nothing. -/
def readBack : Value → Value
  | bool b => int (if b then 1 else 0)
  | timestamp t => text t.text
  | json j => text j.compact
  | float x => if x.isNaN then null else float x
  | v => v

def IsSettled : Value → Prop
  | int _ | text _ | blob _ | null => True
  | float x => x.isNaN = false
  | bool _ | timestamp _ | json _ => False

theorem value_stored (v : Value) : v.stored.value = v.readBack := by
  cases v with
  | float x =>
      change (if x.isNaN = true then Cell.null else Cell.real x).value = readBack (float x)
      rw [readBack]
      split <;> rfl
  | int | text | bool | timestamp | null | json | blob => rfl

theorem isSettled_readBack (v : Value) : v.readBack.IsSettled := by
  cases v with
  | float x =>
      rw [readBack]
      split
      · trivial
      · rename_i hx
        exact Bool.eq_false_iff.2 hx
  | int | text | bool | timestamp | null | json | blob => trivial

theorem readBack_of_isSettled {v : Value} (h : v.IsSettled) : v.readBack = v := by
  cases v with
  | float x =>
      have hx : x.isNaN = false := h
      rw [readBack, hx]
      rfl
  | int | text | null | blob => rfl
  | bool | timestamp | json => exact h.elim

theorem cell_bindable (v : Value) : v.bindable.cell = v.cell := by
  cases v with
  | json j => cases j <;> rfl
  | int | float | text | bool | timestamp | null | blob => rfl

theorem isComposite_bindable (v : Value) : v.bindable.isComposite = false := by
  cases v with
  | json j => cases j <;> rfl
  | int | float | text | bool | timestamp | null | blob => rfl

theorem bindable_of_not_isComposite {v : Value} (h : v.isComposite = false) : v.bindable = v := by
  cases v with
  | json j =>
      cases j with
      | array items => cases h
      | object fields => cases h
      | null | bool | number | string => rfl
  | int | float | text | bool | timestamp | null | blob => rfl

theorem bindable_bindable (v : Value) : v.bindable.bindable = v.bindable :=
  bindable_of_not_isComposite (isComposite_bindable v)

def cycle (v : Value) : Value :=
  v.bindable.stored.value

theorem cycle_eq_readBack (v : Value) : v.cycle = v.readBack := by
  rw [cycle, stored, cell_bindable]
  exact value_stored v

theorem cycle_readBack (v : Value) : v.readBack.cycle = v.readBack := by
  rw [cycle_eq_readBack, readBack_of_isSettled (isSettled_readBack v)]

theorem iterate_cycle_readBack (v : Value) (n : Nat) : cycle^[n] v.readBack = v.readBack :=
  Function.iterate_fixed (cycle_readBack v) n

theorem map_value_kept (vs : List Value) :
    ((vs.map cell).map Cell.kept).map Cell.value = vs.map readBack := by
  rw [List.map_map, List.map_map]
  exact List.map_congr_left fun v _ => value_stored v

theorem map_cell_bindable (vs : List Value) : (vs.map bindable).map cell = vs.map cell := by
  rw [List.map_map]
  exact List.map_congr_left fun v _ => cell_bindable v

end Value

namespace Condition

def values : Condition → List Value
  | equals v => [v]
  | oneOf vs => vs

def scalars : Condition → List Value
  | equals v => [v]
  | oneOf _ => []

theorem params_parameterized (c : Condition) : c.params .parameterized = c.values := by
  cases c <;> rfl

theorem params_inline (c : Condition) : c.params .inline = c.scalars := by
  cases c <;> rfl

end Condition

theorem Conditions.params_fragment_eq_flatMap {mode : ListMode} {f : Condition → List Value}
    (h : ∀ c : Condition, c.params mode = f c) (m : Conditions) :
    (fragment mode m).params = m.values.flatMap f := by
  rw [params_fragment, params, OrderedMap.values, List.flatMap_map]
  exact congrArg m.entries.flatMap (funext fun e => h e.2)

namespace Statement

theorem map_cell_params_insert (table : String) (r : Record) :
    (insert table r).params.map Value.cell = r.values.map Value.cell :=
  Value.map_cell_bindable r.values

theorem exists_update {mode : ListMode} {f : Condition → List Value}
    (h : ∀ c : Condition, c.params mode = f c) {table : String} (ht : safeName? table ≠ none)
    {changes : Record} (hc : changes.isEmpty = false) (m : Conditions) :
    ∃ s, update mode table changes (some (.fields m)) = .ok s ∧
      s.params.map Value.cell = changes.values.map Value.cell ++
        (m.values.flatMap f).map Value.cell := by
  obtain ⟨name, hname⟩ := Option.ne_none_iff_exists'.1 ht
  refine ⟨_, update_eq_ok_iff.2 ⟨name, hname, hc, rfl⟩, ?_⟩
  change (changes.bindables ++ (Conditions.fragment mode m).params).map Value.cell = _
  rw [List.map_append, Conditions.params_fragment_eq_flatMap h]
  congr 1
  exact Value.map_cell_bindable changes.values

end Statement

/-- A write stores for a value the cell that a filter on the value compares with, lists included
where they are bound. What is read back from the cell is an integer, a number, a text, bytes or
nothing, and it stays the same however often it is written and read again. -/
theorem stored_form_shared_by_writes_and_filters :
    (∀ v : Value, v.bindable.cell = v.cell ∧ v.bindable.bindable = v.bindable ∧
      v.bindable.isComposite = false) ∧
    (∀ v : Value, v.stored.value = v.readBack ∧ v.cycle = v.readBack ∧ v.readBack.IsSettled ∧
      ∀ n, Value.cycle^[n] v.readBack = v.readBack) ∧
    (∀ (table : String) (r : Record),
      (Statement.insert table r).params.map Value.cell = r.values.map Value.cell) ∧
    (∀ (field : String) (v : Value),
      (∀ mode, (filterFragment mode (some (.equals field v))).params.map Value.cell = [v.cell]) ∧
      (filterFragment .parameterized
        (some (.fields (OrderedMap.empty.insert field (.oneOf [v]))))).params.map Value.cell =
          [v.cell]) ∧
    ∀ (table : String) (changes : Record) (m : Conditions), safeName? table ≠ none →
      changes.isEmpty = false →
      (∃ s, Statement.update .parameterized table changes (some (.fields m)) = .ok s ∧
        s.params.map Value.cell = changes.values.map Value.cell ++
          (m.values.flatMap Condition.values).map Value.cell) ∧
      ∃ s, Statement.update .inline table changes (some (.fields m)) = .ok s ∧
        s.params.map Value.cell = changes.values.map Value.cell ++
          (m.values.flatMap Condition.scalars).map Value.cell := by
  refine ⟨?_, ?_, Statement.map_cell_params_insert, ?_, ?_⟩
  · intro v
    exact ⟨v.cell_bindable, v.bindable_bindable, v.isComposite_bindable⟩
  · intro v
    exact ⟨v.value_stored, v.cycle_eq_readBack, v.isSettled_readBack, v.iterate_cycle_readBack⟩
  · intro field v
    exact ⟨fun _ => rfl, rfl⟩
  · intro table changes m ht hc
    exact ⟨Statement.exists_update Condition.params_parameterized ht hc m,
      Statement.exists_update Condition.params_inline ht hc m⟩

theorem stored_form_shared_of_document :
    let doc : Value := .json (.object [("a", .array [.bool true, .null])])
    let changes : Record := OrderedMap.ofList [("doc", doc), ("on", .bool true)]
    let m : Conditions := OrderedMap.ofList [("doc", .equals doc), ("on", .oneOf [.int 1, doc])]
    safeName? "t" ≠ none ∧ changes.isEmpty = false ∧
      ∃ s, Statement.update .parameterized "t" changes (some (.fields m)) = .ok s ∧
        s.params.map Value.cell =
          [doc.cell, .integer 1, doc.cell, .integer 1, doc.cell] ∧
        doc.cell = .text "\x7b\"a\":[true,null]\x7d" := by
  intro doc changes m
  have ht : safeName? "t" ≠ none := by decide
  have hc : changes.isEmpty = false := by decide
  obtain ⟨-, -, -, -, hupdate⟩ := stored_form_shared_by_writes_and_filters
  obtain ⟨⟨s, hs, hcells⟩, -⟩ := hupdate "t" changes m ht hc
  exact ⟨ht, hc, s, hs, hcells, by decide +kernel⟩

end Querysmith
