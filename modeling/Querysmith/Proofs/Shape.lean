import Mathlib.Data.List.Forall2
import Querysmith.Compilation

namespace Querysmith

/-- The same kind of test. Lists are as long as each other where their elements are bound, and the
same where the elements are written into the text. -/
def Condition.Alike (mode : ListMode) : Condition → Condition → Prop
  | equals _, equals _ => True
  | oneOf vs, oneOf ws =>
      match mode with
      | .inline => vs = ws
      | .parameterized => vs.length = ws.length
  | _, _ => False

/-- The same fields in the same order, with tests of the same shape. -/
def Conditions.Alike (mode : ListMode) (es fs : List (String × Condition)) : Prop :=
  List.Forall₂ (fun e f => e.1 = f.1 ∧ e.2.Alike mode f.2) es fs

def filtersAlike (mode : ListMode) : Option Filter → Option Filter → Prop
  | none, none => True
  | some (.fields m), some (.fields n) => Conditions.Alike mode m.entries n.entries
  | _, _ => False

/-- Requests that differ in values only. -/
def Request.Alike (mode : ListMode) : Request → Request → Prop
  | select (.selection s), select (.selection t) =>
      s.table = t.table ∧ s.fields = t.fields ∧ s.order = t.order ∧ s.limit = t.limit ∧
        s.offset = t.offset ∧ filtersAlike mode s.filter t.filter
  | insert table record, insert table' record' => table = table' ∧ record.keys = record'.keys
  | update table changes filter, update table' changes' filter' =>
      table = table' ∧ changes.keys = changes'.keys ∧ filtersAlike mode filter filter'
  | delete table filter, delete table' filter' => table = table' ∧ filtersAlike mode filter filter'
  | _, _ => False

def Fragment.outline (f : Fragment) : String × Nat :=
  (f.text, f.params.length)

def Statement.outline (s : Statement) : String × Nat :=
  (s.sql, s.params.length)

variable {mode : ListMode}

namespace Condition

theorem Alike.text_eq {field : String} {c d : Condition} (h : c.Alike mode d) :
    c.text mode field = d.text mode field := by
  cases c with
  | equals v =>
      cases d with
      | equals w => rfl
      | oneOf ws => exact h.elim
  | oneOf vs =>
      cases d with
      | equals w => exact h.elim
      | oneOf ws =>
          cases mode with
          | inline =>
              have hv : vs = ws := h
              rw [hv]
          | parameterized =>
              have hl : vs.length = ws.length := h
              simp only [text, hl]

theorem Alike.length_params {c d : Condition} (h : c.Alike mode d) :
    (c.params mode).length = (d.params mode).length := by
  cases c with
  | equals v =>
      cases d with
      | equals w => rfl
      | oneOf ws => exact h.elim
  | oneOf vs =>
      cases d with
      | equals w => exact h.elim
      | oneOf ws =>
          cases mode with
          | inline => rfl
          | parameterized => exact h

end Condition

namespace Conditions

variable {es fs : List (String × Condition)}

theorem Alike.texts_eq (h : Alike mode es fs) : texts mode es = texts mode fs := by
  induction h with
  | nil => rfl
  | cons he _ ih =>
      simp only [texts, List.map_cons] at ih ⊢
      rw [he.1, he.2.text_eq, ih]

theorem Alike.length_params (h : Alike mode es fs) :
    (params mode es).length = (params mode fs).length := by
  induction h with
  | nil => rfl
  | cons he _ ih =>
      simp only [params, List.flatMap_cons, List.length_append] at ih ⊢
      rw [he.2.length_params, ih]

theorem Alike.fragment_outline_eq {m n : Conditions} (h : Alike mode m.entries n.entries) :
    (fragment mode m).outline = (fragment mode n).outline := by
  have hn : m.entries = [] ↔ n.entries = [] := by
    rw [← List.length_eq_zero_iff, h.length_eq, List.length_eq_zero_iff]
  simp only [Fragment.outline, text_fragment, params_fragment, h.texts_eq, h.length_params, hn]

end Conditions

theorem filtersAlike_outline_eq {f g : Option Filter} (h : filtersAlike mode f g) :
    (filterFragment mode f).outline = (filterFragment mode g).outline := by
  rw [filtersAlike.eq_def] at h
  split at h
  · rfl
  · exact h.fragment_outline_eq
  · exact h.elim

namespace Record

theorem size_eq_of_keys {r r' : Record} (h : r.keys = r'.keys) : r.size = r'.size := by
  have hl := congrArg List.length h
  rwa [OrderedMap.keys, OrderedMap.keys, List.length_map, List.length_map] at hl

theorem length_bindables (r : Record) : r.bindables.length = r.size := by
  rw [bindables, OrderedMap.values, List.length_map, List.length_map, OrderedMap.size]

end Record

namespace Request

theorem Alike.select {s t : Selection}
    (h : Alike mode (.select (.selection s)) (.select (.selection t))) :
    (s.compile mode).map Statement.outline = (t.compile mode).map Statement.outline := by
  obtain ⟨ht, hf, ho, hl, hn, hw⟩ := h
  obtain ⟨hx, hp⟩ := Prod.ext_iff.1 (filtersAlike_outline_eq hw)
  simp only [Fragment.outline] at hx hp
  simp only [Selection.compile, ht]
  cases safeName? t.table with
  | none => rfl
  | some table =>
      simp only [Except.map, Statement.outline]
      unfold Selection.sqlText
      simp only [Selection.fieldsText, Selection.orderText, hf, ho, hl, hn, hx, hp]

theorem Alike.insert {table : String} {record record' : Record} (h : record.keys = record'.keys) :
    (Statement.insert table record).outline = (Statement.insert table record').outline := by
  have hs := Record.size_eq_of_keys h
  rw [Statement.outline, Statement.outline, Statement.sql_insert, Statement.sql_insert,
    Statement.params_insert, Statement.params_insert, Record.length_bindables,
    Record.length_bindables, h, hs]

theorem Alike.update {table : String} {changes changes' : Record} {f g : Option Filter}
    (hk : changes.keys = changes'.keys) (hw : filtersAlike mode f g) :
    (Statement.update mode table changes f).map Statement.outline =
      (Statement.update mode table changes' g).map Statement.outline := by
  obtain ⟨hx, hp⟩ := Prod.ext_iff.1 (filtersAlike_outline_eq hw)
  simp only [Fragment.outline] at hx hp
  have hs := Record.size_eq_of_keys hk
  have he : changes.isEmpty = changes'.isEmpty := by
    rw [OrderedMap.isEmpty, OrderedMap.isEmpty, Bool.eq_iff_iff, List.isEmpty_iff_length_eq_zero,
      List.isEmpty_iff_length_eq_zero]
    exact Eq.to_iff (congrArg (· = 0) hs)
  simp only [Statement.update, he]
  cases safeName? table with
  | none => rfl
  | some name =>
      cases changes'.isEmpty with
      | true => rfl
      | false =>
          simp only [Bool.false_eq_true, if_false, Except.map, Statement.outline,
            Record.assignments, hk, hx, List.length_append, Record.length_bindables, hs, hp]

theorem Alike.delete {table : String} {f g : Option Filter} (hw : filtersAlike mode f g) :
    (Statement.delete mode table f).map Statement.outline =
      (Statement.delete mode table g).map Statement.outline := by
  obtain ⟨hx, hp⟩ := Prod.ext_iff.1 (filtersAlike_outline_eq hw)
  simp only [Fragment.outline] at hx hp
  simp only [Statement.delete]
  cases safeName? table with
  | none => rfl
  | some name => simp only [Except.map, Statement.outline, hx, hp]

/-- The values of a request do not reach the text of its statement: two requests of one shape are
refused with the same error, or compile to the same text with equally many parameters. -/
theorem outline_eq_of_alike {r q : Request} (h : r.Alike mode q) :
    (r.compile mode).map Statement.outline = (q.compile mode).map Statement.outline := by
  rw [Alike.eq_def] at h
  split at h
  · exact Alike.select h
  · obtain ⟨rfl, hk⟩ := h
    exact congrArg Except.ok (Alike.insert hk)
  · obtain ⟨rfl, hk, hw⟩ := h
    exact Alike.update hk hw
  · obtain ⟨rfl, hw⟩ := h
    exact Alike.delete hw
  · exact h.elim

theorem outline_eq_of_quotes :
    let r : Request := .delete "users" (some (.fields (OrderedMap.ofList
      [("name", .equals (.text "Ann")), ("id", .oneOf [.int 1, .int 2])])))
    let q : Request := .delete "users" (some (.fields (OrderedMap.ofList
      [("name", .equals (.text "' or ? = \"?\"; --")), ("id", .oneOf [.null, .text ")"])])))
    r.Alike .parameterized q ∧
      (r.compile .parameterized).map Statement.outline =
        (q.compile .parameterized).map Statement.outline ∧
      (q.compile .parameterized).map Statement.outline =
        .ok ("delete from users where name = ? and id IN (?,?)", 3) := by
  intro r q
  have h : r.Alike .parameterized q := ⟨rfl, .cons ⟨rfl, trivial⟩ (.cons ⟨rfl, rfl⟩ .nil)⟩
  exact ⟨h, outline_eq_of_alike h, rfl⟩

end Request

end Querysmith
