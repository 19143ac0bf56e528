import Querysmith.Filter.Basic

namespace Querysmith

def Fragment.ofConditions (texts : List String) (params : List Value) : Fragment :=
  if texts = [] then .empty else ⟨" where " ++ " and ".intercalate texts, params⟩

namespace Conditions

variable {mode : ListMode} {m n : Conditions} {field : String}

theorem texts_append (es fs : List (String × Condition)) :
    texts mode (es ++ fs) = texts mode es ++ texts mode fs :=
  List.map_append

theorem params_append (es fs : List (String × Condition)) :
    params mode (es ++ fs) = params mode es ++ params mode fs :=
  List.flatMap_append

theorem texts_cons (e : String × Condition) (es : List (String × Condition)) :
    texts mode (e :: es) = e.2.text mode e.1 :: texts mode es :=
  List.map_cons

theorem params_cons (e : String × Condition) (es : List (String × Condition)) :
    params mode (e :: es) = e.2.params mode ++ params mode es :=
  List.flatMap_cons

theorem texts_eq_nil_iff {es : List (String × Condition)} : texts mode es = [] ↔ es = [] :=
  List.map_eq_nil_iff

theorem fragment_eq_ofConditions (mode : ListMode) (m : Conditions) :
    fragment mode m = .ofConditions (texts mode m.entries) (params mode m.entries) := by
  rw [fragment, Fragment.ofConditions]
  split
  · rename_i h
    rw [if_pos (texts_eq_nil_iff.2 h)]
  · rename_i hne
    rw [if_neg fun h => hne (texts_eq_nil_iff.1 h)]

theorem fragment_insert_empty (mode : ListMode) (field : String) (c : Condition) :
    fragment mode (OrderedMap.empty.insert field c) =
      ⟨" where " ++ c.text mode field, c.params mode⟩ := by
  rw [fragment_eq_ofConditions]
  change Fragment.ofConditions [c.text mode field] (c.params mode ++ []) = _
  rw [Fragment.ofConditions, if_neg (List.cons_ne_nil _ _), String.intercalate_singleton,
    List.append_nil]

theorem fragment_insert_of_not_mem (h : field ∉ m.keys) (c : Condition) :
    fragment mode (m.insert field c) =
      if m.isEmpty then fragment mode (OrderedMap.empty.insert field c)
      else ⟨(fragment mode m).text ++ " and " ++ c.text mode field,
        (fragment mode m).params ++ c.params mode⟩ := by
  cases he : m.isEmpty with
  | true =>
      have hnil : m.entries = [] := List.isEmpty_iff.1 he
      have hm : m = OrderedMap.empty := OrderedMap.ext hnil
      rw [if_pos rfl, hm]
  | false =>
      have hne : m.entries ≠ [] := by
        intro hnil
        rw [OrderedMap.isEmpty, hnil] at he
        cases he
      have htexts : texts mode m.entries ≠ [] := fun ht => hne (texts_eq_nil_iff.1 ht)
      have hall : texts mode m.entries ++ [c.text mode field] ≠ [] :=
        List.append_ne_nil_of_left_ne_nil htexts _
      rw [if_neg Bool.false_ne_true, fragment_eq_ofConditions, fragment_eq_ofConditions,
        OrderedMap.entries_insert, OrderedMap.put_of_not_mem h, texts_append, params_append]
      change Fragment.ofConditions (texts mode m.entries ++ [c.text mode field])
        (params mode m.entries ++ (c.params mode ++ [])) = _
      rw [Fragment.ofConditions, Fragment.ofConditions, if_neg hall, if_neg htexts,
        String.intercalate_append_of_ne_nil htexts (List.cons_ne_nil _ _),
        String.intercalate_singleton, List.append_nil]
      simp only [String.append_assoc]

def around (mode : ListMode) (before : List (String × Condition)) (e : String × Condition)
    (after : List (String × Condition)) : Fragment :=
  .ofConditions (texts mode before ++ e.2.text mode e.1 :: texts mode after)
    (params mode before ++ (e.2.params mode ++ params mode after))

theorem fragment_of_entries {before after : List (String × Condition)} {e : String × Condition}
    (h : m.entries = before ++ e :: after) : fragment mode m = around mode before e after := by
  rw [fragment_eq_ofConditions, h, texts_append, params_append, texts_cons, params_cons, around]

theorem fragment_insert_of_mem (h : field ∈ m.keys) :
    ∃ before old after, m.entries = before ++ (field, old) :: after ∧
      field ∉ before.map Prod.fst ∧ field ∉ after.map Prod.fst ∧
      fragment mode m = around mode before (field, old) after ∧
      ∀ c, fragment mode (m.insert field c) = around mode before (field, c) after := by
  obtain ⟨before, old, after, hm, hbefore, hput⟩ := OrderedMap.exists_put_of_mem h
  have hafter : field ∉ after.map Prod.fst := by
    have hnodup := m.nodup
    rw [hm, List.map_append, List.map_cons, List.nodup_append] at hnodup
    exact (List.nodup_cons.1 hnodup.2.1).1
  exact ⟨before, old, after, hm, hbefore, hafter, fragment_of_entries hm,
    fun c => fragment_of_entries (hput c)⟩

theorem fragment_insertAll_of_disjoint (h : ∀ field ∈ m.keys, field ∉ n.keys) :
    fragment mode (m.insertAll n.entries) =
      .ofConditions (texts mode m.entries ++ texts mode n.entries)
        (params mode m.entries ++ params mode n.entries) := by
  rw [fragment_eq_ofConditions, OrderedMap.entries_insertAll_of_disjoint h, texts_append,
    params_append]

/-- A filter is compiled condition by condition. A field that is new adds its condition and its
parameters behind those that are there, and one that is not changes its own alone, whatever kind of
test comes for whatever kind. So filters on different fields are compiled apart from each other. -/
theorem fragment_by_conditions :
    (∀ (mode : ListMode) (m : Conditions),
      fragment mode m = .ofConditions (texts mode m.entries) (params mode m.entries)) ∧
    (∀ (mode : ListMode) (m : Conditions) (field : String) (c : Condition), field ∉ m.keys →
      fragment mode (OrderedMap.empty.insert field c) =
          ⟨" where " ++ c.text mode field, c.params mode⟩ ∧
        fragment mode (m.insert field c) =
          if m.isEmpty then fragment mode (OrderedMap.empty.insert field c)
          else ⟨(fragment mode m).text ++ " and " ++ c.text mode field,
            (fragment mode m).params ++ c.params mode⟩) ∧
    (∀ (mode : ListMode) (m : Conditions) (field : String), field ∈ m.keys →
      ∃ before old after, m.entries = before ++ (field, old) :: after ∧
        field ∉ before.map Prod.fst ∧ field ∉ after.map Prod.fst ∧
        fragment mode m = around mode before (field, old) after ∧
        ∀ c, fragment mode (m.insert field c) = around mode before (field, c) after) ∧
    ∀ (mode : ListMode) (m n : Conditions), (∀ field ∈ m.keys, field ∉ n.keys) →
      (m.insertAll n.entries).entries = m.entries ++ n.entries ∧
        fragment mode (m.insertAll n.entries) =
          .ofConditions (texts mode m.entries ++ texts mode n.entries)
            (params mode m.entries ++ params mode n.entries) := by
  refine ⟨fragment_eq_ofConditions, ?_, ?_, ?_⟩
  · intro mode m field c h
    exact ⟨fragment_insert_empty mode field c, fragment_insert_of_not_mem h c⟩
  · intro mode m field h
    exact fragment_insert_of_mem h
  · intro mode m n h
    exact ⟨OrderedMap.entries_insertAll_of_disjoint h, fragment_insertAll_of_disjoint h⟩

/-- A list gives way to a scalar, and the parameter behind it moves up. -/
theorem fragment_by_conditions_of_overwritten_list :
    let m : Conditions := OrderedMap.ofList
      [("active", .equals (.bool true)), ("id", .oneOf [.int 4, .int 5]), ("v", .equals .null)]
    let n : Conditions := OrderedMap.ofList [("name", .oneOf []), ("age", .equals (.int 3))]
    "id" ∈ m.keys ∧ "name" ∉ m.keys ∧ (∀ field ∈ m.keys, field ∉ n.keys) ∧
      fragment .parameterized (m.insert "name" (.oneOf [])) =
        ⟨" where active = ? and id IN (?,?) and v = ? and name IN ()",
          [.bool true, .int 4, .int 5, .null]⟩ ∧
      (∃ before old after, m.entries = before ++ ("id", old) :: after ∧
        fragment .parameterized m = around .parameterized before ("id", old) after ∧
        fragment .parameterized (m.insert "id" (.equals (.text "x"))) =
          around .parameterized before ("id", .equals (.text "x")) after) ∧
      fragment .parameterized (m.insert "id" (.equals (.text "x"))) =
        ⟨" where active = ? and id = ? and v = ?", [.bool true, .text "x", .null]⟩ ∧
      fragment .parameterized (m.insertAll n.entries) =
        ⟨" where active = ? and id IN (?,?) and v = ? and name IN () and age = ?",
          [.bool true, .int 4, .int 5, .null, .int 3]⟩ := by
  intro m n
  have hid : "id" ∈ m.keys := by decide
  have hname : "name" ∉ m.keys := by decide
  have hdisjoint : ∀ field ∈ m.keys, field ∉ n.keys := by decide
  obtain ⟨-, hnew, hold, happend⟩ := fragment_by_conditions
  refine ⟨hid, hname, hdisjoint, ?_, ?_, by decide +kernel, ?_⟩
  · rw [(hnew .parameterized m "name" (.oneOf []) hname).2]
    decide +kernel
  · obtain ⟨before, old, after, hm, -, -, hbefore, hafter⟩ := hold .parameterized m "id" hid
    exact ⟨before, old, after, hm, hbefore, hafter _⟩
  · rw [(happend .parameterized m n hdisjoint).2]
    decide +kernel

end Conditions

end Querysmith
