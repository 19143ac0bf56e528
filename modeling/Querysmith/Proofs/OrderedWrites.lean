import Mathlib.Data.Finset.Card
import Querysmith.Proofs.FaithfulWrites
import Querysmith.Proofs.Filtering

namespace Querysmith

namespace OrderedMap

variable {κ α : Type} [DecidableEq κ] {m n n' : OrderedMap κ α}

def lastWrite? (k : κ) (ws : List (κ × α)) : Option α :=
  ((ws.filter fun w => w.1 = k).getLast?).map Prod.snd

def newKeys (m : OrderedMap κ α) (ws : List (κ × α)) : List κ :=
  ((ws.map Prod.fst).filter fun k => k ∉ m.keys).eraseDups

/-- What becomes of a map by writes. -/
structure Written (m : OrderedMap κ α) (ws : List (κ × α)) (n : OrderedMap κ α) : Prop where
  nodup : n.keys.Nodup
  keys : n.keys = m.keys ++ m.newKeys ws
  values : ∀ k, n.get? k = (lastWrite? k ws).or (m.get? k)
  size : n.size = (m.keys ++ ws.map Prod.fst).toFinset.card
  isEmpty : n.isEmpty = true ↔ m.keys ++ ws.map Prod.fst = []

theorem newKeys_cons (m : OrderedMap κ α) (w : κ × α) (ws : List (κ × α)) :
    m.keys ++ m.newKeys (w :: ws) =
      (m.insert w.1 w.2).keys ++ (m.insert w.1 w.2).newKeys ws := by
  rw [newKeys, newKeys, keys_insert, List.map_cons]
  -- later writes to a new key are dropped as repetitions on the left, as known keys on the right
  by_cases hw : w.1 ∈ m.keys
  · rw [List.filter_cons_of_neg (by simpa using hw), if_pos hw]
  · rw [List.filter_cons_of_pos (by simpa using hw), if_neg hw, List.eraseDups_cons,
      List.filter_filter, List.append_assoc, List.singleton_append]
    congr 3
    refine List.filter_congr fun k _ => ?_
    rw [Bool.eq_iff_iff]
    simp [and_comm]

theorem keys_insertAll (m : OrderedMap κ α) (ws : List (κ × α)) :
    (m.insertAll ws).keys = m.keys ++ m.newKeys ws := by
  induction ws generalizing m with
  | nil => exact (List.append_nil m.keys).symm
  | cons w ws ih =>
      rw [newKeys_cons]
      exact ih (m.insert w.1 w.2)

theorem lastWrite?_cons (k : κ) (w : κ × α) (ws : List (κ × α)) :
    lastWrite? k (w :: ws) = (lastWrite? k ws).or (if k = w.1 then some w.2 else none) := by
  rw [lastWrite?, lastWrite?]
  by_cases hk : w.1 = k
  · rw [List.filter_cons_of_pos (by simpa using hk), List.getLast?_cons, if_pos hk.symm]
    cases (ws.filter fun w => w.1 = k).getLast? <;> rfl
  · rw [List.filter_cons_of_neg (by simpa using hk), if_neg (Ne.symm hk), Option.or_none]

theorem get?_insertAll (m : OrderedMap κ α) (ws : List (κ × α)) (k : κ) :
    (m.insertAll ws).get? k = (lastWrite? k ws).or (m.get? k) := by
  induction ws generalizing m with
  | nil => rfl
  | cons w ws ih =>
      have hstep : (m.insertAll (w :: ws)).get? k =
          (lastWrite? k ws).or ((m.insert w.1 w.2).get? k) := ih (m.insert w.1 w.2)
      rw [hstep, get?_insert, lastWrite?_cons, Option.or_assoc]
      by_cases hk : k = w.1
      · rw [if_pos hk, if_pos hk, Option.some_or]
      · rw [if_neg hk, if_neg hk, Option.none_or]

theorem mem_keys_append_newKeys {ws : List (κ × α)} {k : κ} :
    k ∈ m.keys ++ m.newKeys ws ↔ k ∈ m.keys ++ ws.map Prod.fst := by
  rw [List.mem_append, List.mem_append, newKeys, List.mem_eraseDups, List.mem_filter,
    decide_eq_true_eq]
  tauto

theorem written_insertAll (m : OrderedMap κ α) (ws : List (κ × α)) :
    Written m ws (m.insertAll ws) where
  nodup := (m.insertAll ws).nodup
  keys := keys_insertAll m ws
  values := get?_insertAll m ws
  size := by
    have hsame : (m.insertAll ws).keys.toFinset = (m.keys ++ ws.map Prod.fst).toFinset := by
      ext k
      rw [List.mem_toFinset, List.mem_toFinset, keys_insertAll, mem_keys_append_newKeys]
    have hlength : (m.insertAll ws).size = (m.insertAll ws).keys.length :=
      (List.length_map _).symm
    rw [hlength, ← hsame]
    exact (List.toFinset_card_of_nodup (m.insertAll ws).nodup).symm
  isEmpty := by
    have hkeys : (m.insertAll ws).isEmpty = true ↔ (m.insertAll ws).keys = [] := by
      rw [OrderedMap.isEmpty, OrderedMap.keys, List.isEmpty_iff, List.map_eq_nil_iff]
    rw [hkeys, keys_insertAll, List.eq_nil_iff_forall_not_mem, List.eq_nil_iff_forall_not_mem]
    exact forall_congr' fun k => not_congr mem_keys_append_newKeys

omit [DecidableEq κ] in
theorem eq_of_subset_of_keys {es fs : List (κ × α)} (hes : (es.map Prod.fst).Nodup)
    (hk : es.map Prod.fst = fs.map Prod.fst) (hmem : ∀ e ∈ es, e ∈ fs) : es = fs := by
  induction es generalizing fs with
  | nil => exact (List.map_eq_nil_iff.1 hk.symm).symm
  | cons e es ih =>
      cases fs with
      | nil => cases hk
      | cons f fs =>
          obtain ⟨hef, hrest⟩ := List.cons.inj hk
          obtain ⟨he, hes⟩ := List.nodup_cons.1 hes
          have hfirst : e = f := by
            refine (List.mem_cons.1 (hmem e List.mem_cons_self)).resolve_right fun hfs => he ?_
            rw [hrest]
            exact List.mem_map_of_mem hfs
          have hlater : ∀ x ∈ es, x ∈ fs := by
            intro x hx
            refine (List.mem_cons.1 (hmem x (List.mem_cons_of_mem e hx))).resolve_left ?_
            rintro rfl
            exact he (hef ▸ List.mem_map_of_mem hx)
          rw [hfirst, ih hes hrest hlater]

theorem eq_of_keys_of_get? (hk : n.keys = n'.keys) (hv : ∀ k, n.get? k = n'.get? k) : n = n' := by
  refine ext (eq_of_subset_of_keys n.nodup hk fun e he => ?_)
  rw [← get?_eq_some_iff, ← hv]
  exact get?_eq_some_iff.2 he

theorem Written.unique {ws : List (κ × α)} (h : Written m ws n) (h' : Written m ws n') : n = n' :=
  eq_of_keys_of_get? (h.keys.trans h'.keys.symm) fun k => (h.values k).trans (h'.values k).symm

theorem insertAll_eq_iff {ws : List (κ × α)} : m.insertAll ws = n ↔ Written m ws n := by
  constructor
  · rintro rfl
    exact written_insertAll m ws
  · exact (written_insertAll m ws).unique

theorem entries_insertAll_empty {ws : List (κ × α)} (h : (ws.map Prod.fst).Nodup) :
    (insertAll empty ws).entries = ws :=
  entries_ofList_of_nodup h

end OrderedMap

namespace Conditions

inductive Step where
  | equals (field : String) (v : Value)
  | oneOf (field : String) (vs : List Value)
  | insert (field : String) (c : Condition)

def Step.write : Step → String × Condition
  | equals field v => (field, .equals v)
  | oneOf field vs => (field, .oneOf vs)
  | insert field c => (field, c)

def step (m : Conditions) (s : Step) : Conditions :=
  m.insert s.write.1 s.write.2

def build (m : Conditions) (steps : List Step) : Conditions :=
  steps.foldl step m

theorem build_eq_insertAll (m : Conditions) (steps : List Step) :
    m.build steps = m.insertAll (steps.map Step.write) := by
  rw [OrderedMap.insertAll, List.foldl_map]
  rfl

end Conditions

theorem Json.nodup_members (j : Json) : (j.members.map Prod.fst).Nodup := by
  cases j with
  | object fields => exact (OrderedMap.ofList fields).nodup
  | null | bool | number | string | array => exact List.nodup_nil

theorem Json.nodup_map_members {α : Type} (j : Json) (f : Json → α) :
    ((j.members.map fun e => (e.1, f e.2)).map Prod.fst).Nodup := by
  rw [List.map_map]
  exact j.nodup_members

theorem Record.insertAll_members (fields : List (String × Json)) :
    OrderedMap.insertAll .empty (fields.map fun e => (e.1, Value.ofJson e.2)) =
      OrderedMap.insertAll .empty
        ((Json.object fields).members.map fun e => (e.1, Value.ofJson e.2)) := by
  refine OrderedMap.ext ((OrderedMap.entries_ofList_map Value.ofJson fields).trans ?_)
  exact (OrderedMap.entries_insertAll_empty
    ((Json.object fields).nodup_map_members Value.ofJson)).symm

theorem Filter.eq_insertAll_of_ofJson {j : Json} {m : Conditions}
    (h : Filter.ofJson j = .ok (.fields m)) :
    m = OrderedMap.empty.insertAll (j.members.map fun e => (e.1, Condition.ofJson e.2)) := by
  obtain ⟨-, -, hm⟩ := ofJson_eq_fields_iff.1 h
  refine OrderedMap.ext (hm.trans ?_)
  exact (OrderedMap.entries_insertAll_empty (j.nodup_map_members Condition.ofJson)).symm

/-- A text is made from entries whose names are all different. Where the names are plain the text
shows them: no other list of plain names makes it. -/
structure ShowsOnce {α : Type} (name : α → String) (text : List α → String) (xs : List α)
    (sql : String) : Prop where
  made : sql = text xs
  nodup : (xs.map name).Nodup
  read : (∀ x ∈ xs, IsName (name x)) → ∀ ys, (∀ y ∈ ys, IsName (name y)) → sql = text ys →
    ys.map name = xs.map name

namespace Record

def insertText (table : String) (columns : List String) : String :=
  "insert into " ++ table ++ " (" ++ ", ".intercalate columns ++ ") values (" ++
    marks ", " columns.length ++ ")"

def updateText (table rest : String) (columns : List String) : String :=
  "update " ++ table ++ " set " ++ ", ".intercalate (columns.map (· ++ " = ?")) ++ rest

theorem toList_insertText (table : String) (columns : List String) :
    (insertText table columns).toList = "insert into ".toList ++ (table.toList ++ (" (".toList ++
      ((", ".intercalate columns).toList ++ (") values (".toList ++
        ((marks ", " columns.length).toList ++ ")".toList))))) := by
  unfold insertText
  simp only [String.toList_append, List.append_assoc]

theorem sql_insert_eq (table : String) (r : Record) :
    (Statement.insert table r).sql = insertText ((safeName? table).getD "") r.keys := by
  have hsize : r.size = r.keys.length := (List.length_map _).symm
  rw [Statement.sql_insert, hsize]
  rfl

theorem insertText_inj {table : String} {xs ys : List String} (hx : ∀ x ∈ xs, IsName x)
    (hy : ∀ y ∈ ys, IsName y) (h : insertText table xs = insertText table ys) : xs = ys := by
  have hchars := congrArg String.toList h
  rw [toList_insertText, toList_insertText] at hchars
  have hcolumns := List.append_cancel_left
    (List.append_cancel_left (List.append_cancel_left hchars))
  have hclose (u : List Char) : Ends (") values (".toList ++ u) := ends_cons (by decide)
  have hcomma (u s : List Char) : ") values (".toList ++ u ≠ ',' :: s := by simp
  exact (names_append_inj hx hy (hclose _) (hclose _) (hcomma _) (hcomma _) hcolumns).1

theorem showsOnce_insert (table : String) (r : Record) :
    ShowsOnce id (insertText ((safeName? table).getD "")) r.keys
      (Statement.insert table r).sql where
  made := sql_insert_eq table r
  nodup := by
    rw [List.map_id]
    exact r.nodup
  read := by
    intro hx ys hy h
    rw [sql_insert_eq] at h
    rw [insertText_inj hx hy h]

theorem toList_updateText (table rest : String) (columns : List String) :
    (updateText table rest columns).toList = "update ".toList ++ (table.toList ++
      (" set ".toList ++ (assignmentsText columns ++ rest.toList))) := by
  unfold updateText
  simp only [String.toList_append, List.append_assoc, toList_assigned]

theorem updateText_inj {mode : ListMode} {table : String} {filter : Option Filter}
    {xs ys : List String} (hx : ∀ x ∈ xs, IsName x) (hy : ∀ y ∈ ys, IsName y)
    (h : updateText table (filterFragment mode filter).text xs =
      updateText table (filterFragment mode filter).text ys) : xs = ys := by
  have hlast : Ends (filterFragment mode filter).text.toList ∧
      ∀ s, (filterFragment mode filter).text.toList ≠ ',' :: s := by
    obtain ht | ⟨conditions, ht⟩ := text_filterFragment_cases mode filter
    · rw [ht]
      exact ⟨ends_nil, by simp⟩
    · rw [ht, String.toList_append]
      exact ⟨ends_cons (by decide), by simp⟩
  have hchars := congrArg String.toList h
  rw [toList_updateText, toList_updateText] at hchars
  have hcolumns := List.append_cancel_left
    (List.append_cancel_left (List.append_cancel_left hchars))
  exact (assigned_append_inj hx hy hlast hlast hcolumns).1

theorem sql_update_eq {mode : ListMode} {table : String} {changes : Record}
    {filter : Option Filter} {s : Statement}
    (compiled : Statement.update mode table changes filter = .ok s) :
    s.sql = updateText ((safeName? table).getD "") (filterFragment mode filter).text
      changes.keys := by
  obtain ⟨name, ht, -, rfl⟩ := Statement.update_eq_ok_iff.1 compiled
  rw [ht, Option.getD_some]
  rfl

theorem showsOnce_update {mode : ListMode} {table : String} {changes : Record}
    {filter : Option Filter} {s : Statement}
    (compiled : Statement.update mode table changes filter = .ok s) :
    ShowsOnce id (updateText ((safeName? table).getD "") (filterFragment mode filter).text)
      changes.keys s.sql where
  made := sql_update_eq compiled
  nodup := by
    rw [List.map_id]
    exact changes.nodup
  read := by
    intro hx ys hy h
    rw [sql_update_eq compiled] at h
    rw [updateText_inj hx hy h]

end Record

namespace Conditions

def entriesText (mode : ListMode) (es : List (String × Condition)) : String :=
  if es = [] then "" else " where " ++ " and ".intercalate (texts mode es)

theorem toList_entriesText (es : List (String × Condition)) :
    (entriesText .parameterized es).toList = whereText es := by
  rw [entriesText, whereText]
  split
  · rfl
  · rw [String.toList_append, String.toList_intercalate, texts, List.map_map]
    rfl

theorem Alike.map_fst_eq {mode : ListMode} {es fs : List (String × Condition)}
    (h : Alike mode es fs) : es.map Prod.fst = fs.map Prod.fst := by
  induction h with
  | nil => rfl
  | cons hef _ ih => rw [List.map_cons, List.map_cons, hef.1, ih]

theorem showsOnce_fragment (m : Conditions) :
    ShowsOnce Prod.fst (entriesText .parameterized) m.entries
      (filterFragment .parameterized (some (.fields m))).text where
  made := text_fragment .parameterized m
  nodup := m.nodup
  read := by
    intro hx ys hy h
    have htext : (filterFragment .parameterized (some (.fields m))).text =
        entriesText .parameterized m.entries := text_fragment .parameterized m
    have hchars := congrArg String.toList (htext.symm.trans h)
    rw [toList_entriesText, toList_entriesText, ← List.append_nil (whereText m.entries),
      ← List.append_nil (whereText ys)] at hchars
    obtain ⟨halike, -⟩ := whereText_append_inj hx hy (.inl rfl) (.inl rfl) hchars
    exact halike.map_fst_eq.symm

end Conditions

/-- Writes to a map, however it was built before, leave each key in its place and add the new ones
in order; a key holds the last value written to it. Lists of pairs and documents become maps in no
other way. The columns of a statement and the fields of a filter are therefore all different, and a
text on plain names with bound values shows it. -/
theorem OrderedMap.names_once_of_writes :
    (∀ (r n : Record) (ws : List (String × Value)), r.insertAll ws = n ↔ Written r ws n) ∧
    (∀ (m n : Conditions) (steps : List Conditions.Step),
      m.build steps = n ↔ Written m (steps.map Conditions.Step.write) n) ∧
    (∀ ws : List (String × Value), ofList ws = empty.insertAll ws) ∧
    (∀ fields, Record.ofJson (.object fields) = .ok (empty.insertAll
        (fields.map fun e => (e.1, Value.ofJson e.2))) ∧
      Record.ofJson (.object fields) = .ok (empty.insertAll
        ((Json.object fields).members.map fun e => (e.1, Value.ofJson e.2)))) ∧
    (∀ j m, Filter.ofJson j = .ok (.fields m) →
      m = empty.insertAll (j.members.map fun e => (e.1, Condition.ofJson e.2))) ∧
    (∀ table (r : Record), ShowsOnce id (Record.insertText ((safeName? table).getD "")) r.keys
      (Statement.insert table r).sql) ∧
    (∀ mode table changes filter s, Statement.update mode table changes filter = .ok s →
      ShowsOnce id (Record.updateText ((safeName? table).getD "") (filterFragment mode filter).text)
        changes.keys s.sql) ∧
    (∀ mode (m : Conditions), (filterFragment mode (some (.fields m))).text =
      Conditions.entriesText mode m.entries ∧ (m.entries.map Prod.fst).Nodup) ∧
    ∀ m : Conditions, ShowsOnce Prod.fst (Conditions.entriesText .parameterized) m.entries
      (filterFragment .parameterized (some (.fields m))).text := by
  refine ⟨fun r n ws => insertAll_eq_iff, fun m n steps => ?_, fun ws => rfl,
    fun fields => ⟨rfl, congrArg Except.ok (Record.insertAll_members fields)⟩,
    fun j m => Filter.eq_insertAll_of_ofJson, Record.showsOnce_insert,
    fun mode table changes filter s => Record.showsOnce_update, fun mode m => ?_,
    Conditions.showsOnce_fragment⟩
  · rw [Conditions.build_eq_insertAll]
    exact insertAll_eq_iff
  · exact ⟨Conditions.text_fragment mode m, m.nodup⟩

/-- Columns that were there keep their places, a new one is named once, and so is the field of a
document that has it twice. -/
theorem OrderedMap.names_once_of_overwrites :
    let r : Record := ofList [("b", .int 1), ("a", .null)]
    let ws : List (String × Value) := [("c", .null), ("a", .text "x"), ("c", .bool true)]
    let n : Record := ofList [("b", .int 1), ("a", .text "x"), ("c", .bool true)]
    let j : Json := .object [("id", .array []), ("v", .null), ("id", .bool false)]
    let m : Conditions := ofList [("id", .equals (.bool false)), ("v", .equals .null)]
    Written r ws n ∧ Filter.ofJson j = .ok (.fields m) ∧
      m = empty.insertAll (j.members.map fun e => (e.1, Condition.ofJson e.2)) ∧
      ∃ s, Statement.update .inline "t" n (some (.fields m)) = .ok s ∧
        s.sql = "update t set b = ?, a = ?, c = ? where id = ? and v = ?" ∧
        ShowsOnce id (Record.updateText "t" " where id = ? and v = ?") ["b", "a", "c"] s.sql := by
  intro r ws n j m
  obtain ⟨hwritten, -, -, -, hread, -, hupdate, -⟩ := names_once_of_writes
  exact ⟨(hwritten r n ws).1 rfl, rfl, hread j m rfl, _, rfl, rfl,
    hupdate .inline "t" n (some (.fields m)) _ rfl⟩

end Querysmith
