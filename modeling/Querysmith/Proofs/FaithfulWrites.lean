import Querysmith.Proofs.Reading

namespace Querysmith

def assignmentText (column : String) : List Char :=
  column.toList ++ [' ', '=', ' ', '?']

def assignmentsText (columns : List String) : List Char :=
  ", ".toList.intercalate (columns.map assignmentText)

theorem toList_assigned (columns : List String) :
    (", ".intercalate (columns.map (· ++ " = ?"))).toList = assignmentsText columns := by
  rw [assignmentsText, String.toList_intercalate, List.map_map]
  congr 1
  refine List.map_congr_left fun column _ => ?_
  rw [Function.comp, String.toList_append]
  rfl

theorem toList_assignments (r : Record) : r.assignments.toList = assignmentsText r.keys :=
  toList_assigned r.keys

theorem assignments_readable : Readable ", ".toList assignmentText IsName Eq (fun _ => True)
    (fun r => Ends r ∧ ∀ s, r ≠ ',' :: s) where
  entry_inj := by
    intro x y r r' hx hy _ _ h
    rw [assignmentText, assignmentText, List.append_assoc, List.append_assoc] at h
    have hblank (u : List Char) : Ends ([' ', '=', ' ', '?'] ++ u) := ends_cons (by decide)
    obtain ⟨hxy, ht⟩ := name_append_inj hx hy (hblank r) (hblank r') h
    exact ⟨hxy, List.append_cancel_left ht⟩
  more := fun _ => trivial
  last := fun _ _ => trivial
  not_separator := by
    rintro r s ⟨-, hr⟩
    exact hr _
  not_entry := by
    rintro x r s hx ⟨hr, -⟩
    rw [assignmentText, List.append_assoc]
    exact hr.not_name_append hx.toList_ne_nil hx.2

/-- A column may be called where or set: the list ends where no comma follows a place. -/
theorem assigned_append_inj {columns columns' : List String}
    (hc : ∀ column ∈ columns, IsName column) (hc' : ∀ column ∈ columns', IsName column)
    {r r' : List Char} (hr : Ends r ∧ ∀ s, r ≠ ',' :: s) (hr' : Ends r' ∧ ∀ s, r' ≠ ',' :: s)
    (h : assignmentsText columns ++ r = assignmentsText columns' ++ r') :
    columns = columns' ∧ r = r' := by
  obtain ⟨hk, hrest⟩ := assignments_readable.intercalate_append_inj hc hc' hr hr' h
  rw [List.forall₂_eq_eq_eq] at hk
  exact ⟨hk, hrest⟩

theorem assignmentsText_append_inj {columns columns' : List String}
    (hc : ∀ column ∈ columns, IsName column) (hc' : ∀ column ∈ columns', IsName column)
    {es fs : List (String × Condition)}
    (h : assignmentsText columns ++ Conditions.whereText es =
      assignmentsText columns' ++ Conditions.whereText fs) :
    columns = columns' ∧ Conditions.whereText es = Conditions.whereText fs := by
  have hlast (gs : List (String × Condition)) :
      Ends (Conditions.whereText gs) ∧ ∀ s, Conditions.whereText gs ≠ ',' :: s := by
    constructor
    · have hends := Conditions.whereText_append_ends gs ends_nil
      rwa [List.append_nil] at hends
    · intro s
      rw [Conditions.whereText]
      split <;> simp
  exact assigned_append_inj hc hc' (hlast es) (hlast fs) h

theorem Conditions.eq_of_whereText {es fs : List (String × Condition)}
    (he : ∀ e ∈ es, IsName e.1) (hf : ∀ f ∈ fs, IsName f.1) (h : whereText es = whereText fs)
    (hp : params .parameterized es = params .parameterized fs) : es = fs := by
  rw [← List.append_nil (whereText es), ← List.append_nil (whereText fs)] at h
  obtain ⟨halike, -⟩ := whereText_append_inj he hf (.inl rfl) (.inl rfl) h
  exact eq_of_alike halike hp

theorem eq_of_names_of_values {α : Type} {es fs : List (String × α)}
    (hn : es.map Prod.fst = fs.map Prod.fst) (hv : es.map Prod.snd = fs.map Prod.snd) :
    es = fs := by
  rw [← List.zip_unzip es, ← List.zip_unzip fs, List.unzip_fst, List.unzip_snd, List.unzip_fst,
    List.unzip_snd, hn, hv]

/-- What a write asks for, with the values of its columns as they are bound. -/
inductive Write where
  | insert (table : String) (columns : List (String × Value))
  | update (table : String) (columns : List (String × Value))
      (conditions : List (String × Condition))
  | delete (table : String) (conditions : List (String × Condition))
deriving DecidableEq

def Operation.initial : Operation → Char
  | select => 's'
  | insert => 'i'
  | update => 'u'
  | delete => 'd'

theorem Operation.initial_inj {o o' : Operation} (h : o.initial = o'.initial) : o = o' := by
  revert h
  cases o <;> cases o' <;> decide

namespace Write

def operation : Write → Operation
  | insert _ _ => .insert
  | update _ _ _ => .update
  | delete _ _ => .delete

def text : Write → List Char
  | insert table columns =>
      "insert into ".toList ++ (table.toList ++ ' ' :: '(' ::
        ((", ".intercalate (columns.map Prod.fst)).toList ++ ')' ::
          (" values (".toList ++ ((marks ", " columns.length).toList ++ [')']))))
  | update table columns conditions =>
      "update ".toList ++ (table.toList ++ ' ' :: ("set ".toList ++
        (assignmentsText (columns.map Prod.fst) ++ Conditions.whereText conditions)))
  | delete table conditions =>
      "delete from ".toList ++ (table.toList ++ Conditions.whereText conditions)

theorem text_insert (table : String) (columns : List (String × Value)) :
    (insert table columns).text = "insert into ".toList ++ (table.toList ++ ' ' :: '(' ::
      ((", ".intercalate (columns.map Prod.fst)).toList ++ ')' ::
        (" values (".toList ++ ((marks ", " columns.length).toList ++ [')'])))) := by
  exact rfl

theorem text_update (table : String) (columns : List (String × Value))
    (conditions : List (String × Condition)) :
    (update table columns conditions).text = "update ".toList ++ (table.toList ++ ' ' ::
      ("set ".toList ++ (assignmentsText (columns.map Prod.fst) ++
        Conditions.whereText conditions))) := by
  exact rfl

theorem text_delete (table : String) (conditions : List (String × Condition)) :
    (delete table conditions).text =
      "delete from ".toList ++ (table.toList ++ Conditions.whereText conditions) := by
  exact rfl

def params : Write → List Value
  | insert _ columns => columns.map Prod.snd
  | update _ columns conditions =>
      columns.map Prod.snd ++ Conditions.params .parameterized conditions
  | delete _ conditions => Conditions.params .parameterized conditions

def Plain : Write → Prop
  | insert table columns => IsName table ∧ ∀ column ∈ columns.map Prod.fst, IsName column
  | update table columns conditions =>
      IsName table ∧ (∀ column ∈ columns.map Prod.fst, IsName column) ∧
        ∀ e ∈ conditions, IsName e.1
  | delete table conditions => IsName table ∧ ∀ e ∈ conditions, IsName e.1

theorem head?_text (w : Write) : w.text.head? = some w.operation.initial := by
  cases w with
  | insert table columns => exact rfl
  | update table columns conditions => exact rfl
  | delete table conditions => exact rfl

theorem operation_eq_of_text_eq {w w' : Write} (h : w.text = w'.text) :
    w.operation = w'.operation := by
  have hhead := congrArg List.head? h
  rw [head?_text, head?_text, Option.some.injEq] at hhead
  exact Operation.initial_inj hhead

theorem ends_blank (u : List Char) : Ends (' ' :: u) :=
  ends_cons (by decide)

theorem eq_of_text_eq {w w' : Write} (hw : w.Plain) (hw' : w'.Plain) (ht : w.text = w'.text)
    (hp : w.params = w'.params) : w = w' := by
  have hop := operation_eq_of_text_eq ht
  cases w with
  | insert table columns =>
      cases w' with
      | update | delete => cases hop
      | insert table' columns' =>
          obtain ⟨htable, hrest⟩ := name_append_inj hw.1 hw'.1 (ends_blank _) (ends_blank _)
            (List.append_cancel_left ht)
          have hclose (u : List Char) : Ends (')' :: u) := ends_cons (by decide)
          obtain ⟨hn, -⟩ := names_append_inj hw.2 hw'.2 (hclose _) (hclose _) (by simp) (by simp)
            (List.cons.inj (List.cons.inj hrest).2).2
          rw [htable, eq_of_names_of_values hn hp]
  | update table columns conditions =>
      cases w' with
      | insert | delete => cases hop
      | update table' columns' conditions' =>
          obtain ⟨htable, hrest⟩ := name_append_inj hw.1 hw'.1 (ends_blank _) (ends_blank _)
            (List.append_cancel_left ht)
          obtain ⟨hn, hwhere⟩ := assignmentsText_append_inj hw.2.1 hw'.2.1
            (List.append_cancel_left (List.cons.inj hrest).2)
          -- the columns take the parameters first, as many as there are names
          have hlength : (columns.map Prod.snd).length = (columns'.map Prod.snd).length := by
            simpa using congrArg List.length hn
          obtain ⟨hv, hc⟩ := List.append_inj hp hlength
          rw [htable, eq_of_names_of_values hn hv,
            Conditions.eq_of_whereText hw.2.2 hw'.2.2 hwhere hc]
  | delete table conditions =>
      cases w' with
      | insert | update => cases hop
      | delete table' conditions' =>
          have hends (es : List (String × Condition)) : Ends (Conditions.whereText es) := by
            simpa using Conditions.whereText_append_ends es ends_nil
          obtain ⟨htable, hwhere⟩ := name_append_inj hw.1 hw'.1 (hends _) (hends _)
            (List.append_cancel_left ht)
          rw [htable, Conditions.eq_of_whereText hw.2 hw'.2 hwhere hp]

end Write

namespace Record

def bound (r : Record) : List (String × Value) :=
  r.entries.map fun e => (e.1, e.2.bindable)

theorem map_fst_bound (r : Record) : r.bound.map Prod.fst = r.keys := by
  rw [bound, List.map_map]
  rfl

theorem map_snd_bound (r : Record) : r.bound.map Prod.snd = r.bindables := by
  rw [bound, bindables, OrderedMap.values, List.map_map, List.map_map]
  rfl

theorem length_bound (r : Record) : r.bound.length = r.size :=
  List.length_map _

end Record

namespace Request

def write? : Request → Option Write
  | select _ => none
  | insert table record => some (.insert table record.bound)
  | update table changes filter => some (.update table changes.bound (filterEntries filter))
  | delete table filter => some (.delete table (filterEntries filter))

def PlainWrite : Request → Prop
  | select _ => False
  | insert table record => IsName table ∧ ∀ column ∈ record.keys, IsName column
  | update table changes filter =>
      IsName table ∧ (∀ column ∈ changes.keys, IsName column) ∧ PlainFilter filter
  | delete table filter => IsName table ∧ PlainFilter filter

def IsIdle : Request → Prop
  | update _ changes _ => changes.isEmpty = true
  | select _ | insert _ _ | delete _ _ => False

theorem PlainWrite.exists_write {r : Request} (h : r.PlainWrite) :
    ∃ w, r.write? = some w ∧ w.Plain ∧ w.operation = r.operation := by
  cases r with
  | select query => exact h.elim
  | insert table record =>
      refine ⟨_, rfl, ⟨h.1, ?_⟩, rfl⟩
      rw [Record.map_fst_bound]
      exact h.2
  | update table changes filter =>
      refine ⟨_, rfl, ⟨h.1, ?_, fun _ => h.2.2.isName⟩, rfl⟩
      rw [Record.map_fst_bound]
      exact h.2.1
  | delete table filter => exact ⟨_, rfl, ⟨h.1, fun _ => h.2.isName⟩, rfl⟩

theorem PlainWrite.compile_of_isIdle {r : Request} (h : r.PlainWrite) (hi : r.IsIdle)
    (mode : ListMode) : r.compile mode = .error .noFieldsToUpdate := by
  cases r with
  | select | insert | delete => exact hi.elim
  | update table changes filter =>
      have htable : safeName? table ≠ none := by
        rw [safeName?_of_isName h.1]
        exact Option.some_ne_none table
      exact Statement.update_eq_error_iff.2 (.inr ⟨htable, hi, rfl⟩)

theorem PlainWrite.compile_eq_ok {r : Request} (h : r.PlainWrite) (hi : ¬r.IsIdle) {w : Write}
    (hw : r.write? = some w) :
    ∃ s, r.compile .parameterized = .ok s ∧ s.sql.toList = w.text ∧ s.params = w.params := by
  cases r with
  | select query => exact h.elim
  | insert table record =>
      obtain rfl := Option.some.inj hw
      refine ⟨_, rfl, ?_, (Record.map_snd_bound record).symm⟩
      rw [Statement.sql_insert, safeName?_of_isName h.1, Option.getD_some, Write.text_insert,
        Record.map_fst_bound, Record.length_bound]
      simp only [String.toList_append, List.append_assoc]
      rfl
  | update table changes filter =>
      obtain rfl := Option.some.inj hw
      have he : changes.isEmpty = false := Bool.eq_false_iff.2 hi
      refine ⟨_, Statement.update_eq_ok_iff.2 ⟨table, safeName?_of_isName h.1, he, rfl⟩, ?_, ?_⟩
      · simp only [String.toList_append, List.append_assoc, toList_assignments, h.2.2.toList_text,
          Write.text_update, Record.map_fst_bound]
        rfl
      · rw [Write.params, Record.map_snd_bound, h.2.2.params_eq]
  | delete table filter =>
      obtain rfl := Option.some.inj hw
      refine ⟨_, Statement.delete_eq_ok_iff.2 ⟨table, safeName?_of_isName h.1, rfl⟩, ?_,
        h.2.params_eq⟩
      simp only [String.toList_append, List.append_assoc, h.2.toList_text, Write.text_delete]

/-- Writes with plain names compile, an update of no column apart, and to the same statement only if
they write the same; the text alone tells an insert from an update from a delete. -/
theorem compile_eq_iff_write_eq {r q : Request} (hr : r.PlainWrite) (hq : q.PlainWrite) :
    (r.IsIdle → r.compile .parameterized = .error .noFieldsToUpdate) ∧
      (¬r.IsIdle → ¬q.IsIdle → ∃ a b, r.compile .parameterized = .ok a ∧
        q.compile .parameterized = .ok b ∧ (a = b ↔ r.write? = q.write?) ∧
        (a.sql = b.sql → r.operation = q.operation)) := by
  refine ⟨fun hi => hr.compile_of_isIdle hi _, fun hri hqi => ?_⟩
  obtain ⟨w, hw, hplain, hop⟩ := hr.exists_write
  obtain ⟨v, hv, hplain', hop'⟩ := hq.exists_write
  obtain ⟨a, ha, htext, hparams⟩ := hr.compile_eq_ok hri hw
  obtain ⟨b, hb, htext', hparams'⟩ := hq.compile_eq_ok hqi hv
  have hsame (h : a.sql = b.sql) : w.text = v.text := by rw [← htext, ← htext', h]
  refine ⟨a, b, ha, hb, ?_, ?_⟩
  · rw [hw, hv, Option.some.injEq]
    constructor
    · rintro rfl
      exact Write.eq_of_text_eq hplain hplain' (hsame rfl) (hparams.symm.trans hparams')
    · rintro rfl
      obtain ⟨sql, params⟩ := a
      obtain ⟨sql', params'⟩ := b
      rw [Statement.mk.injEq, ← String.toList_inj]
      exact ⟨htext.trans htext'.symm, hparams.trans hparams'.symm⟩
  · intro h
    rw [← hop, ← hop', Write.operation_eq_of_text_eq (hsame h)]

/-- A column that was a document is written like its text, and a value that is compared is not.
The names spell the keywords around them. -/
theorem compile_eq_of_converted_column :
    let conditions (v : Value) : Option Filter :=
      some (.fields (OrderedMap.ofList [("where", .oneOf [.null]), ("set", .equals v)]))
    let changes (v : Value) : Record := OrderedMap.ofList [("where", v), ("and", .int 1)]
    let r : Request := .update "set" (changes (.json (.array []))) (conditions (.text "[]"))
    let q : Request := .update "set" (changes (.text "[]")) (conditions (.text "[]"))
    let u : Request := .update "set" (changes (.text "[]")) (conditions (.json (.array [])))
    r.PlainWrite ∧ q.PlainWrite ∧ u.PlainWrite ∧ ¬r.IsIdle ∧ ¬q.IsIdle ∧ ¬u.IsIdle ∧
      (∃ a, r.compile .parameterized = .ok a ∧ q.compile .parameterized = .ok a) ∧
      (∃ a b, r.compile .parameterized = .ok a ∧ u.compile .parameterized = .ok b ∧ a ≠ b) := by
  intro conditions changes r q u
  have hwhere : IsName "where" := by decide
  have hset : IsName "set" := by decide
  have hand : IsName "and" := by decide
  have hcolumns (v : Value) : ∀ column ∈ (changes v).keys, IsName column := by
    intro column hc
    rcases List.mem_pair.1 hc with rfl | rfl
    · exact hwhere
    · exact hand
  have hfilter (v : Value) : PlainFilter (conditions v) := by
    rintro _ ⟨⟩
    refine ⟨_, rfl, ?_⟩
    intro field hf
    rcases List.mem_pair.1 hf with rfl | rfl
    · exact hwhere
    · exact hset
  have hplain (v w : Value) : PlainWrite (.update "set" (changes v) (conditions w)) :=
    ⟨hset, hcolumns v, hfilter w⟩
  have hidle (v w : Value) : ¬IsIdle (.update "set" (changes v) (conditions w)) :=
    Bool.false_ne_true
  have hrq : r.write? = q.write? := rfl
  have hru : r.write? ≠ u.write? := by decide
  obtain ⟨-, hsame⟩ := compile_eq_iff_write_eq (hplain (.json (.array [])) (.text "[]"))
    (hplain (.text "[]") (.text "[]"))
  obtain ⟨-, hother⟩ := compile_eq_iff_write_eq (hplain (.json (.array [])) (.text "[]"))
    (hplain (.text "[]") (.json (.array [])))
  obtain ⟨a, b, ha, hb, hab, -⟩ := hsame (hidle _ _) (hidle _ _)
  obtain ⟨c, d, hc, hd, hcd, -⟩ := hother (hidle _ _) (hidle _ _)
  have he : a = b := hab.2 hrq
  subst he
  exact ⟨hplain _ _, hplain _ _, hplain _ _, hidle _ _, hidle _ _, hidle _ _, ⟨a, ha, hb⟩,
    ⟨c, d, hc, hd, fun h => hru (hcd.1 h)⟩⟩

end Request

end Querysmith
