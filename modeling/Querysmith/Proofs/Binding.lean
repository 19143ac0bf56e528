import Querysmith.Compilation

namespace Querysmith

inductive Piece where
  | char (c : Char)
  | value (v : Value)
deriving DecidableEq

/-- The k-th question mark gives way to the k-th value; a mark without a value stays. -/
def bindValues : List Char → List Value → List Piece
  | [], _ => []
  | c :: cs, [] => .char c :: bindValues cs []
  | c :: cs, v :: vs =>
      if c = '?' then .value v :: bindValues cs vs else .char c :: bindValues cs (v :: vs)

def Statement.bound (s : Statement) : List Piece :=
  bindValues s.sql.toList s.params

def written (s : String) : List Piece :=
  s.toList.map .char

def joined (separator : String) (items : List (List Piece)) : List Piece :=
  (written separator).intercalate items

namespace Condition

/-- The field with its own values. -/
def reference (mode : ListMode) (field : String) : Condition → List Piece
  | equals v => written (field ++ " = ") ++ [.value v]
  | oneOf vs =>
      written (field ++ " IN (") ++
        (match mode with
          | .inline => written (literalList vs)
          | .parameterized => joined "," (vs.map fun v => [.value v])) ++ written ")"

/-- No question mark but those for values. -/
def Clean (mode : ListMode) (field : String) (c : Condition) : Prop :=
  '?' ∉ field.toList ∧
    (mode = .inline → ∀ vs, c = oneOf vs → ∀ v ∈ vs, '?' ∉ v.literal.toList)

end Condition

namespace Filter

def reference (mode : ListMode) : Filter → List Piece
  | fields m =>
      if m.entries = [] then []
      else written " where " ++ joined " and " (m.entries.map fun e => e.2.reference mode e.1)
  | clause text params =>
      if text = "" then [] else written " where " ++ bindValues text.toList params

def Clean (mode : ListMode) : Filter → Prop
  | fields m => ∀ e ∈ m.entries, e.2.Clean mode e.1
  | clause _ _ => True

/-- Nothing else checks the parameters of a clause. -/
def Balanced : Filter → Prop
  | fields _ => True
  | clause text params => text = "" ∨ text.toList.count '?' = params.length

end Filter

namespace Record

def assignmentReference (r : Record) : List Piece :=
  joined ", " (r.entries.map fun e => written (e.1 ++ " = ") ++ [.value e.2.bindable])

def insertReference (table : String) (r : Record) : List Piece :=
  written ("insert into " ++ table ++ " (") ++ joined ", " (r.entries.map fun e => written e.1) ++
    written ") values (" ++ joined ", " (r.entries.map fun e => [.value e.2.bindable]) ++
    written ")"

def Clean (r : Record) : Prop :=
  ∀ column ∈ r.keys, '?' ∉ column.toList

end Record

namespace Request

def filter? : Request → Option Filter
  | select (.sql _) | insert _ _ => none
  | select (.selection s) => s.filter
  | update _ _ filter | delete _ filter => filter

def writtenValues : Request → List Value
  | insert _ record => record.bindables
  | update _ changes _ => changes.bindables
  | select _ | delete _ _ => []

def filterReference (mode : ListMode) (r : Request) : List Piece :=
  match r.filter? with
  | none => []
  | some f => f.reference mode

def reference (mode : ListMode) (r : Request) : List Piece :=
  match r with
  | select (.sql text) => written text
  | select (.selection s) =>
      written ("select " ++ s.fieldsText ++ " from " ++ (safeName? s.table).getD "") ++
        r.filterReference mode ++
        written (s.orderText ++ Selection.countText " limit " s.limit ++
          Selection.countText " offset " s.offset)
  | insert table record => record.insertReference ((safeName? table).getD "")
  | update table changes _ =>
      written ("update " ++ (safeName? table).getD "" ++ " set ") ++ changes.assignmentReference ++
        r.filterReference mode
  | delete table _ =>
      written ("delete from " ++ (safeName? table).getD "") ++ r.filterReference mode

def Clean (mode : ListMode) (r : Request) : Prop :=
  (∀ f, r.filter? = some f → f.Clean mode) ∧
    match r with
    | select (.sql text) => '?' ∉ text.toList
    | select (.selection s) => '?' ∉ s.fieldsText.toList ∧ ∀ o, s.order = some o → '?' ∉ o.toList
    | insert _ record => record.Clean
    | update _ changes _ => changes.Clean
    | delete _ _ => True

end Request

theorem mark_not_mem_name {c : Char} (h : isNameChar c = true) : c ≠ '?' := by
  rintro rfl
  exact absurd h (by decide)

/-- As many question marks as values, and what they make together. Pieces of text with their own
values keep this when they are put side by side. -/
structure Binds (text : List Char) (values : List Value) (pieces : List Piece) : Prop where
  count : text.count '?' = values.length
  bound : bindValues text values = pieces

theorem bindValues_nil_values (text : List Char) : bindValues text [] = text.map .char := by
  induction text with
  | nil => rfl
  | cons c text ih => rw [bindValues, ih, List.map_cons]

theorem bindValues_append (text rest : List Char) (values more : List Value)
    (h : text.count '?' = values.length) :
    bindValues (text ++ rest) (values ++ more) =
      bindValues text values ++ bindValues rest more := by
  induction text generalizing values with
  | nil =>
      have hv : values = [] := List.length_eq_zero_iff.1 h.symm
      subst hv
      rfl
  | cons c text ih =>
      by_cases hc : c = '?'
      · subst hc
        cases values with
        | nil => simp at h
        | cons v values =>
            have ht : text.count '?' = values.length := by simpa using h
            simp only [List.cons_append, bindValues, if_true, ih values ht]
      · have ht : text.count '?' = values.length := by simpa [List.count_cons, hc] using h
        have hm := ih values ht
        cases values with
        | nil =>
            cases more with
            | nil => simpa [bindValues] using hm
            | cons v more => simpa [bindValues, hc] using hm
        | cons v values => simpa [bindValues, hc] using hm

/-- A text without question marks that follows takes no value, however many are left. -/
theorem bindValues_append_plain (text rest : List Char) (values : List Value) (h : '?' ∉ rest) :
    bindValues (text ++ rest) values = bindValues text values ++ rest.map .char := by
  have hr : ∀ vs, bindValues rest vs = rest.map .char := by
    induction rest with
    | nil => intro vs; cases vs <;> rfl
    | cons c rest ih =>
        simp only [List.mem_cons, not_or] at h
        obtain ⟨hc, hr⟩ := h
        intro vs
        cases vs with
        | nil => exact bindValues_nil_values _
        | cons v vs => rw [bindValues, if_neg (Ne.symm hc), ih hr, List.map_cons]
  induction text generalizing values with
  | nil =>
      rw [List.nil_append, hr]
      cases values <;> rfl
  | cons c text ih =>
      cases values with
      | nil => simp only [bindValues_nil_values, List.map_append]
      | cons v values =>
          by_cases hc : c = '?'
          · simp only [List.cons_append, bindValues, hc, if_true, ih]
          · simp only [List.cons_append, bindValues, hc, if_false, ih]

namespace Binds

theorem nil : Binds [] [] [] := ⟨rfl, rfl⟩

theorem plain {text : List Char} (h : '?' ∉ text) : Binds text [] (text.map .char) :=
  ⟨List.count_eq_zero.2 h, bindValues_nil_values text⟩

theorem mark (v : Value) : Binds ['?'] [v] [.value v] := ⟨by simp, by simp [bindValues]⟩

theorem append {text rest : List Char} {values more : List Value} {pieces later : List Piece}
    (h : Binds text values pieces) (h' : Binds rest more later) :
    Binds (text ++ rest) (values ++ more) (pieces ++ later) := by
  constructor
  · rw [List.count_append, h.count, h'.count, List.length_append]
  · rw [bindValues_append text rest values more h.count, h.bound, h'.bound]

theorem joined {α : Type} (separator : String) (clean : '?' ∉ separator.toList)
    {text : α → List Char} {values : α → List Value} {pieces : α → List Piece} (xs : List α)
    (h : ∀ x ∈ xs, Binds (text x) (values x) (pieces x)) :
    Binds (separator.toList.intercalate (xs.map text)) (xs.flatMap values)
      (Querysmith.joined separator (xs.map pieces)) := by
  induction xs with
  | nil => exact nil
  | cons x xs ih =>
      have hx := h x List.mem_cons_self
      cases xs with
      | nil => simpa [Querysmith.joined] using hx
      | cons y ys =>
          have hrest := ih fun z hz => h z (List.mem_cons_of_mem x hz)
          have hall := (hx.append (plain clean)).append hrest
          simpa [Querysmith.joined, written] using hall

theorem marks {α : Type} (separator : String) (clean : '?' ∉ separator.toList)
    (value : α → Value) (xs : List α) :
    Binds (Querysmith.marks separator xs.length).toList (xs.map value)
      (Querysmith.joined separator (xs.map fun x => [.value (value x)])) := by
  have h := joined separator clean xs fun x _ => mark (value x)
  rwa [toList_marks, ← List.flatMap_singleton' (l := xs.map value), List.flatMap_map]

theorem texts {α : Type} (separator : String) (clean : '?' ∉ separator.toList)
    {text : α → String} (xs : List α) (h : ∀ x ∈ xs, '?' ∉ (text x).toList) :
    Binds (separator.intercalate (xs.map text)).toList []
      (Querysmith.joined separator (xs.map fun x => written (text x))) := by
  have hj := joined separator clean xs fun x hx => plain (h x hx)
  have hv : (xs.flatMap fun _ => ([] : List Value)) = [] := List.flatMap_eq_nil_iff.2 fun _ _ => rfl
  rw [hv] at hj
  rwa [String.toList_intercalate, List.map_map]

end Binds

theorem mark_not_mem_joined {α : Type} {separator : String} (clean : '?' ∉ separator.toList)
    {text : α → String} (xs : List α) (h : ∀ x ∈ xs, '?' ∉ (text x).toList) :
    '?' ∉ (separator.intercalate (xs.map text)).toList :=
  List.count_eq_zero.1 (Binds.texts separator clean xs h).count

theorem mark_not_mem_literalList {vs : List Value} (h : ∀ v ∈ vs, '?' ∉ v.literal.toList) :
    '?' ∉ (literalList vs).toList := by
  refine mark_not_mem_joined (by decide) vs fun v hv => ?_
  rw [listItem]
  split
  · simpa using h v hv
  · exact h v hv

theorem Condition.binds {mode : ListMode} {field : String} {c : Condition}
    (clean : c.Clean mode field) :
    Binds (c.text mode field).toList (c.params mode) (c.reference mode field) := by
  obtain ⟨hf, hl⟩ := clean
  cases c with
  | equals v =>
      have hn : '?' ∉ (field ++ " = ").toList := by simpa using hf
      have h := (Binds.plain hn).append (Binds.mark v)
      simpa [text, params, reference, written] using h
  | oneOf vs =>
      have hn : '?' ∉ (field ++ " IN (").toList := by simpa using hf
      have hc : '?' ∉ ")".toList := by decide
      cases mode with
      | inline =>
          have hm := mark_not_mem_literalList (hl rfl vs rfl)
          have h := ((Binds.plain hn).append (Binds.plain hm)).append (Binds.plain hc)
          simpa [text, params, reference, written] using h
      | parameterized =>
          have hm := Binds.marks "," (by decide) id vs
          have h := ((Binds.plain hn).append hm).append (Binds.plain hc)
          simpa [text, params, reference, written] using h

theorem Filter.binds {mode : ListMode} {m : Conditions} (clean : (Filter.fields m).Clean mode) :
    Binds (Conditions.fragment mode m).text.toList (Conditions.fragment mode m).params
      ((Filter.fields m).reference mode) := by
  cases he : m.entries with
  | nil => simpa [Conditions.fragment, Filter.reference, he, Fragment.empty] using Binds.nil
  | cons e es =>
      have hw : '?' ∉ " where ".toList := by decide
      have hj := Binds.joined " and " (by decide) m.entries
        fun e he => Condition.binds (clean e he)
      have h := (Binds.plain hw).append hj
      rw [he] at h
      simpa [Conditions.fragment, Conditions.texts, Conditions.params, Filter.reference, he,
        written, List.map_map, Function.comp_def] using h

theorem Filter.bound_fragment {mode : ListMode} {f : Filter} (clean : f.Clean mode) :
    bindValues (f.fragment mode).text.toList (f.fragment mode).params = f.reference mode := by
  cases f with
  | fields m => exact (Filter.binds clean).bound
  | clause text params =>
      rw [Filter.fragment, Filter.reference]
      split
      · rfl
      · have hw : '?' ∉ " where ".toList := by decide
        have h := bindValues_append " where ".toList text.toList [] params
          (Binds.plain hw).count
        rw [(Binds.plain hw).bound] at h
        simpa [written] using h

theorem Filter.count_fragment {mode : ListMode} {f : Filter} (clean : f.Clean mode) :
    (f.fragment mode).text.toList.count '?' = (f.fragment mode).params.length ↔ f.Balanced := by
  cases f with
  | fields m => exact ⟨fun _ => trivial, fun _ => (Filter.binds clean).count⟩
  | clause text params =>
      by_cases ht : text = ""
      · simp [Filter.fragment, Filter.Balanced, ht, Fragment.empty]
      · simp [Filter.fragment, Filter.Balanced, ht]

namespace Record

theorem binds_assignments {r : Record} (clean : r.Clean) :
    Binds r.assignments.toList r.bindables r.assignmentReference := by
  have he (e : String × Value) (hm : e ∈ r.entries) :
      Binds ((e.1 ++ " = ").toList ++ ['?']) [e.2.bindable]
        (written (e.1 ++ " = ") ++ [.value e.2.bindable]) := by
    have hk : '?' ∉ e.1.toList := clean e.1 (List.mem_map_of_mem hm)
    have hn : '?' ∉ (e.1 ++ " = ").toList := by simpa using hk
    exact (Binds.plain hn).append (Binds.mark e.2.bindable)
  have h := Binds.joined ", " (by decide) r.entries he
  have ht : r.assignments.toList =
      ", ".toList.intercalate (r.entries.map fun e => (e.1 ++ " = ").toList ++ ['?']) := by
    simp [assignments, OrderedMap.keys, Function.comp_def]
  have hv : r.bindables = r.entries.flatMap fun e => [e.2.bindable] := by
    simp [bindables, OrderedMap.values, ← List.map_eq_flatMap]
  rw [ht, hv]
  exact h

theorem binds_columns {r : Record} (clean : r.Clean) :
    Binds (", ".intercalate r.keys).toList []
      (joined ", " (r.entries.map fun e => written e.1)) := by
  have h := Binds.texts ", " (by decide) r.entries
    fun e he => clean e.1 (List.mem_map_of_mem he)
  simpa only [OrderedMap.keys] using h

theorem binds_places (r : Record) :
    Binds (marks ", " r.size).toList r.bindables
      (joined ", " (r.entries.map fun e => [.value e.2.bindable])) := by
  have h := Binds.marks ", " (by decide) (fun e : String × Value => e.2.bindable)
    r.entries
  simpa [OrderedMap.size, bindables, OrderedMap.values, Function.comp_def] using h

theorem binds_insert {r : Record} (clean : r.Clean) {table : String} (ht : '?' ∉ table.toList) :
    Binds ("insert into " ++ table ++ " (" ++ ", ".intercalate r.keys ++ ") values (" ++
      marks ", " r.size ++ ")").toList r.bindables (r.insertReference table) := by
  have hopen : '?' ∉ ("insert into " ++ table ++ " (").toList := by simpa using ht
  have hmiddle : '?' ∉ ") values (".toList := by decide
  have hclose : '?' ∉ ")".toList := by decide
  have h := ((((Binds.plain hopen).append (binds_columns clean)).append
    (Binds.plain hmiddle)).append (binds_places r)).append (Binds.plain hclose)
  simp only [← String.toList_append, List.nil_append, List.append_nil] at h
  exact h

end Record

theorem mark_not_mem_table (table : String) : '?' ∉ ((safeName? table).getD "").toList := by
  cases h : safeName? table with
  | none => simp
  | some safe => exact fun hm => mark_not_mem_name (isNameChar_of_safeName? h hm) rfl

theorem mark_not_mem_countText (keyword : String) (h : '?' ∉ keyword.toList) (n : Option UInt64) :
    '?' ∉ (Selection.countText keyword n).toList := by
  cases n with
  | none => simp [Selection.countText]
  | some n =>
      have hd : '?' ∉ Nat.toDigits 10 n.toNat := by
        intro hm
        have hq : '?'.isDigit = true := Nat.isDigit_of_mem_toDigits (by decide) (by decide) hm
        exact absurd hq (by decide)
      rw [Selection.countText]
      split
      · simp
      · simpa using ⟨h, hd⟩

namespace Request

/-- A statement falls into a head with its own values, the filter's fragment with the filter's
values, and a tail without any. -/
structure Frame (mode : ListMode) (r : Request) (s : Statement) (head tail : String)
    (pieces : List Piece) : Prop where
  binds : Binds head.toList r.writtenValues pieces
  plain : '?' ∉ tail.toList
  sql : s.sql = head ++ (filterFragment mode r.filter?).text ++ tail
  params : s.params = r.writtenValues ++ (filterFragment mode r.filter?).params
  reference : r.reference mode = pieces ++ r.filterReference mode ++ written tail

theorem select_frame {mode : ListMode} {s : Selection}
    (clean : (select (.selection s)).Clean mode) {t : Statement}
    (compiled : s.compile mode = .ok t) :
    ∃ head tail pieces, Frame mode (select (.selection s)) t head tail pieces := by
  obtain ⟨-, hf, ho⟩ := clean
  obtain ⟨table, hs, rfl⟩ := Selection.compile_eq_ok_iff.1 compiled
  have ht := mark_not_mem_table s.table
  rw [hs, Option.getD_some] at ht
  have hh : '?' ∉ ("select " ++ s.fieldsText ++ " from " ++ table).toList := by
    simpa using ⟨hf, ht⟩
  have horder : '?' ∉ s.orderText.toList := by
    rw [Selection.orderText]
    split
    · simp
    · rename_i o e
      split
      · simp
      · simpa using ho o e
  refine ⟨_, s.orderText ++ Selection.countText " limit " s.limit ++
    Selection.countText " offset " s.offset, _, ⟨Binds.plain hh, ?_, ?_, rfl, ?_⟩⟩
  · have hl := mark_not_mem_countText " limit " (by decide) s.limit
    have hc := mark_not_mem_countText " offset " (by decide) s.offset
    simpa using ⟨horder, hl, hc⟩
  · change s.sqlText table (filterFragment mode s.filter) =
      _ ++ (filterFragment mode s.filter).text ++ _
    unfold Selection.sqlText
    simp only [String.append_assoc]
  · simp only [reference, hs, Option.getD_some, written]

theorem insert_frame {mode : ListMode} {table : String} {record : Record} (clean : record.Clean) :
    ∃ head tail pieces,
      Frame mode (insert table record) (Statement.insert table record) head tail pieces := by
  refine ⟨(Statement.insert table record).sql, "",
    record.insertReference ((safeName? table).getD ""), ⟨?_, by simp, ?_, ?_, ?_⟩⟩
  · exact Record.binds_insert clean (mark_not_mem_table table)
  · simp [filterFragment, filter?, Fragment.empty]
  · exact (List.append_nil record.bindables).symm
  · simp [reference, filterReference, filter?, written]

theorem update_frame {mode : ListMode} {table : String} {changes : Record} {filter : Option Filter}
    (clean : changes.Clean) {t : Statement}
    (compiled : Statement.update mode table changes filter = .ok t) :
    ∃ head tail pieces, Frame mode (update table changes filter) t head tail pieces := by
  obtain ⟨name, hs, -, rfl⟩ := Statement.update_eq_ok_iff.1 compiled
  have ht := mark_not_mem_table table
  rw [hs, Option.getD_some] at ht
  have hh : '?' ∉ ("update " ++ name ++ " set ").toList := by simpa using ht
  have hb := (Binds.plain hh).append (Record.binds_assignments clean)
  rw [← String.toList_append, List.nil_append] at hb
  refine ⟨_, "", _, ⟨hb, by simp, ?_, rfl, ?_⟩⟩
  · exact String.append_empty.symm
  · simp only [reference, hs, Option.getD_some]
    exact (List.append_nil _).symm

theorem delete_frame {mode : ListMode} {table : String} {filter : Option Filter} {t : Statement}
    (compiled : Statement.delete mode table filter = .ok t) :
    ∃ head tail pieces, Frame mode (delete table filter) t head tail pieces := by
  obtain ⟨name, hs, rfl⟩ := Statement.delete_eq_ok_iff.1 compiled
  have ht := mark_not_mem_table table
  rw [hs, Option.getD_some] at ht
  have hh : '?' ∉ ("delete from " ++ name).toList := by simpa using ht
  refine ⟨_, "", _, ⟨Binds.plain hh, by simp, ?_, rfl, ?_⟩⟩
  · exact String.append_empty.symm
  · simp only [reference, hs, Option.getD_some]
    exact (List.append_nil _).symm

theorem exists_frame {mode : ListMode} {r : Request} (clean : r.Clean mode) {s : Statement}
    (compiled : r.compile mode = .ok s) : ∃ head tail pieces, Frame mode r s head tail pieces := by
  cases r with
  | select query =>
      cases query with
      | sql text =>
          obtain rfl := Except.ok.inj compiled
          refine ⟨text, "", written text, ⟨Binds.plain clean.2, by simp, ?_, rfl, ?_⟩⟩
          · simp [filterFragment, filter?, Fragment.empty]
          · simp [reference, filterReference, filter?, written]
      | selection s => exact select_frame clean compiled
  | insert table record =>
      obtain rfl := Except.ok.inj compiled
      exact insert_frame clean.2
  | update table changes filter => exact update_frame clean.2 compiled
  | delete table filter => exact delete_frame compiled

namespace Frame

variable {mode : ListMode} {r : Request} {s : Statement} {head tail : String} {pieces : List Piece}

theorem bound (h : Frame mode r s head tail pieces) (clean : r.Clean mode) :
    s.bound = r.reference mode := by
  have hf : bindValues (filterFragment mode r.filter?).text.toList
      (filterFragment mode r.filter?).params = r.filterReference mode := by
    cases e : r.filter? with
    | none => simp [filterReference, e, filterFragment, Fragment.empty, bindValues]
    | some f =>
        rw [filterReference, e]
        exact Filter.bound_fragment (clean.1 f e)
  rw [Statement.bound, h.sql, h.params, h.reference, String.toList_append, String.toList_append,
    bindValues_append_plain _ _ _ h.plain, bindValues_append _ _ _ _ h.binds.count, h.binds.bound,
    hf, written]

theorem count (h : Frame mode r s head tail pieces) (clean : r.Clean mode) :
    s.placeholderCount = s.params.length ↔ ∀ f, r.filter? = some f → f.Balanced := by
  have ht : tail.toList.count '?' = 0 := List.count_eq_zero.2 h.plain
  have hc : s.placeholderCount = s.params.length ↔
      (filterFragment mode r.filter?).text.toList.count '?' =
        (filterFragment mode r.filter?).params.length := by
    rw [Statement.placeholderCount, h.sql, h.params, String.toList_append, String.toList_append,
      List.count_append, List.count_append, h.binds.count, ht, List.length_append]
    omega
  rw [hc]
  cases e : r.filter? with
  | none => simp [filterFragment, Fragment.empty]
  | some f =>
      rw [filterFragment, Filter.count_fragment (clean.1 f e)]
      constructor
      · intro hb g hg
        obtain rfl := Option.some.inj hg
        exact hb
      · intro hb
        exact hb f rfl

end Frame

/-- Bound, a statement reads as its request: the columns that are written with their values as they
are bound, then the fields that are compared with their values as they are. A clause is taken over
with its parameters, and only there the number of question marks can be another than that of the
parameters. -/
theorem bound_eq_reference {mode : ListMode} {r : Request} (clean : r.Clean mode) {s : Statement}
    (compiled : r.compile mode = .ok s) :
    s.bound = r.reference mode ∧
      (s.placeholderCount = s.params.length ↔ ∀ f, r.filter? = some f → f.Balanced) ∧
      ∀ text params, r.filter? = some (.clause text params) → text ≠ "" →
        ∃ head tail, s.sql = head ++ (" where " ++ text) ++ tail ∧
          s.params = r.writtenValues ++ params := by
  obtain ⟨head, tail, pieces, h⟩ := exists_frame clean compiled
  refine ⟨h.bound clean, h.count clean, ?_⟩
  intro text params hf ht
  have hfrag : filterFragment mode r.filter? = ⟨" where " ++ text, params⟩ := by
    rw [hf, filterFragment, Filter.fragment, if_neg ht]
  refine ⟨head, tail, ?_, ?_⟩
  · rw [h.sql, hfrag]
  · rw [h.params, hfrag]

/-- A written document is converted, a compared one is not. -/
theorem bound_update_with_members :
    let document : Value := .json (.array [.null])
    let r : Request := .update "users; --"
      (OrderedMap.ofList [("name", .text "Ann?"), ("tags", document)])
      (some (.fields (OrderedMap.ofList
        [("id", .oneOf [.int 4, .text "5"]), ("tags", .equals document)])))
    r.Clean .parameterized ∧ ∃ s, r.compile .parameterized = .ok s ∧
      s.bound = written "update users set name = " ++ [.value (.text "Ann?")] ++
        written ", tags = " ++ [.value (.text "[null]")] ++ written " where id IN (" ++
        [.value (.int 4)] ++ written "," ++ [.value (.text "5")] ++ written ") and tags = " ++
        [.value document] := by
  intro document r
  have clean : r.Clean .parameterized := by
    constructor
    · intro f hf
      obtain rfl := Option.some.inj hf
      simp [Filter.Clean, Condition.Clean, OrderedMap.ofList, OrderedMap.put]
    · change Record.Clean _
      simp [Record.Clean, OrderedMap.keys, OrderedMap.ofList, OrderedMap.put]
  refine ⟨clean, _, rfl, ?_⟩
  rw [(bound_eq_reference clean rfl).1]
  decide +kernel

end Request

end Querysmith
