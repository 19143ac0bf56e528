import Querysmith.Proofs.Binding
import Querysmith.Proofs.Shape

namespace Querysmith

def markCount (text : String) : Nat :=
  text.toList.count '?'

def marksIn : List String → Nat
  | [] => 0
  | text :: texts => markCount text + marksIn texts

theorem markCount_append (s t : String) : markCount (s ++ t) = markCount s + markCount t := by
  rw [markCount, String.toList_append, List.count_append, markCount, markCount]

theorem marksIn_nil : marksIn [] = 0 := rfl

theorem marksIn_cons (text : String) (texts : List String) :
    marksIn (text :: texts) = markCount text + marksIn texts := rfl

theorem marksIn_append (texts more : List String) :
    marksIn (texts ++ more) = marksIn texts + marksIn more := by
  induction texts with
  | nil => rw [List.nil_append, marksIn_nil, Nat.zero_add]
  | cons text texts ih => rw [List.cons_append, marksIn_cons, ih, marksIn_cons, Nat.add_assoc]

theorem markCount_intercalate {separator : String} (h : markCount separator = 0)
    (texts : List String) : markCount (separator.intercalate texts) = marksIn texts := by
  induction texts with
  | nil => rfl
  | cons text texts ih =>
      cases texts with
      | nil => rw [String.intercalate_singleton, marksIn_cons, marksIn_nil, Nat.add_zero]
      | cons next texts =>
          rw [String.intercalate_cons_cons, markCount_append, markCount_append, h, ih,
            marksIn_cons text, Nat.add_zero]

theorem markCount_marks {separator : String} (h : markCount separator = 0) (n : Nat) :
    markCount (marks separator n) = n := by
  have hone : markCount "?" = 1 := by decide
  rw [marks, markCount_intercalate h]
  induction n with
  | zero => rfl
  | succ n ih => rw [List.replicate_succ, marksIn_cons, hone, ih, Nat.add_comm]

theorem markCount_listItem (quotes : Bool) (v : Value) :
    markCount (listItem quotes v) = markCount v.literal := by
  have hquote : markCount "\"" = 0 := by decide
  rw [listItem]
  split
  · rw [markCount_append, markCount_append, hquote, Nat.zero_add, Nat.add_zero]
  · rfl

theorem markCount_literalList (vs : List Value) :
    markCount (literalList vs) = marksIn (vs.map Value.literal) := by
  rw [literalList, markCount_intercalate (by decide)]
  -- whether a list quotes depends on all its members, and the induction is on the items alone
  generalize quotesList vs = quotes
  induction vs with
  | nil => rfl
  | cons v vs ih =>
      rw [List.map_cons, marksIn_cons, markCount_listItem, ih, List.map_cons, marksIn_cons]

namespace Condition

def isScalar : Condition → Bool
  | equals _ => true
  | oneOf _ => false

def members : Condition → List Value
  | equals _ => []
  | oneOf vs => vs

def writtenMembers (mode : ListMode) (c : Condition) : List Value :=
  match mode with
  | .inline => c.members
  | .parameterized => []

def boundMembers (mode : ListMode) (c : Condition) : List Value :=
  match mode with
  | .inline => []
  | .parameterized => c.members

theorem length_params (mode : ListMode) (c : Condition) :
    (c.params mode).length = (if c.isScalar then 1 else 0) + (c.boundMembers mode).length := by
  cases c with
  | equals v => cases mode <;> rfl
  | oneOf vs =>
      cases mode with
      | inline => rfl
      | parameterized => exact (Nat.zero_add vs.length).symm

theorem markCount_text (mode : ListMode) (field : String) (c : Condition) :
    markCount (c.text mode field) = (c.params mode).length + markCount field +
      marksIn ((c.writtenMembers mode).map Value.literal) := by
  cases c with
  | equals v =>
      have hplace : markCount " = ?" = 1 := by decide
      have hwritten : (equals v).writtenMembers mode = [] := by cases mode <;> rfl
      rw [text, markCount_append, hplace, hwritten, List.map_nil, marksIn_nil, Nat.add_comm]
      rfl
  | oneOf vs =>
      have hopen : markCount " IN (" = 0 := by decide
      have hclose : markCount ")" = 0 := by decide
      cases mode with
      | inline =>
          simp only [text, markCount_append, hopen, hclose, markCount_literalList, params,
            writtenMembers, members, List.length_nil]
          omega
      | parameterized =>
          have hcomma : markCount "," = 0 := by decide
          simp only [text, markCount_append, hopen, hclose, markCount_marks hcomma, params,
            writtenMembers, List.map_nil, marksIn_nil]
          omega

end Condition

namespace Conditions

def scalarCount (m : Conditions) : Nat :=
  m.values.countP Condition.isScalar

def writtenMembers (mode : ListMode) (m : Conditions) : List Value :=
  m.values.flatMap (Condition.writtenMembers mode)

def boundMembers (mode : ListMode) (m : Conditions) : List Value :=
  m.values.flatMap (Condition.boundMembers mode)

theorem length_params (mode : ListMode) (es : List (String × Condition)) :
    (params mode es).length = (es.map Prod.snd).countP Condition.isScalar +
      ((es.map Prod.snd).flatMap (Condition.boundMembers mode)).length := by
  induction es with
  | nil => rfl
  | cons e es ih =>
      rw [params, List.flatMap_cons, List.length_append, Condition.length_params]
      rw [params] at ih
      rw [ih, List.map_cons, List.countP_cons, List.flatMap_cons, List.length_append]
      omega

theorem marksIn_texts (mode : ListMode) (es : List (String × Condition)) :
    marksIn (texts mode es) = (params mode es).length + marksIn (es.map Prod.fst) +
      marksIn (((es.map Prod.snd).flatMap (Condition.writtenMembers mode)).map Value.literal) := by
  induction es with
  | nil => rfl
  | cons e es ih =>
      rw [texts, params] at ih
      rw [texts, List.map_cons, marksIn_cons, Condition.markCount_text, ih, params,
        List.flatMap_cons, List.length_append, List.map_cons, marksIn_cons, List.map_cons,
        List.flatMap_cons, List.map_append, marksIn_append]
      omega

theorem markCount_fragment (mode : ListMode) (m : Conditions) :
    markCount (fragment mode m).text = (fragment mode m).params.length + marksIn m.keys +
      marksIn ((m.writtenMembers mode).map Value.literal) := by
  have hand : markCount " and " = 0 := by decide
  have hwhere : markCount " where " = 0 := by decide
  have htexts := marksIn_texts mode m.entries
  rw [text_fragment, params_fragment]
  split
  · rename_i he
    rw [OrderedMap.keys, writtenMembers, OrderedMap.values, he]
    rfl
  · rw [markCount_append, hwhere, markCount_intercalate hand, Nat.zero_add]
    exact htexts

theorem length_params_fragment (mode : ListMode) (m : Conditions) :
    (fragment mode m).params.length = m.scalarCount + (m.boundMembers mode).length := by
  rw [params_fragment]
  exact length_params mode m.entries

end Conditions

theorem Filter.markCount_clause (mode : ListMode) {text : String} (h : text ≠ "")
    (params : List Value) :
    markCount ((Filter.clause text params).fragment mode).text = markCount text ∧
      ((Filter.clause text params).fragment mode).params = params := by
  have hwhere : markCount " where " = 0 := by decide
  rw [fragment, if_neg h]
  exact ⟨by rw [markCount_append, hwhere, Nat.zero_add], rfl⟩

theorem markCount_table (table : String) : markCount ((safeName? table).getD "") = 0 :=
  List.count_eq_zero.2 (mark_not_mem_table table)

theorem markCount_safeName {table name : String} (h : safeName? table = some name) :
    markCount name = 0 := by
  have ht := markCount_table table
  rwa [h] at ht

theorem Record.markCount_assignments (r : Record) :
    markCount r.assignments = r.size + marksIn r.keys := by
  have hplace : markCount " = ?" = 1 := by decide
  have hsize : r.size = r.keys.length := (List.length_map _).symm
  rw [assignments, markCount_intercalate (by decide), hsize]
  induction r.keys with
  | nil => rfl
  | cons column columns ih =>
      rw [List.map_cons, marksIn_cons, markCount_append, hplace, ih, marksIn_cons,
        List.length_cons]
      omega

namespace Selection

theorem markCount_orderText (s : Selection) :
    markCount s.orderText = markCount (s.order.getD "") := by
  have horder : markCount " order by " = 0 := by decide
  rw [orderText]
  cases s.order with
  | none => rfl
  | some o =>
      change markCount (if o = "" then "" else _) = markCount o
      split
      · rename_i he
        rw [he]
      · rw [markCount_append, horder, Nat.zero_add]

theorem markCount_countText (keyword : String) (h : markCount keyword = 0) (n : Option UInt64) :
    markCount (countText keyword n) = 0 :=
  List.count_eq_zero.2 (mark_not_mem_countText keyword (List.count_eq_zero.1 h) n)

end Selection

namespace Request

def width : Request → Nat
  | insert _ record => record.size
  | update _ changes _ => changes.size
  | select _ | delete _ _ => 0

/-- The texts, beside the filter, that stand in the statement as they are. -/
def takenTexts : Request → List String
  | select (.sql text) => [text]
  | select (.selection s) => [s.fieldsText, s.order.getD ""]
  | insert _ record => record.keys
  | update _ changes _ => changes.keys
  | delete _ _ => []

variable {mode : ListMode} {s : Statement}

/-- The account of a statement: its marks and its parameters, those of the filter apart. -/
structure Accounts (mode : ListMode) (r : Request) (s : Statement) : Prop where
  marks : s.placeholderCount =
    r.width + marksIn r.takenTexts + markCount (filterFragment mode r.filter?).text
  params : s.params.length = r.width + (filterFragment mode r.filter?).params.length

theorem accounts_selection {x : Selection} (compiled : x.compile mode = .ok s) :
    Accounts mode (select (.selection x)) s := by
  obtain ⟨name, ht, rfl⟩ := Selection.compile_eq_ok_iff.1 compiled
  have hselect : markCount "select " = 0 := by decide
  have hfrom : markCount " from " = 0 := by decide
  have hlimit := Selection.markCount_countText " limit " (by decide) x.limit
  have hoffset := Selection.markCount_countText " offset " (by decide) x.offset
  constructor
  · change markCount (x.sqlText name (filterFragment mode x.filter)) = _
    unfold Selection.sqlText
    simp only [markCount_append, hselect, hfrom, hlimit, hoffset, markCount_safeName ht,
      Selection.markCount_orderText, width, takenTexts, marksIn_cons, marksIn_nil, filter?]
    omega
  · exact (Nat.zero_add _).symm

theorem accounts_insert (table : String) (record : Record) :
    Accounts mode (insert table record) (Statement.insert table record) := by
  constructor
  · have hopen : markCount "insert into " = 0 := by decide
    have hcolumns : markCount " (" = 0 := by decide
    have hvalues : markCount ") values (" = 0 := by decide
    have hclose : markCount ")" = 0 := by decide
    have hcomma : markCount ", " = 0 := by decide
    have hnone : markCount "" = 0 := by decide
    change markCount (Statement.insert table record).sql = _
    rw [Statement.sql_insert]
    simp only [markCount_append, hopen, hcolumns, hvalues, hclose, markCount_table,
      markCount_intercalate hcomma, markCount_marks hcomma, width, takenTexts, filter?,
      filterFragment, Fragment.empty, hnone]
    omega
  · exact Record.length_bindables record

theorem accounts_update {table : String} {changes : Record} {filter : Option Filter}
    (compiled : Statement.update mode table changes filter = .ok s) :
    Accounts mode (update table changes filter) s := by
  obtain ⟨name, ht, -, rfl⟩ := Statement.update_eq_ok_iff.1 compiled
  have hupdate : markCount "update " = 0 := by decide
  have hset : markCount " set " = 0 := by decide
  constructor
  · change markCount _ = _
    simp only [markCount_append, hupdate, hset, markCount_safeName ht,
      Record.markCount_assignments, width, takenTexts, filter?]
    omega
  · simp only [List.length_append, Record.length_bindables, width, filter?]

theorem accounts_delete {table : String} {filter : Option Filter}
    (compiled : Statement.delete mode table filter = .ok s) :
    Accounts mode (delete table filter) s := by
  obtain ⟨name, ht, rfl⟩ := Statement.delete_eq_ok_iff.1 compiled
  have hdelete : markCount "delete from " = 0 := by decide
  constructor
  · change markCount _ = _
    simp only [markCount_append, hdelete, markCount_safeName ht, width, takenTexts, marksIn_nil,
      filter?]
  · exact (Nat.zero_add _).symm

theorem accounts_of_compile {r : Request} (compiled : r.compile mode = .ok s) :
    Accounts mode r s := by
  cases r with
  | select query =>
      cases query with
      | sql text =>
          obtain rfl := Except.ok.inj compiled
          have hnone : markCount "" = 0 := by decide
          refine ⟨?_, rfl⟩
          change markCount text = _
          simp only [width, takenTexts, marksIn_cons, marksIn_nil, filter?, filterFragment,
            Fragment.empty, hnone]
          omega
      | selection x => exact accounts_selection compiled
  | insert table record =>
      obtain rfl := Except.ok.inj compiled
      exact accounts_insert table record
  | update table changes filter => exact accounts_update compiled
  | delete table filter => exact accounts_delete compiled

/-- Nothing is assumed about names and values. A condition adds a mark for each value it binds,
those of its field's name and those of the members that it writes out; a clause adds its own,
whatever its parameters are. Beside the filter a statement has a mark for each column that it
writes, and the marks of the names and texts that it takes over, but none from the name of its
table. -/
theorem placeholderCount_eq_sum :
    (∀ (mode : ListMode) (m : Conditions),
      markCount (filterFragment mode (some (.fields m))).text =
          (filterFragment mode (some (.fields m))).params.length + marksIn m.keys +
            marksIn ((m.writtenMembers mode).map Value.literal) ∧
        (filterFragment mode (some (.fields m))).params.length =
          m.scalarCount + (m.boundMembers mode).length) ∧
    (∀ (mode : ListMode) (text : String) (params : List Value), text ≠ "" →
      markCount (filterFragment mode (some (.clause text params))).text = markCount text ∧
        (filterFragment mode (some (.clause text params))).params = params) ∧
    (∀ (mode : ListMode) (r : Request) (s : Statement), r.compile mode = .ok s →
      s.placeholderCount =
          r.width + marksIn r.takenTexts + markCount (filterFragment mode r.filter?).text ∧
        s.params.length = r.width + (filterFragment mode r.filter?).params.length) ∧
    ∀ table, markCount ((safeName? table).getD "") = 0 := by
  refine ⟨fun mode m => ?_, fun mode text params h => ?_, fun mode r s compiled => ?_,
    markCount_table⟩
  · exact ⟨m.markCount_fragment mode, m.length_params_fragment mode⟩
  · exact Filter.markCount_clause mode h params
  · obtain ⟨hmarks, hparams⟩ := accounts_of_compile compiled
    exact ⟨hmarks, hparams⟩

/-- Three values are bound, and eight question marks ask for one; a clause asks for two and brings
none. -/
theorem placeholderCount_of_marked_names :
    let m : Conditions := OrderedMap.ofList
      [("c?d?", .equals (.text "??")), ("e", .oneOf [.text "x?", .json (.string "?")])]
    let r : Request := .update "users?; --" (OrderedMap.ofList [("a?", .text "?"), ("b", .null)])
      (some (.fields m))
    let f : Filter := .clause "a = ? or b = '?'" []
    (∃ s, r.compile .inline = .ok s ∧
      s.sql = "update users set a? = ?, b = ? where c?d? = ? and e IN (\"x?\",\"\"?\"\")" ∧
      s.placeholderCount = 8 ∧ s.params.length = 3) ∧
    markCount (filterFragment .parameterized (some f)).text = 2 ∧
      (filterFragment .parameterized (some f)).params = [] := by
  intro m r f
  obtain ⟨-, hclause, hrequest, -⟩ := placeholderCount_eq_sum
  obtain ⟨hmarks, hparams⟩ := hrequest .inline r _ rfl
  obtain ⟨hclauseMarks, hclauseParams⟩ :=
    hclause .parameterized "a = ? or b = '?'" [] (by decide)
  refine ⟨⟨_, rfl, by decide +kernel, ?_, ?_⟩, ?_, hclauseParams⟩
  · rw [hmarks]
    decide +kernel
  · rw [hparams]
    decide +kernel
  · rw [hclauseMarks]
    decide

end Request

end Querysmith
