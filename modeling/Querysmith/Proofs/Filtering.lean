import Querysmith.Compilation

namespace Querysmith

namespace Json

def members : Json → List (String × Json)
  | .object fields => (OrderedMap.ofList fields).entries
  | .null | .bool _ | .number _ | .string _ | .array _ => []

/-- What no filter can be read from. -/
def IsForeign : Json → Prop
  | .bool _ | .number _ | .array _ => True
  | .string s => s ≠ ""
  | .null | .object _ => False

/-- The documents that stand for no filter. -/
def IsUnfiltered (j : Json) : Prop :=
  j = .null ∨ j = .string "" ∨ j = .object []

def HasClause (j : Json) (text : String) : Prop :=
  text ≠ "" ∧ ("clause", .string text) ∈ j.members

/-- Parameters that are no list; to leave them out is the same as to write null. -/
def HasBadParams (j : Json) (got : Json) : Prop :=
  ("params", got) ∈ j.members ∧ got ≠ .null ∧ ∀ items, got ≠ .array items

def HasParams (j : Json) (params : List Value) : Prop :=
  (∃ items, ("params", .array items) ∈ j.members ∧ params = items.map Value.ofJson) ∨
    params = [] ∧ ∀ got, ("params", got) ∈ j.members → got = .null

theorem eq_of_mem_members {j : Json} {key : String} {a b : Json} (ha : (key, a) ∈ j.members)
    (hb : (key, b) ∈ j.members) : a = b := by
  cases j with
  | object fields =>
      have h := OrderedMap.get?_eq_some_iff.2 ha
      rw [OrderedMap.get?_eq_some_iff.2 hb] at h
      exact (Option.some.inj h).symm
  | null | bool | number | string | array => simp [members] at ha

theorem HasClause.unique {j : Json} {text other : String} (h : j.HasClause text)
    (h' : j.HasClause other) : text = other :=
  Json.string.inj (eq_of_mem_members h.2 h'.2)

theorem HasClause.not_isForeign {j : Json} {text : String} (h : j.HasClause text) :
    ¬j.IsForeign := by
  cases j with
  | object fields => exact id
  | null | bool | number | string | array => simp [HasClause, members] at h

end Json

theorem fieldValue?_eq_some_iff {key : String} {fields : List (String × Json)} {j : Json} :
    fieldValue? key fields = some j ↔ (key, j) ∈ (Json.object fields).members :=
  OrderedMap.get?_eq_some_iff

theorem Conditions.entries_ofFields (fields : List (String × Json)) :
    (OrderedMap.ofList (fields.map fun e => (e.1, Condition.ofJson e.2))).entries =
      (Json.object fields).members.map fun e => (e.1, Condition.ofJson e.2) :=
  OrderedMap.entries_ofList_map Condition.ofJson fields

namespace Filter

/-- What a document is read as. -/
inductive Reads (j : Json) : Except FilterFault Filter → Prop where
  | foreign (h : j.IsForeign) : Reads j (.error (.notObject j))
  | badParams {text : String} {got : Json} (h : j.HasClause text) (hp : j.HasBadParams got) :
      Reads j (.error (.paramsNotArray got))
  | clause {text : String} {params : List Value} (h : j.HasClause text) (hp : j.HasParams params) :
      Reads j (.ok (.clause text params))
  | fields {m : Conditions} (hf : ¬j.IsForeign) (hc : ∀ text, ¬j.HasClause text)
      (hm : m.entries = j.members.map fun e => (e.1, Condition.ofJson e.2)) :
      Reads j (.ok (.fields m))

theorem reads_clause {fields : List (String × Json)} {text : String}
    (h : (Json.object fields).HasClause text) :
    Reads (.object fields) ((clauseParams? (fieldValue? "params" fields)).map (.clause text)) := by
  have habsent (hp : ∀ got, fieldValue? "params" fields = some got → got = .null) :
      (Json.object fields).HasParams [] :=
    .inr ⟨rfl, fun got hg => hp got (fieldValue?_eq_some_iff.2 hg)⟩
  cases hp : fieldValue? "params" fields with
  | none => exact .clause h (habsent (by simp [hp]))
  | some got =>
      have hg := fieldValue?_eq_some_iff.1 hp
      cases got with
      | null => exact .clause h (habsent (by simp [hp]))
      | array items => exact .clause h (.inl ⟨items, hg, rfl⟩)
      | bool | number | string | object =>
          exact .badParams h ⟨hg, by rintro ⟨⟩, by rintro _ ⟨⟩⟩

theorem reads_ofJson (j : Json) : Reads j (ofJson j) := by
  have hall {j : Json} (hf : ¬j.IsForeign) (hm : j.members = []) : Reads j (.ok all) :=
    .fields hf (by simp [Json.HasClause, hm]) (by simp [hm])
  have hfields {fields : List (String × Json)}
      (hc : ∀ text, ¬(Json.object fields).HasClause text) :
      Reads (.object fields) (.ok (ofFields fields)) :=
    .fields id hc (Conditions.entries_ofFields fields)
  cases j with
  | null => exact hall id rfl
  | bool b => exact .foreign trivial
  | number n => exact .foreign trivial
  | array items => exact .foreign trivial
  | string s =>
      by_cases hs : s = ""
      · subst hs
        exact hall (fun h => h rfl) rfl
      · rw [ofJson, if_neg hs]
        exact .foreign hs
  | object fields =>
      have hclause {text : String} (h : (Json.object fields).HasClause text) :
          fieldValue? "clause" fields = some (.string text) :=
        fieldValue?_eq_some_iff.2 h.2
      rw [ofJson]
      split
      · rename_i text hc
        split
        · rename_i ht
          refine hfields fun other h => h.1 ?_
          rw [hclause h] at hc
          exact (Json.string.inj (Option.some.inj hc)).trans ht
        · rename_i ht
          exact reads_clause ⟨ht, fieldValue?_eq_some_iff.1 hc⟩
      · rename_i hno
        exact hfields fun text h => hno text (hclause h)

theorem Reads.unique {j : Json} {r r' : Except FilterFault Filter} (h : Reads j r)
    (h' : Reads j r') : r = r' := by
  have hbad {got : Json} {params : List Value} (hb : j.HasBadParams got) (hp : j.HasParams params) :
      False := by
    rcases hp with ⟨items, hi, -⟩ | ⟨-, hn⟩
    · exact hb.2.2 items (Json.eq_of_mem_members hb.1 hi)
    · exact hb.2.1 (hn got hb.1)
  cases h with
  | foreign h =>
      cases h' with
      | foreign h' => rfl
      | badParams h' => exact absurd h h'.not_isForeign
      | clause h' => exact absurd h h'.not_isForeign
      | fields h' => exact absurd h h'
  | badParams h hp =>
      cases h' with
      | foreign h' => exact absurd h' h.not_isForeign
      | badParams h' hp' => rw [Json.eq_of_mem_members hp.1 hp'.1]
      | clause h' hp' => exact (hbad hp hp').elim
      | fields hf hc => exact absurd h (hc _)
  | clause h hp =>
      cases h' with
      | foreign h' => exact absurd h' h.not_isForeign
      | badParams h' hp' => exact (hbad hp' hp).elim
      | clause h' hp' =>
          rw [h.unique h']
          rcases hp with ⟨items, hi, rfl⟩ | ⟨rfl, hn⟩
          · rcases hp' with ⟨items', hi', rfl⟩ | ⟨-, hn'⟩
            · rw [Json.array.inj (Json.eq_of_mem_members hi hi')]
            · exact absurd (hn' _ hi) (by rintro ⟨⟩)
          · rcases hp' with ⟨items', hi', rfl⟩ | ⟨rfl, -⟩
            · exact absurd (hn _ hi') (by rintro ⟨⟩)
            · rfl
      | fields hf hc => exact absurd h (hc _)
  | fields hf hc hm =>
      cases h' with
      | foreign h' => exact absurd h' hf
      | badParams h' => exact absurd h' (hc _)
      | clause h' => exact absurd h' (hc _)
      | fields hf' hc' hm' => rw [OrderedMap.ext (hm.trans hm'.symm)]

theorem ofJson_eq_iff {j : Json} {r : Except FilterFault Filter} : ofJson j = r ↔ Reads j r := by
  constructor
  · rintro rfl
    exact reads_ofJson j
  · exact (reads_ofJson j).unique

theorem mapError_ofJson_eq_invalidArgument_iff {j : Json} :
    (∃ fault, (ofJson j).mapError FilterFault.error = .error (.invalidArgument fault)) ↔
      j.IsForeign := by
  have h := reads_ofJson j
  generalize ofJson j = r at h ⊢
  cases h with
  | foreign h => exact ⟨fun _ => h, fun _ => ⟨_, rfl⟩⟩
  | badParams h hp => exact ⟨by rintro ⟨_, ⟨⟩⟩, fun hf => absurd hf h.not_isForeign⟩
  | clause h hp => exact ⟨by rintro ⟨_, ⟨⟩⟩, fun hf => absurd hf h.not_isForeign⟩
  | fields hf hc hm => exact ⟨by rintro ⟨_, ⟨⟩⟩, fun h => absurd h hf⟩

theorem mapError_ofJson_eq_parameter_iff {j : Json} :
    (∃ fault, (ofJson j).mapError FilterFault.error = .error (.parameter fault)) ↔
      (∃ text, j.HasClause text) ∧ ∃ got, j.HasBadParams got := by
  constructor
  · rintro ⟨fault, hr⟩
    have h := reads_ofJson j
    generalize ofJson j = r at h hr
    cases h with
    | foreign h => cases hr
    | badParams h hp => exact ⟨⟨_, h⟩, _, hp⟩
    | clause h hp => cases hr
    | fields hf hc hm => cases hr
  · rintro ⟨⟨text, h⟩, got, hp⟩
    rw [ofJson_eq_iff.2 (.badParams h hp)]
    exact ⟨_, rfl⟩

theorem exists_ofJson_eq_ok {j : Json} (hf : ¬j.IsForeign)
    (hb : ¬((∃ text, j.HasClause text) ∧ ∃ got, j.HasBadParams got)) : ∃ f, ofJson j = .ok f := by
  have h := reads_ofJson j
  generalize ofJson j = r at h ⊢
  cases h with
  | foreign h => exact absurd h hf
  | badParams h hp => exact absurd ⟨⟨_, h⟩, _, hp⟩ hb
  | clause h hp => exact ⟨_, rfl⟩
  | fields hf hc hm => exact ⟨_, rfl⟩

theorem ofJson_eq_clause_iff {j : Json} {text : String} {params : List Value} :
    ofJson j = .ok (.clause text params) ↔ j.HasClause text ∧ j.HasParams params := by
  rw [ofJson_eq_iff]
  constructor
  · rintro (_ | _ | ⟨h, hp⟩ | _)
    exact ⟨h, hp⟩
  · rintro ⟨h, hp⟩
    exact .clause h hp

theorem ofJson_eq_fields_iff {j : Json} {m : Conditions} :
    ofJson j = .ok (.fields m) ↔ ¬j.IsForeign ∧ (∀ text, ¬j.HasClause text) ∧
      m.entries = j.members.map fun e => (e.1, Condition.ofJson e.2) := by
  rw [ofJson_eq_iff]
  constructor
  · rintro (_ | _ | _ | ⟨hf, hc, hm⟩)
    exact ⟨hf, hc, hm⟩
  · rintro ⟨hf, hc, hm⟩
    exact .fields hf hc hm

def conditionsText (mode : ListMode) : Filter → String
  | fields m => " and ".intercalate (Conditions.texts mode m.entries)
  | clause text _ => text

/-- A filter without conditions. -/
def IsVacuous : Filter → Prop
  | fields m => m.entries = []
  | clause text _ => text = ""

theorem fragment_of_isVacuous {f : Filter} (h : f.IsVacuous) (mode : ListMode) :
    f.fragment mode = .empty := by
  cases f with
  | fields m =>
      have hm : m.entries = [] := h
      rw [fragment, Conditions.fragment, hm]
  | clause text params =>
      have ht : text = "" := h
      rw [fragment, if_pos ht]

theorem text_fragment_of_not_isVacuous {f : Filter} (h : ¬f.IsVacuous) (mode : ListMode) :
    (f.fragment mode).text = " where " ++ f.conditionsText mode := by
  cases f with
  | fields m =>
      have hm : ¬m.entries = [] := h
      rw [fragment, Conditions.text_fragment, if_neg hm, conditionsText]
  | clause text params =>
      have ht : ¬text = "" := h
      rw [fragment, if_neg ht, conditionsText]

theorem isVacuous_iff_of_ofJson {j : Json} {f : Filter} (h : ofJson j = .ok f) :
    f.IsVacuous ↔ j.IsUnfiltered := by
  cases f with
  | clause text params =>
      obtain ⟨hc, -⟩ := ofJson_eq_clause_iff.1 h
      refine ⟨fun ht => absurd ht hc.1, ?_⟩
      rintro (rfl | rfl | rfl) <;> exact absurd hc.2 (by simp [Json.members, OrderedMap.ofList])
  | fields m =>
      obtain ⟨hf, -, hm⟩ := ofJson_eq_fields_iff.1 h
      rw [IsVacuous, hm, List.map_eq_nil_iff]
      cases j with
      | null => simp [Json.members, Json.IsUnfiltered]
      | string s => simpa [Json.members, Json.IsUnfiltered, Json.IsForeign] using hf
      | object fields =>
          simp [Json.members, Json.IsUnfiltered, OrderedMap.entries_ofList_eq_nil_iff]
      | bool | number | array => exact absurd trivial hf

end Filter

theorem text_filterFragment_eq_empty_iff {mode : ListMode} {f : Option Filter} :
    (filterFragment mode f).text = "" ↔
      f = none ∨ f = some (.fields .empty) ∨ ∃ params, f = some (.clause "" params) := by
  constructor
  · intro h
    cases f with
    | none => exact .inl rfl
    | some f =>
        by_cases hv : f.IsVacuous
        · cases f with
          | fields m => exact .inr (.inl (congrArg (some ∘ Filter.fields) (OrderedMap.ext hv)))
          | clause text params =>
              obtain rfl : text = "" := hv
              exact .inr (.inr ⟨params, rfl⟩)
        · rw [filterFragment, Filter.text_fragment_of_not_isVacuous hv] at h
          simp at h
  · rintro (rfl | rfl | ⟨params, rfl⟩) <;> rfl

theorem text_filterFragment_cases (mode : ListMode) (f : Option Filter) :
    (filterFragment mode f).text = "" ∨
      ∃ conditions, (filterFragment mode f).text = " where " ++ conditions := by
  cases f with
  | none => exact .inl rfl
  | some f =>
      by_cases hv : f.IsVacuous
      · rw [filterFragment, Filter.fragment_of_isVacuous hv]
        exact .inl rfl
      · exact .inr ⟨_, Filter.text_fragment_of_not_isVacuous hv mode⟩

namespace Request

/-- A request on the rows of a table, whose name is cut to the one given, that can be compiled. -/
def ActsOn (table : String) : Request → Prop
  | select (.selection s) => safeName? s.table = some table
  | update name changes _ => safeName? name = some table ∧ changes.isEmpty = false
  | delete name _ => safeName? name = some table
  | select (.sql _) | insert _ _ => False

def withFilter (f : Option Filter) : Request → Request
  | select (.selection s) => select (.selection { s with filter := f })
  | update table changes _ => update table changes f
  | delete table _ => delete table f
  | select (.sql text) => select (.sql text)
  | insert table record => insert table record

def head (table : String) : Request → String
  | select (.selection s) => "select " ++ s.fieldsText ++ " from " ++ table
  | update _ changes _ => "update " ++ table ++ " set " ++ changes.assignments
  | delete _ _ => "delete from " ++ table
  | select (.sql _) | insert _ _ => ""

def tail : Request → String
  | select (.selection s) =>
      s.orderText ++ Selection.countText " limit " s.limit ++
        Selection.countText " offset " s.offset
  | update _ _ _ | delete _ _ | select (.sql _) | insert _ _ => ""

theorem compile_withFilter {table : String} {r : Request} (h : r.ActsOn table) (mode : ListMode)
    (f : Option Filter) : ∃ s, (r.withFilter f).compile mode = .ok s ∧
      s.sql = r.head table ++ (filterFragment mode f).text ++ r.tail := by
  cases r with
  | select query =>
      cases query with
      | sql text => exact h.elim
      | selection s =>
          have hs : safeName? s.table = some table := h
          refine ⟨_, Selection.compile_eq_ok_iff.2 ⟨table, hs, rfl⟩, ?_⟩
          unfold Selection.sqlText
          simp only [head, tail, String.append_assoc]
          rfl
  | insert name record => exact h.elim
  | update name changes filter =>
      obtain ⟨ht, hc⟩ := h
      refine ⟨_, Statement.update_eq_ok_iff.2 ⟨table, ht, hc, rfl⟩, ?_⟩
      simp only [head, tail, String.append_empty]
  | delete name filter =>
      have ht : safeName? name = some table := h
      refine ⟨_, Statement.delete_eq_ok_iff.2 ⟨table, ht, rfl⟩, ?_⟩
      simp only [head, tail, String.append_empty]

theorem compile_withFilter_ofJson {j : Json} {f : Filter} (hj : Filter.ofJson j = .ok f)
    {table : String} {r : Request} (hr : r.ActsOn table) (mode : ListMode) :
    ∃ s, (r.withFilter (some f)).compile mode = .ok s ∧
      (s.sql = r.head table ++ r.tail ↔ j.IsUnfiltered) ∧
      (¬j.IsUnfiltered →
        s.sql = r.head table ++ (" where " ++ f.conditionsText mode) ++ r.tail) := by
  have hv := Filter.isVacuous_iff_of_ofJson hj
  obtain ⟨s, hs, hsql⟩ := compile_withFilter hr mode (some f)
  rw [filterFragment] at hsql
  refine ⟨s, hs, ?_⟩
  by_cases hu : j.IsUnfiltered
  · rw [Filter.fragment_of_isVacuous (hv.2 hu), Fragment.empty, String.append_empty] at hsql
    exact ⟨⟨fun _ => hu, fun _ => hsql⟩, fun h => absurd hu h⟩
  · rw [Filter.text_fragment_of_not_isVacuous (fun h => hu (hv.1 h))] at hsql
    refine ⟨⟨fun h => ?_, fun h => absurd h hu⟩, fun _ => hsql⟩
    have hlength := congrArg String.length (hsql.symm.trans h)
    have hwhere : " where ".length = 7 := by decide
    simp only [String.length_append, hwhere] at hlength
    omega

end Request

/-- Every document but the foreign ones and a clause with bad parameters is read, either as its
clause or as one condition for each of its keys. What was read stands in every statement it is put
into, unless the document is null, the empty text or the empty object; and whatever filter is given,
its fragment is empty only if it has no conditions, and then nothing is bound. -/
theorem Filter.where_iff_conditions :
    (∀ j : Json,
      ((∃ fault, (ofJson j).mapError FilterFault.error = .error (.invalidArgument fault)) ↔
        j.IsForeign) ∧
      ((∃ fault, (ofJson j).mapError FilterFault.error = .error (.parameter fault)) ↔
        (∃ text, j.HasClause text) ∧ ∃ got, j.HasBadParams got) ∧
      (¬j.IsForeign → ¬((∃ text, j.HasClause text) ∧ ∃ got, j.HasBadParams got) →
        ∃ f, ofJson j = .ok f) ∧
      (∀ text params,
        ofJson j = .ok (.clause text params) ↔ j.HasClause text ∧ j.HasParams params) ∧
      ∀ m, ofJson j = .ok (.fields m) ↔ ¬j.IsForeign ∧ (∀ text, ¬j.HasClause text) ∧
        m.entries = j.members.map fun e => (e.1, Condition.ofJson e.2)) ∧
    (∀ j f, ofJson j = .ok f → ∀ mode table (r : Request), r.ActsOn table →
      ∃ s, (r.withFilter (some f)).compile mode = .ok s ∧
        (s.sql = r.head table ++ r.tail ↔ j.IsUnfiltered) ∧
        (¬j.IsUnfiltered →
          s.sql = r.head table ++ (" where " ++ f.conditionsText mode) ++ r.tail)) ∧
    ∀ mode (f : Option Filter),
      ((filterFragment mode f).text = "" ↔
        f = none ∨ f = some (.fields .empty) ∨ ∃ params, f = some (.clause "" params)) ∧
      ((filterFragment mode f).text = "" → (filterFragment mode f).params = []) ∧
      ((filterFragment mode f).text ≠ "" →
        ∃ g, f = some g ∧ (filterFragment mode f).text = " where " ++ g.conditionsText mode) := by
  refine ⟨fun j => ⟨mapError_ofJson_eq_invalidArgument_iff, mapError_ofJson_eq_parameter_iff,
    exists_ofJson_eq_ok, fun _ _ => ofJson_eq_clause_iff, fun _ => ofJson_eq_fields_iff⟩,
    fun j f hj mode table r hr => Request.compile_withFilter_ofJson hj hr mode, ?_⟩
  intro mode f
  refine ⟨text_filterFragment_eq_empty_iff, fun h => ?_, fun h => ?_⟩
  · rcases text_filterFragment_eq_empty_iff.1 h with rfl | rfl | ⟨params, rfl⟩ <;> rfl
  · cases f with
    | none => exact absurd rfl h
    | some g =>
        refine ⟨g, rfl, text_fragment_of_not_isVacuous (fun hv => h ?_) mode⟩
        rw [filterFragment, fragment_of_isVacuous hv, Fragment.empty]

/-- An empty clause is a condition like any other, and parameters beside it are one more. -/
theorem Filter.where_of_empty_clause :
    let j : Json := .object [("clause", .string ""), ("params", .null), ("id", .array [.null])]
    let r : Request := .delete "users; --" none
    ∃ f s, ofJson j = .ok f ∧ r.ActsOn "users" ∧ ¬j.IsUnfiltered ∧
      (r.withFilter (some f)).compile .parameterized = .ok s ∧
      s.sql = "delete from users where clause = ? and params = ? and id IN (?)" := by
  intro j r
  have hj : ofJson j = .ok (ofFields [("clause", .string ""), ("params", .null),
    ("id", .array [.null])]) := rfl
  have hr : r.ActsOn "users" := by
    change safeName? "users; --" = some "users"
    decide
  have hu : ¬j.IsUnfiltered := by simp [Json.IsUnfiltered, j]
  obtain ⟨s, hs, -, hsql⟩ := where_iff_conditions.2.1 j _ hj .parameterized "users" r hr
  exact ⟨_, s, hj, hr, hu, hs, (hsql hu).trans (by decide)⟩

end Querysmith
