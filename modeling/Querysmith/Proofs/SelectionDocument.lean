import Querysmith.Proofs.Filtering

namespace Querysmith

namespace Value

/-- The values that a document holds without becoming others: no timestamps, no bytes, no doubles
that are not finite, and of the documents only arrays and objects. -/
def IsPlain : Value → Prop
  | null | bool _ | int _ | text _ => True
  | float x => x.isFinite = true
  | json j => (∃ items, j = .array items) ∨ ∃ fields, j = .object fields
  | timestamp _ | blob _ => False

theorem ofJson_ofInt64 (i : Int64) : ofJson (Json.ofInt64 i) = int i := by
  have hi : i.toInt < 0x8000000000000000 := i.toInt_lt
  simp [Json.ofInt64, ofJson, ofNumber, hi]

theorem ofJson_toJson {v : Value} (h : v.IsPlain) : ofJson v.toJson = v := by
  cases v with
  | null | bool b | text s => rfl
  | int i => exact ofJson_ofInt64 i
  | float x =>
      have hx : x.isFinite = true := h
      rw [toJson, Json.ofFloat, dif_pos hx]
      rfl
  | json j => rcases h with ⟨items, rfl⟩ | ⟨fields, rfl⟩ <;> rfl
  | timestamp t => exact h.elim
  | blob bytes => exact h.elim

theorem map_ofJson_toJson {vs : List Value} (h : ∀ v ∈ vs, v.IsPlain) :
    (vs.map toJson).map ofJson = vs := by
  rw [List.map_map]
  exact (List.map_congr_left fun v hv => ofJson_toJson (h v hv)).trans (List.map_id vs)

end Value

namespace Condition

/-- A single value that is an array would be read as a list of values. -/
def IsPlain : Condition → Prop
  | equals v => v.IsPlain ∧ ∀ items, v ≠ .json (.array items)
  | oneOf vs => ∀ v ∈ vs, v.IsPlain

def toJson : Condition → Json
  | equals v => v.toJson
  | oneOf vs => .array (vs.map Value.toJson)

theorem ofJson_toJson {c : Condition} (h : c.IsPlain) : ofJson c.toJson = c := by
  cases c with
  | oneOf vs => rw [toJson, ofJson, Value.map_ofJson_toJson h]
  | equals v =>
      obtain ⟨hv, ha⟩ := h
      have harray : ∀ items, v.toJson ≠ .array items := by
        intro items he
        have hj := Value.ofJson_toJson hv
        rw [he] at hj
        exact ha items hj.symm
      rw [toJson, ofJson_of_ne_array harray, Value.ofJson_toJson hv]

theorem eq_equals_text_of_toJson {c : Condition} (h : c.IsPlain) {text : String}
    (hj : c.toJson = .string text) : c = equals (.text text) := by
  rw [← ofJson_toJson h, hj]
  rfl

end Condition

namespace Filter

/-- A text under the name clause would be read as a clause, and an empty clause is none. -/
def IsPlain : Filter → Prop
  | fields m =>
      (∀ e ∈ m.entries, e.2.IsPlain) ∧
        ∀ text, ("clause", .equals (.text text)) ∈ m.entries → text = ""
  | clause text params => text ≠ "" ∧ ∀ v ∈ params, v.IsPlain

def toJson : Filter → Json
  | fields m => .object (m.entries.map fun e => (e.1, e.2.toJson))
  | clause text params =>
      .object [("clause", .string text), ("params", .array (params.map Value.toJson))]

theorem members_toJson_fields (m : Conditions) :
    (toJson (fields m)).members = m.entries.map fun e => (e.1, e.2.toJson) := by
  refine OrderedMap.entries_ofList_of_nodup ?_
  rw [List.map_map]
  exact m.nodup

theorem ofJson_toJson {f : Filter} (h : f.IsPlain) : ofJson f.toJson = .ok f := by
  cases f with
  | clause text params =>
      obtain ⟨ht, hp⟩ := h
      have hclause : (toJson (clause text params)).HasClause text := ⟨ht, List.mem_cons_self⟩
      refine ofJson_eq_clause_iff.2 ⟨hclause, .inl ⟨params.map Value.toJson, ?_, ?_⟩⟩
      · exact List.mem_cons_of_mem _ List.mem_cons_self
      · exact (Value.map_ofJson_toJson hp).symm
  | fields m =>
      obtain ⟨hplain, hclause⟩ := h
      refine ofJson_eq_fields_iff.2 ⟨id, ?_, ?_⟩
      · rintro text ⟨ht, hm⟩
        rw [members_toJson_fields] at hm
        obtain ⟨⟨field, c⟩, he, hec⟩ := List.mem_map.1 hm
        obtain ⟨rfl, hj⟩ := Prod.mk.inj hec
        have hc : c = .equals (.text text) := Condition.eq_equals_text_of_toJson (hplain _ he) hj
        exact ht (hclause text (hc ▸ he))
      · have hback : ∀ e ∈ m.entries, (e.1, Condition.ofJson e.2.toJson) = e :=
          fun e he => Prod.ext rfl (Condition.ofJson_toJson (hplain e he))
        rw [members_toJson_fields, List.map_map]
        exact ((List.map_congr_left hback).trans (List.map_id _)).symm

end Filter

def Columns.toJson : Columns → Json
  | text s => .string s
  | names columns => .array (columns.map .string)

namespace Selection

theorem names?_map_string (columns : List String) :
    names? (columns.map .string) = some columns := by
  induction columns with
  | nil => rfl
  | cons column columns ih => simp [names?, ih]

theorem optionalFields_toJson (l : Columns) : optionalFields l.toJson = .ok (some l) := by
  cases l with
  | text s => rfl
  | names columns => simp [Columns.toJson, optionalFields, names?_map_string]

theorem optionalFilter_toJson {f : Filter} (h : f.IsPlain) :
    optionalFilter f.toJson = .ok (some f) := by
  have hobject (fields : List (String × Json)) (hf : Filter.ofJson (.object fields) = .ok f) :
      optionalFilter (.object fields) = .ok (some f) := by
    simp only [optionalFilter, hf]
    rfl
  have hf := Filter.ofJson_toJson h
  cases f with
  | fields m => exact hobject _ hf
  | clause text params => exact hobject _ hf

theorem uint64_bounds (n : UInt64) :
    (-0x8000000000000000 : Int) ≤ n.toNat ∧ (n.toNat : Int) < 0x10000000000000000 := by
  have := n.toNat_lt
  omega

def countJson (n : UInt64) : Json :=
  .number (.integer n.toNat (uint64_bounds n).1 (uint64_bounds n).2)

theorem optionalCount_countJson (n : UInt64) : optionalCount (countJson n) = .ok (some n) := by
  simp [countJson, optionalCount]

/-- A part that is absent is left out or null. -/
def pairs (omits : String → Bool) (key : String) : Option Json → List (String × Json)
  | some j => [(key, j)]
  | none => if omits key then [] else [(key, .null)]

def toFields (omits : String → Bool) (s : Selection) : List (String × Json) :=
  ("table", .string s.table) ::
    (pairs omits "fields" (s.fields.map Columns.toJson) ++
      (pairs omits "where" (s.filter.map Filter.toJson) ++
        (pairs omits "order" (s.order.map .string) ++
          (pairs omits "limit" (s.limit.map countJson) ++
            pairs omits "offset" (s.offset.map countJson)))))

def toJson (omits : String → Bool) (s : Selection) : Json :=
  .object (s.toFields omits)

theorem readFields_pairs {α : Type} {omits : String → Bool} {key : String} {a : Option α}
    {write : α → Json} {read : Json → Except SelectionFault (Option α)}
    (set : Option α → Selection) (rest : List (String × Json))
    (hread : ∀ j, (set none).readField key j = (read j).map set)
    (hwrite : ∀ x, a = some x → read (write x) = .ok (some x)) (hnull : read .null = .ok none) :
    readFields (set none) (pairs omits key (a.map write) ++ rest) = readFields (set a) rest := by
  cases a with
  | some x =>
      have hx : (set none).readField key (write x) = .ok (set (some x)) := by
        rw [hread, hwrite x rfl]
        rfl
      simp only [Option.map_some, pairs, List.cons_append, List.nil_append, readFields, hx]
  | none =>
      have hn : (set none).readField key .null = .ok (set none) := by
        rw [hread, hnull]
        rfl
      rw [Option.map_none, pairs]
      split
      · rfl
      · simp only [List.cons_append, List.nil_append, readFields, hn]

theorem readFields_toFields {s : Selection} (h : ∀ f, s.filter = some f → f.IsPlain)
    (omits : String → Bool) :
    readFields ⟨"", none, none, none, none, none⟩ (s.toFields omits) = .ok s :=
  calc readFields ⟨"", none, none, none, none, none⟩ (s.toFields omits)
      = readFields ⟨s.table, none, none, none, none, none⟩ _ := rfl
    _ = readFields ⟨s.table, s.fields, none, none, none, none⟩ _ :=
        readFields_pairs (fun l => ⟨s.table, l, none, none, none, none⟩) _
          (fun _ => rfl) (fun l _ => optionalFields_toJson l) rfl
    _ = readFields ⟨s.table, s.fields, s.filter, none, none, none⟩ _ :=
        readFields_pairs (fun f => ⟨s.table, s.fields, f, none, none, none⟩) _
          (fun _ => rfl) (fun f hf => optionalFilter_toJson (h f hf)) rfl
    _ = readFields ⟨s.table, s.fields, s.filter, s.order, none, none⟩ _ :=
        readFields_pairs (fun o => ⟨s.table, s.fields, s.filter, o, none, none⟩) _
          (fun _ => rfl) (fun _ _ => rfl) rfl
    _ = readFields ⟨s.table, s.fields, s.filter, s.order, s.limit, none⟩
          (pairs omits "offset" (s.offset.map countJson) ++ []) := by
        rw [List.append_nil]
        exact readFields_pairs (fun n => ⟨s.table, s.fields, s.filter, s.order, n, none⟩) _
          (fun _ => rfl) (fun n _ => optionalCount_countJson n) rfl
    _ = readFields s [] :=
        readFields_pairs (fun n => ⟨s.table, s.fields, s.filter, s.order, s.limit, n⟩) _
          (fun _ => rfl) (fun n _ => optionalCount_countJson n) rfl
    _ = .ok s := rfl

/-- A selection that was written as a document is read as the same selection, and so it compiles to
the same statement or is refused with the same error. -/
theorem query_ofJson_toJson {s : Selection} (h : ∀ f, s.filter = some f → f.IsPlain)
    (omits : String → Bool) :
    Query.ofJson (s.toJson omits) = .ok (.selection s) ∧
      ∀ mode, (Query.ofJson (s.toJson omits)).bind (Query.compile mode) = s.compile mode := by
  have hread : Query.ofJson (s.toJson omits) = .ok (.selection s) := by
    simp only [toJson, Query.ofJson, readFields_toFields h omits]
  refine ⟨hread, fun mode => ?_⟩
  rw [hread]
  rfl

theorem query_ofJson_toJson_of_bounds :
    let s : Selection := ⟨"users", some (.names ["id", "name"]),
      some (.fields (OrderedMap.ofList [("clause", .equals (.text "")),
        ("id", .oneOf [.int Int64.minValue, .json (.array [.null])])])),
      none, some 0xFFFFFFFFFFFFFFFF, none⟩
    let j := s.toJson (· = "order")
    (∀ f, s.filter = some f → f.IsPlain) ∧
      j = .object [("table", .string "users"),
        ("fields", .array [.string "id", .string "name"]),
        ("where", .object [("clause", .string ""),
          ("id", .array [Json.ofInt (-0x8000000000000000), .array [.null]])]),
        ("limit", Json.ofInt 0xFFFFFFFFFFFFFFFF), ("offset", .null)] ∧
      Query.ofJson j = .ok (.selection s) := by
  intro s j
  have hplain : ∀ f, s.filter = some f → f.IsPlain := by
    rintro _ ⟨⟩
    constructor
    · intro e he
      rcases List.mem_cons.1 he with rfl | he
      · exact ⟨trivial, by rintro _ ⟨⟩⟩
      · obtain rfl := List.mem_singleton.1 he
        intro v hv
        rcases List.mem_cons.1 hv with rfl | hv
        · trivial
        · obtain rfl := List.mem_singleton.1 hv
          exact .inl ⟨_, rfl⟩
    · intro text he
      rcases List.mem_cons.1 he with he | he
      · exact Value.text.inj (Condition.equals.inj (Prod.mk.inj he).2)
      · exact absurd (Prod.mk.inj (List.mem_singleton.1 he)).1 (by decide)
  exact ⟨hplain, rfl, (query_ofJson_toJson hplain _).1⟩

end Selection

end Querysmith
