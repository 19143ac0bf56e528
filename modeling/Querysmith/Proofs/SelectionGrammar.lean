import Querysmith.Proofs.SelectionDocument

namespace Querysmith

namespace Selection

/-- A key of a selection's object. `Means` says which values other than null it takes, and as what;
null is the same as to leave the key out. -/
structure Key (α : Type) where
  name : String
  get : Selection → α
  set : α → Selection → Selection
  absent : α
  Means : Json → α → Prop

namespace Key

variable {α β : Type}

def table : Key String where
  name := "table"
  get := Selection.table
  set t s := { s with table := t }
  absent := ""
  Means j t := j = .string t

def columns : Key (Option Columns) where
  name := "fields"
  get := Selection.fields
  set l s := { s with fields := l }
  absent := none
  Means j l := (∃ t, j = .string t ∧ l = some (.text t)) ∨
    ∃ names, j = .array (names.map .string) ∧ l = some (.names names)

def filter : Key (Option Filter) where
  name := "where"
  get := Selection.filter
  set f s := { s with filter := f }
  absent := none
  Means j f := ∃ g, Filter.ofJson j = .ok g ∧ f = some g

def order : Key (Option String) where
  name := "order"
  get := Selection.order
  set o s := { s with order := o }
  absent := none
  Means j o := ∃ t, j = .string t ∧ o = some t

def MeansCount (j : Json) (n : Option UInt64) : Prop :=
  ∃ m : UInt64, j = countJson m ∧ n = some m

def limit : Key (Option UInt64) where
  name := "limit"
  get := Selection.limit
  set n s := { s with limit := n }
  absent := none
  Means := MeansCount

def offset : Key (Option UInt64) where
  name := "offset"
  get := Selection.offset
  set n s := { s with offset := n }
  absent := none
  Means := MeansCount

def Says (k : Key α) (j : Json) (a : α) : Prop :=
  j = .null ∧ a = k.absent ∨ j ≠ .null ∧ k.Means j a

/-- The part of a selection that a key stands for is what the key says, where it occurs. -/
def Describes (k : Key α) (fields : List (String × Json)) (s : Selection) : Prop :=
  (∀ j, (k.name, j) ∈ fields → k.Says j (k.get s)) ∧
    ((∀ j, (k.name, j) ∉ fields) → k.get s = k.absent)

end Key

inductive IsKey : {α : Type} → Key α → Prop where
  | table : IsKey Key.table
  | columns : IsKey Key.columns
  | filter : IsKey Key.filter
  | order : IsKey Key.order
  | limit : IsKey Key.limit
  | offset : IsKey Key.offset

/-- A key with a meaning holds a value that it takes; any other key may hold anything. -/
def Admissible (e : String × Json) : Prop :=
  ∀ (α : Type) (k : Key α), IsKey k → e.1 = k.name → ∃ a, k.Says e.2 a

def Describes (fields : List (String × Json)) (s : Selection) : Prop :=
  ∀ (α : Type) (k : Key α), IsKey k → k.Describes fields s

/-- What a document is called where something else is expected. -/
inductive Found : Json → String → Prop where
  | true : Found (.bool true) "boolean `true`"
  | false : Found (.bool false) "boolean `false`"
  | integer (n : Int) (lower : -0x8000000000000000 ≤ n) (upper : n < 0x10000000000000000) :
      Found (.number (.integer n lower upper)) ("integer `" ++ toString n ++ "`")
  | double (x : Float) (finite : x.isFinite = true) :
      Found (.number (.double x finite))
        ("floating point `" ++ Json.compact (.number (.double x finite)) ++ "`")
  | string (s : String) : Found (.string s) ("string " ++ Text.quoted s)
  | array (items : List Json) : Found (.array items) "sequence"
  | object (fields : List (String × Json)) : Found (.object fields) "map"

/-- What is wrong with a value under a key, and what is said about it. -/
inductive Complaint : String → Json → SelectionFault → String → Prop where
  | text {key found : String} {j : Json} (hk : key = "table" ∨ key = "order") (hn : j ≠ .null)
      (hs : ∀ t, j ≠ .string t) (hf : Found j found) :
      Complaint key j (.notText j) ("invalid type: " ++ found ++ ", expected a string")
  | columns {j : Json} (hn : j ≠ .null) (hs : ∀ t, j ≠ .string t)
      (ha : ∀ names : List String, j ≠ .array (names.map .string)) :
      Complaint "fields" j .notFieldList "data did not match any variant of untagged enum FieldList"
  | filterNotObject {j got : Json} (hn : j ≠ .null)
      (h : Filter.ofJson j = .error (.notObject got)) :
      Complaint "where" j (.filter (.notObject got))
        ("Invalid argument: where must be an object, got " ++ got.compact)
  | paramsNotArray {j got : Json} (hn : j ≠ .null)
      (h : Filter.ofJson j = .error (.paramsNotArray got)) :
      Complaint "where" j (.filter (.paramsNotArray got))
        ("Parameter conversion error: where.params must be an array, got " ++ got.compact)
  | negative {key : String} {n : Int} {lower : -0x8000000000000000 ≤ n}
      {upper : n < 0x10000000000000000} (hk : key = "limit" ∨ key = "offset") (h : n < 0) :
      Complaint key (.number (.integer n lower upper)) (.negative n)
        ("invalid value: integer `" ++ toString n ++ "`, expected u64")
  | count {key found : String} {j : Json} (hk : key = "limit" ∨ key = "offset") (hn : j ≠ .null)
      (hi : ∀ n lower upper, j ≠ .number (.integer n lower upper)) (hf : Found j found) :
      Complaint key j (.notCount j) ("invalid type: " ++ found ++ ", expected u64")

theorem found_foundText {j : Json} (hn : j ≠ .null) : Found j (foundText j) := by
  cases j with
  | null => exact absurd rfl hn
  | bool b =>
      cases b with
      | true => exact .true
      | false => exact .false
  | number n =>
      cases n with
      | integer n lower upper => exact .integer n lower upper
      | double x finite => exact .double x finite
  | string s => exact .string s
  | array items => exact .array items
  | object fields => exact .object fields

theorem Found.eq_foundText {j : Json} {found : String} (h : Found j found) :
    found = foundText j := by
  cases h <;> rfl

theorem Complaint.eq_message {key text : String} {j : Json} {fault : SelectionFault}
    (h : Complaint key j fault text) : text = fault.message := by
  cases h with
  | text _ _ _ hf =>
      rw [hf.eq_foundText]
      rfl
  | count _ _ _ hf =>
      rw [hf.eq_foundText]
      rfl
  | columns | filterNotObject | paramsNotArray | negative => rfl

theorem names?_eq_some_iff {items : List Json} {names : List String} :
    names? items = some names ↔ items = names.map .string := by
  constructor
  · intro h
    induction items generalizing names with
    | nil => rw [← Option.some.inj h, List.map_nil]
    | cons j items ih =>
        cases j with
        | string t =>
            obtain ⟨rest, hrest, rfl⟩ := Option.map_eq_some_iff.1 h
            rw [List.map_cons, ih hrest]
        | null | bool | number | array | object => cases h
  · rintro rfl
    exact names?_map_string names

theorem map_eq_ok_iff {α β ε : Type} {r : Except ε α} {f : α → β} {b : β} :
    r.map f = .ok b ↔ ∃ a, r = .ok a ∧ b = f a := by
  cases r with
  | error e => simp [Except.map]
  | ok a => simp [Except.map, eq_comm]

theorem map_eq_error_iff {α β ε : Type} {r : Except ε α} {f : α → β} {e : ε} :
    r.map f = .error e ↔ r = .error e := by
  cases r with
  | error e => simp [Except.map]
  | ok a => simp [Except.map]

theorem optionalText_eq_ok_iff {j : Json} {o : Option String} :
    optionalText j = .ok o ↔ Key.order.Says j o := by
  cases j <;> simp [optionalText, Key.Says, Key.order, eq_comm]

theorem optionalText_eq_error_iff {j : Json} {fault : SelectionFault} :
    optionalText j = .error fault ↔ (j ≠ .null ∧ ∀ t, j ≠ .string t) ∧ fault = .notText j := by
  cases j <;> simp [optionalText, eq_comm]

theorem optionalFields_eq_ok_iff {j : Json} {l : Option Columns} :
    optionalFields j = .ok l ↔ Key.columns.Says j l := by
  cases j with
  | array items =>
      simp only [optionalFields, Key.Says, Key.columns, reduceCtorEq, false_and, exists_false,
        false_or, ne_eq, not_false_eq_true, true_and, Json.array.injEq]
      simp only [← names?_eq_some_iff]
      cases names? items with
      | none => simp
      | some names => simp [eq_comm]
  | null | bool | number | string | object =>
      simp [optionalFields, Key.Says, Key.columns, eq_comm]

theorem optionalFields_eq_error_iff {j : Json} {fault : SelectionFault} :
    optionalFields j = .error fault ↔ (j ≠ .null ∧ (∀ t, j ≠ .string t) ∧
      ∀ names : List String, j ≠ .array (names.map .string)) ∧ fault = .notFieldList := by
  cases j with
  | array items =>
      simp only [optionalFields, ne_eq, reduceCtorEq, not_false_eq_true, implies_true, true_and,
        Json.array.injEq, ← names?_eq_some_iff]
      cases names? items with
      | none => simp [eq_comm]
      | some names => simp
  | null | bool | number | string | object => simp [optionalFields, eq_comm]

theorem optionalFilter_of_ne_null {j : Json} (h : j ≠ .null) :
    optionalFilter j = ((Filter.ofJson j).mapError .filter).map some := by
  rw [optionalFilter.eq_def]
  split
  · exact absurd rfl h
  · rfl

theorem optionalFilter_eq_ok_iff {j : Json} {f : Option Filter} :
    optionalFilter j = .ok f ↔ Key.filter.Says j f := by
  by_cases hn : j = .null
  · subst hn
    simp [optionalFilter, Key.Says, Key.filter, eq_comm]
  · simp only [optionalFilter_of_ne_null hn, Key.Says, Key.filter, hn, false_and, false_or, ne_eq,
      not_false_eq_true, true_and, map_eq_ok_iff]
    cases Filter.ofJson j with
    | ok g =>
        change (∃ a, Except.ok g = Except.ok a ∧ f = some a) ↔ _
        simp
    | error fault =>
        change (∃ a, Except.error (SelectionFault.filter fault) = Except.ok a ∧ f = some a) ↔ _
        simp

theorem optionalFilter_eq_error_iff {j : Json} {fault : SelectionFault} :
    optionalFilter j = .error fault ↔
      j ≠ .null ∧ ∃ f, Filter.ofJson j = .error f ∧ fault = .filter f := by
  by_cases hn : j = .null
  · subst hn
    simp [optionalFilter]
  · simp only [optionalFilter_of_ne_null hn, hn, ne_eq, not_false_eq_true, true_and,
      map_eq_error_iff]
    cases Filter.ofJson j with
    | ok g =>
        change Except.ok g = Except.error fault ↔ _
        simp
    | error f =>
        change Except.error (SelectionFault.filter f) = Except.error fault ↔ _
        simp [eq_comm]

theorem optionalCount_eq_ok_iff {j : Json} {n : Option UInt64} :
    optionalCount j = .ok n ↔ j = .null ∧ n = none ∨ j ≠ .null ∧ Key.MeansCount j n := by
  cases j with
  | number m =>
      cases m with
      | integer i lower upper =>
          simp only [optionalCount, Key.MeansCount, reduceCtorEq, false_and, ne_eq,
            not_false_eq_true, true_and, false_or, countJson, Json.number.injEq,
            Json.Number.integer.injEq]
          split
          · rename_i hneg
            simp only [reduceCtorEq, false_iff, not_exists, not_and]
            omega
          · rename_i hneg
            have hword : ((UInt64.ofNat i.toNat).toNat : Int) = i := by
              have hlt : i.toNat < 0x10000000000000000 := by omega
              rw [UInt64.toNat_ofNat_of_lt' hlt]
              omega
            constructor
            · intro h
              exact ⟨_, hword.symm, (Except.ok.inj h).symm⟩
            · rintro ⟨m, rfl, rfl⟩
              rw [Int.toNat_natCast, UInt64.ofNat_toNat]
      | double x finite => simp [optionalCount, Key.MeansCount, countJson]
  | null | bool | string | array | object =>
      simp [optionalCount, Key.MeansCount, countJson, eq_comm]

theorem optionalCount_eq_error_iff {j : Json} {fault : SelectionFault} :
    optionalCount j = .error fault ↔
      (∃ n lower upper, j = .number (.integer n lower upper) ∧ n < 0 ∧ fault = .negative n) ∨
        j ≠ .null ∧ (∀ n lower upper, j ≠ .number (.integer n lower upper)) ∧
          fault = .notCount j := by
  cases j with
  | number m =>
      cases m with
      | integer i lower upper =>
          rw [optionalCount]
          split
          · rename_i hneg
            constructor
            · intro h
              exact .inl ⟨i, lower, upper, rfl, hneg, (Except.error.inj h).symm⟩
            · rintro (⟨n, l, u, he, -, rfl⟩ | ⟨-, hi, -⟩)
              · cases he
                rfl
              · exact absurd rfl (hi i lower upper)
          · rename_i hneg
            constructor
            · intro h
              cases h
            · rintro (⟨n, l, u, he, hn, -⟩ | ⟨-, hi, -⟩)
              · cases he
                exact absurd hn hneg
              · exact absurd rfl (hi i lower upper)
      | double x finite => simp [optionalCount, eq_comm]
  | null | bool | string | array | object =>
      simp [optionalCount, eq_comm]

variable {α : Type} {k : Key α} {s s' : Selection} {key : String} {j : Json}

theorem IsKey.get_set (hk : IsKey k) (a : α) (s : Selection) : k.get (k.set a s) = a := by
  cases hk <;> rfl

theorem IsKey.get_set_of_ne {β : Type} {l : Key β} (hk : IsKey k) (hl : IsKey l)
    (hne : l.name ≠ k.name) (b : β) (s : Selection) : k.get (l.set b s) = k.get s := by
  cases hk <;> cases hl <;> first | rfl | exact absurd rfl hne

theorem eq_of_get_eq {s t : Selection}
    (h : ∀ (α : Type) (k : Key α), IsKey k → k.get s = k.get t) : s = t := by
  obtain ⟨table, fields, filter, order, limit, offset⟩ := s
  rw [Selection.mk.injEq]
  exact ⟨h _ _ .table, h _ _ .columns, h _ _ .filter, h _ _ .order, h _ _ .limit, h _ _ .offset⟩

theorem readField_eq_ok_iff (hk : IsKey k) :
    s.readField k.name j = .ok s' ↔ ∃ a, k.Says j a ∧ s' = k.set a s := by
  cases hk with
  | table =>
      change (optionalText j).map (fun t => { s with table := t.getD "" }) = .ok s' ↔ _
      rw [map_eq_ok_iff]
      cases j <;> simp [optionalText, Key.Says, Key.table]
  | columns =>
      change (optionalFields j).map (fun l => { s with fields := l }) = .ok s' ↔ _
      simp only [map_eq_ok_iff, optionalFields_eq_ok_iff, Key.columns]
  | filter =>
      change (optionalFilter j).map (fun f => { s with filter := f }) = .ok s' ↔ _
      simp only [map_eq_ok_iff, optionalFilter_eq_ok_iff, Key.filter]
  | order =>
      change (optionalText j).map (fun o => { s with order := o }) = .ok s' ↔ _
      simp only [map_eq_ok_iff, optionalText_eq_ok_iff, Key.order]
  | limit =>
      change (optionalCount j).map (fun n => { s with limit := n }) = .ok s' ↔ _
      simp only [map_eq_ok_iff, optionalCount_eq_ok_iff, Key.Says, Key.limit]
  | offset =>
      change (optionalCount j).map (fun n => { s with offset := n }) = .ok s' ↔ _
      simp only [map_eq_ok_iff, optionalCount_eq_ok_iff, Key.Says, Key.offset]

theorem readField_of_unknown (h : ∀ (α : Type) (k : Key α), IsKey k → key ≠ k.name) :
    s.readField key j = .ok s := by
  have htable := h _ _ .table
  have hcolumns := h _ _ .columns
  have hfilter := h _ _ .filter
  have horder := h _ _ .order
  have hlimit := h _ _ .limit
  have hoffset := h _ _ .offset
  simp only [Key.table, Key.columns, Key.filter, Key.order, Key.limit, Key.offset] at *
  simp only [readField, htable, hcolumns, hfilter, horder, hlimit, hoffset, if_false]

theorem isKey_or_unknown (key : String) :
    (∃ (α : Type) (k : Key α), IsKey k ∧ key = k.name) ∨
      ∀ (α : Type) (k : Key α), IsKey k → key ≠ k.name := by
  by_cases h : ∃ (α : Type) (k : Key α), IsKey k ∧ key = k.name
  · exact .inl h
  · exact .inr fun α k hk he => h ⟨α, k, hk, he⟩

theorem exists_readField_eq_ok_iff :
    (∃ s', s.readField key j = .ok s') ↔ Admissible (key, j) := by
  constructor
  · rintro ⟨s', h⟩ α k hk rfl
    obtain ⟨a, ha, -⟩ := (readField_eq_ok_iff hk).1 h
    exact ⟨a, ha⟩
  · intro h
    rcases isKey_or_unknown key with ⟨α, k, hk, rfl⟩ | hno
    · obtain ⟨a, ha⟩ := h α k hk rfl
      exact ⟨_, (readField_eq_ok_iff hk).2 ⟨a, ha, rfl⟩⟩
    · exact ⟨s, readField_of_unknown hno⟩

theorem get_readField_of_ne (hk : IsKey k) (hne : key ≠ k.name)
    (h : s.readField key j = .ok s') : k.get s' = k.get s := by
  rcases isKey_or_unknown key with ⟨β, l, hl, rfl⟩ | hno
  · obtain ⟨b, -, rfl⟩ := (readField_eq_ok_iff hl).1 h
    exact hk.get_set_of_ne hl hne b s
  · rw [readField_of_unknown hno] at h
    rw [Except.ok.inj h]

theorem says_get_readField (hk : IsKey k) (h : s.readField k.name j = .ok s') :
    k.Says j (k.get s') := by
  obtain ⟨a, ha, rfl⟩ := (readField_eq_ok_iff hk).1 h
  rwa [hk.get_set]

theorem IsKey.eq_of_says (hk : IsKey k) {a b : α} (ha : k.Says j a) (hb : k.Says j b) : a = b := by
  -- Both are what the reader sets, and it sets one value only.
  have s : Selection := ⟨"", none, none, none, none, none⟩
  have hreada := (readField_eq_ok_iff (s := s) hk).2 ⟨a, ha, rfl⟩
  have hreadb := (readField_eq_ok_iff (s := s) hk).2 ⟨b, hb, rfl⟩
  have hset : k.set a s = k.set b s := Except.ok.inj (hreada.symm.trans hreadb)
  rw [← hk.get_set a s, hset, hk.get_set]

theorem complaint_of_text {fault : SelectionFault} (hkey : key = "table" ∨ key = "order")
    (h : optionalText j = .error fault) : ∃ text, Complaint key j fault text := by
  obtain ⟨⟨hn, hs⟩, rfl⟩ := optionalText_eq_error_iff.1 h
  exact ⟨_, .text hkey hn hs (found_foundText hn)⟩

theorem complaint_of_count {fault : SelectionFault} (hkey : key = "limit" ∨ key = "offset")
    (h : optionalCount j = .error fault) : ∃ text, Complaint key j fault text := by
  rcases optionalCount_eq_error_iff.1 h with ⟨n, lower, upper, rfl, hn, rfl⟩ | ⟨hn, hi, rfl⟩
  · exact ⟨_, .negative hkey hn⟩
  · exact ⟨_, .count hkey hn hi (found_foundText hn)⟩

theorem complaint_of_filter {fault : FilterFault} (hn : j ≠ .null)
    (h : Filter.ofJson j = .error fault) : ∃ text, Complaint "where" j (.filter fault) text := by
  cases fault with
  | notObject got => exact ⟨_, .filterNotObject hn h⟩
  | paramsNotArray got => exact ⟨_, .paramsNotArray hn h⟩

theorem readField_eq_error_iff {fault : SelectionFault} :
    s.readField key j = .error fault ↔ ∃ text, Complaint key j fault text := by
  constructor
  · intro h
    rcases isKey_or_unknown key with ⟨α, k, hk, rfl⟩ | hno
    · cases hk with
      | table => exact complaint_of_text (.inl rfl) (map_eq_error_iff.1 h)
      | order => exact complaint_of_text (.inr rfl) (map_eq_error_iff.1 h)
      | limit => exact complaint_of_count (.inl rfl) (map_eq_error_iff.1 h)
      | offset => exact complaint_of_count (.inr rfl) (map_eq_error_iff.1 h)
      | columns =>
          obtain ⟨⟨hn, hs, ha⟩, rfl⟩ := optionalFields_eq_error_iff.1 (map_eq_error_iff.1 h)
          exact ⟨_, .columns hn hs ha⟩
      | filter =>
          obtain ⟨hn, f, hf, rfl⟩ := optionalFilter_eq_error_iff.1 (map_eq_error_iff.1 h)
          exact complaint_of_filter hn hf
    · rw [readField_of_unknown hno] at h
      cases h
  · rintro ⟨text, h⟩
    cases h with
    | text hkey hn hs =>
        have hread := optionalText_eq_error_iff.2 ⟨⟨hn, hs⟩, rfl⟩
        rcases hkey with rfl | rfl <;> exact map_eq_error_iff.2 hread
    | columns hn hs ha =>
        exact map_eq_error_iff.2 (optionalFields_eq_error_iff.2 ⟨⟨hn, hs, ha⟩, rfl⟩)
    | filterNotObject hn hf | paramsNotArray hn hf =>
        exact map_eq_error_iff.2 (optionalFilter_eq_error_iff.2 ⟨hn, _, hf, rfl⟩)
    | @negative key n lower upper hkey hneg =>
        have hread := optionalCount_eq_error_iff.2 (.inl ⟨n, lower, upper, rfl, hneg, rfl⟩)
        rcases hkey with rfl | rfl <;> exact map_eq_error_iff.2 hread
    | count hkey hn hi =>
        have hread := optionalCount_eq_error_iff.2 (.inr ⟨hn, hi, rfl⟩)
        rcases hkey with rfl | rfl <;> exact map_eq_error_iff.2 hread

theorem exists_readFields_eq_ok_iff {fields : List (String × Json)} :
    (∃ s', s.readFields fields = .ok s') ↔ ∀ e ∈ fields, Admissible e := by
  induction fields generalizing s with
  | nil => simp [readFields]
  | cons e fields ih =>
      obtain ⟨key, j⟩ := e
      rw [List.forall_mem_cons, ← exists_readField_eq_ok_iff (s := s), readFields]
      cases hread : s.readField key j with
      | error fault => simp
      | ok t => simp [ih]

theorem readFields_eq_error_iff {fields : List (String × Json)} {fault : SelectionFault} :
    s.readFields fields = .error fault ↔ ∃ before key j after text,
      fields = before ++ (key, j) :: after ∧ (∀ e ∈ before, Admissible e) ∧
        Complaint key j fault text := by
  induction fields generalizing s with
  | nil => simp [readFields]
  | cons e fields ih =>
      obtain ⟨key, j⟩ := e
      rw [readFields]
      cases hread : s.readField key j with
      | error found =>
          constructor
          · intro h
            obtain rfl := Except.error.inj h
            obtain ⟨text, hc⟩ := readField_eq_error_iff.1 hread
            exact ⟨[], key, j, fields, text, rfl, by simp, hc⟩
          · rintro ⟨before, key', j', after, text, he, hb, hc⟩
            cases before with
            | nil =>
                obtain ⟨hkey, rfl⟩ := List.cons.inj he
                obtain ⟨rfl, rfl⟩ := Prod.mk.inj hkey
                have hfault := (readField_eq_error_iff (s := s)).2 ⟨text, hc⟩
                rwa [hread] at hfault
            | cons e before =>
                obtain ⟨rfl, -⟩ := List.cons.inj he
                obtain ⟨t, ht⟩ := (exists_readField_eq_ok_iff (s := s)).2 (hb _ List.mem_cons_self)
                rw [hread] at ht
                cases ht
      | ok t =>
          have hadmissible : Admissible (key, j) := exists_readField_eq_ok_iff.1 ⟨t, hread⟩
          constructor
          · intro h
            obtain ⟨before, key', j', after, text, rfl, hb, hc⟩ := ih.1 h
            exact ⟨(key, j) :: before, key', j', after, text, rfl,
              List.forall_mem_cons.2 ⟨hadmissible, hb⟩, hc⟩
          · rintro ⟨before, key', j', after, text, he, hb, hc⟩
            cases before with
            | nil =>
                obtain ⟨hkey, rfl⟩ := List.cons.inj he
                obtain ⟨rfl, rfl⟩ := Prod.mk.inj hkey
                rw [(readField_eq_error_iff (s := s)).2 ⟨text, hc⟩] at hread
                cases hread
            | cons e before =>
                obtain ⟨rfl, rfl⟩ := List.cons.inj he
                exact ih.2 ⟨before, key', j', after, text, rfl, (List.forall_mem_cons.1 hb).2, hc⟩

/-- A part is settled where its key stands and kept from there on, since the key comes only once. -/
theorem says_get_readFields {fields : List (String × Json)} (hk : IsKey k)
    (hnodup : (fields.map Prod.fst).Nodup) (h : s.readFields fields = .ok s') :
    (∀ j, (k.name, j) ∈ fields → k.Says j (k.get s')) ∧
      ((∀ j, (k.name, j) ∉ fields) → k.get s' = k.get s) := by
  induction fields generalizing s with
  | nil =>
      obtain rfl := Except.ok.inj h
      exact ⟨by simp, fun _ => rfl⟩
  | cons e fields ih =>
      obtain ⟨key, j⟩ := e
      rw [List.map_cons, List.nodup_cons] at hnodup
      rw [readFields] at h
      cases hread : s.readField key j with
      | error fault =>
          rw [hread] at h
          cases h
      | ok t =>
          rw [hread] at h
          obtain ⟨hsaid, hkept⟩ := ih hnodup.2 h
          constructor
          · intro i hi
            rcases List.mem_cons.1 hi with he | hi
            · obtain ⟨rfl, rfl⟩ := Prod.mk.inj he
              have hkey : k.name ∉ fields.map Prod.fst := hnodup.1
              rw [hkept fun i hi => hkey (List.mem_map_of_mem (f := Prod.fst) hi)]
              exact says_get_readField hk hread
            · exact hsaid i hi
          · intro hno
            have hne : key ≠ k.name := by
              rintro rfl
              exact hno j List.mem_cons_self
            rw [hkept fun i hi => hno i (List.mem_cons_of_mem _ hi),
              get_readField_of_ne hk hne hread]

def blank : Selection :=
  ⟨"", none, none, none, none, none⟩

theorem describes_of_readFields {fields : List (String × Json)}
    (hnodup : (fields.map Prod.fst).Nodup) (h : blank.readFields fields = .ok s) :
    Describes fields s := by
  intro α k hk
  have habsent : k.get blank = k.absent := by cases hk <;> rfl
  obtain ⟨hsaid, hkept⟩ := says_get_readFields hk hnodup h
  exact ⟨hsaid, fun hno => (hkept hno).trans habsent⟩

theorem Describes.unique {fields : List (String × Json)} {s t : Selection}
    (hs : Describes fields s) (ht : Describes fields t) : s = t := by
  refine eq_of_get_eq fun α k hk => ?_
  by_cases hin : ∃ j, (k.name, j) ∈ fields
  · obtain ⟨j, hj⟩ := hin
    exact hk.eq_of_says ((hs α k hk).1 j hj) ((ht α k hk).1 j hj)
  · have hno : ∀ j, (k.name, j) ∉ fields := fun j hj => hin ⟨j, hj⟩
    rw [(hs α k hk).2 hno, (ht α k hk).2 hno]

theorem Describes.admissible {fields : List (String × Json)} (h : Describes fields s) :
    ∀ e ∈ fields, Admissible e := by
  rintro ⟨key, j⟩ he α k hk rfl
  exact ⟨k.get s, (h α k hk).1 j he⟩

theorem readFields_eq_ok_iff {fields : List (String × Json)}
    (hnodup : (fields.map Prod.fst).Nodup) :
    blank.readFields fields = .ok s ↔ Describes fields s := by
  constructor
  · exact describes_of_readFields hnodup
  · intro h
    obtain ⟨t, ht⟩ := (exists_readFields_eq_ok_iff (s := blank)).2 h.admissible
    rw [ht, h.unique (describes_of_readFields hnodup ht)]

theorem Describes.congr {fields fields' : List (String × Json)} (h : Describes fields s)
    (hsame : ∀ (α : Type) (k : Key α), IsKey k → ∀ j,
      (k.name, j) ∈ fields ↔ (k.name, j) ∈ fields') : Describes fields' s := by
  intro α k hk
  obtain ⟨hsaid, habsent⟩ := h α k hk
  refine ⟨fun j hj => hsaid j ((hsame α k hk j).2 hj), fun hno => habsent fun j hj => ?_⟩
  exact hno j ((hsame α k hk j).1 hj)

end Selection

namespace Query

theorem ofJson_object (fields : List (String × Json)) :
    ofJson (.object fields) = match Selection.blank.readFields fields with
      | .ok s => .ok (.selection s)
      | .error fault => .error (.invalidArgument (.selection fault)) := rfl

theorem ofJson_object_eq_ok_iff {fields : List (String × Json)} {q : Query} :
    ofJson (.object fields) = .ok q ↔
      ∃ s, Selection.blank.readFields fields = .ok s ∧ q = .selection s := by
  rw [ofJson_object]
  cases Selection.blank.readFields fields with
  | error fault => simp
  | ok s => simp [eq_comm]

theorem ofJson_object_eq_error_iff {fields : List (String × Json)} {e : Error} :
    ofJson (.object fields) = .error e ↔ ∃ fault, Selection.blank.readFields fields = .error fault ∧
      e = .invalidArgument (.selection fault) := by
  rw [ofJson_object]
  cases Selection.blank.readFields fields with
  | error fault => simp [eq_comm]
  | ok s => simp

theorem exists_ofJson_object_eq_ok_iff {fields : List (String × Json)} :
    (∃ q, ofJson (.object fields) = .ok q) ↔ ∀ e ∈ fields, Selection.Admissible e := by
  rw [← Selection.exists_readFields_eq_ok_iff (s := Selection.blank)]
  simp only [ofJson_object_eq_ok_iff]
  constructor
  · rintro ⟨_, s, hs, rfl⟩
    exact ⟨s, hs⟩
  · rintro ⟨s, hs⟩
    exact ⟨_, s, hs, rfl⟩

theorem message_selection (fault : SelectionFault) :
    (Error.invalidArgument (.selection fault)).message =
      "Invalid argument: bad select request: " ++ fault.message := by
  change "Invalid argument: " ++ ("bad select request: " ++ fault.message) = _
  rw [← String.append_assoc]
  rfl

/-- Texts are statements, objects are selections, and nothing else is read. An object is read if
each of its keys holds what it may, and then the parts of the selection are what their own keys say,
so neither the order of the keys nor the unknown ones count. Otherwise the first offending key
decides, and what is said is about it, whatever the later ones hold. -/
theorem ofJson_iff_grammar :
    (∀ text, ofJson (.string text) = .ok (.sql text)) ∧
      (∀ j : Json, (∀ text, j ≠ .string text) → (∀ fields, j ≠ .object fields) →
        ofJson j = .error (.invalidArgument .neitherTextNorObject)) ∧
      (∀ fields : List (String × Json),
        ((∃ q, ofJson (.object fields) = .ok q) ↔ ∀ e ∈ fields, Selection.Admissible e) ∧
        ∀ error, ofJson (.object fields) = .error error ↔ ∃ before key j after fault text,
          fields = before ++ (key, j) :: after ∧ (∀ e ∈ before, Selection.Admissible e) ∧
            Selection.Complaint key j fault text ∧ error = .invalidArgument (.selection fault) ∧
            error.message = "Invalid argument: bad select request: " ++ text) ∧
      ∀ fields : List (String × Json), (fields.map Prod.fst).Nodup →
        (∀ q, ofJson (.object fields) = .ok q ↔
          ∃ s, Selection.Describes fields s ∧ q = .selection s) ∧
        ∀ fields' : List (String × Json), (fields'.map Prod.fst).Nodup →
          (∀ (α : Type) (k : Selection.Key α), Selection.IsKey k → ∀ j,
            (k.name, j) ∈ fields ↔ (k.name, j) ∈ fields') →
          ∀ q, ofJson (.object fields) = .ok q → ofJson (.object fields') = .ok q := by
  refine ⟨fun _ => rfl, ?_, fun fields => ⟨exists_ofJson_object_eq_ok_iff, fun error => ?_⟩,
    fun fields hnodup => ?_⟩
  · intro j hs ho
    cases j with
    | string text => exact absurd rfl (hs text)
    | object fields => exact absurd rfl (ho fields)
    | null | bool | number | array => rfl
  · simp only [ofJson_object_eq_error_iff, Selection.readFields_eq_error_iff]
    constructor
    · rintro ⟨fault, ⟨before, key, j, after, text, he, hb, hc⟩, rfl⟩
      refine ⟨before, key, j, after, fault, text, he, hb, hc, rfl, ?_⟩
      rw [hc.eq_message]
      exact message_selection fault
    · rintro ⟨before, key, j, after, fault, text, he, hb, hc, rfl, -⟩
      exact ⟨fault, ⟨before, key, j, after, text, he, hb, hc⟩, rfl⟩
  · have hread (q : Query) : ofJson (.object fields) = .ok q ↔
        ∃ s, Selection.Describes fields s ∧ q = .selection s := by
      simp only [ofJson_object_eq_ok_iff, Selection.readFields_eq_ok_iff hnodup]
    refine ⟨hread, fun fields' hnodup' hsame q hq => ?_⟩
    obtain ⟨s, hs, rfl⟩ := (hread q).1 hq
    have hs' := hs.congr hsame
    exact ofJson_object_eq_ok_iff.2 ⟨s, (Selection.readFields_eq_ok_iff hnodup').2 hs', rfl⟩

/-- An unknown key, another order, the greatest limit, and an object with two faults. -/
theorem ofJson_of_permuted_keys :
    let limit : Json := .number (.integer 0xFFFFFFFFFFFFFFFF (by decide) (by decide))
    let fields : List (String × Json) :=
      [("limit", limit), ("hint", .bool true), ("where", .string ""), ("table", .null)]
    let fields' : List (String × Json) :=
      [("table", .null), ("limit", limit), ("where", .string "")]
    let faulty : List (String × Json) :=
      [("order", .null), ("offset", Json.ofInt (-1)), ("table", .bool true)]
    let q : Query := .selection ⟨"", none, some .all, none, some 0xFFFFFFFFFFFFFFFF, none⟩
    let error : Error := .invalidArgument (.selection (.negative (-1)))
    (fields.map Prod.fst).Nodup ∧ (fields'.map Prod.fst).Nodup ∧
      ofJson (.object fields) = .ok q ∧ ofJson (.object fields') = .ok q ∧
      ofJson (.object faulty) = .error error ∧
      error.message = "Invalid argument: bad select request: invalid value: " ++
        "integer `-1`, expected u64" ∧
      ofJson (.bool true) = .error (.invalidArgument .neitherTextNorObject) := by
  intro limit fields fields' faulty q error
  obtain ⟨-, hforeign, hobject, hkeys⟩ := ofJson_iff_grammar
  have hnodup : (fields.map Prod.fst).Nodup := by decide
  have hnodup' : (fields'.map Prod.fst).Nodup := by decide
  have hsame : ∀ (α : Type) (k : Selection.Key α), Selection.IsKey k → ∀ j,
      (k.name, j) ∈ fields ↔ (k.name, j) ∈ fields' := by
    intro α k hk j
    cases hk <;> simp [fields, fields', Selection.Key.table, Selection.Key.columns,
      Selection.Key.filter, Selection.Key.order, Selection.Key.limit, Selection.Key.offset]
  have hread : ofJson (.object fields) = .ok q := rfl
  have horder : ∀ e ∈ [("order", Json.null)], Selection.Admissible e := by
    intro e he
    obtain rfl := List.mem_singleton.1 he
    exact fun α k _ _ => ⟨k.absent, .inl ⟨rfl, rfl⟩⟩
  have hmessage : error.message =
      "Invalid argument: bad select request: " ++ "invalid value: integer `-1`, expected u64" := rfl
  refine ⟨hnodup, hnodup', hread, (hkeys fields hnodup).2 fields' hnodup' hsame q hread, ?_,
    hmessage, ?_⟩
  · exact ((hobject faulty).2 _).2 ⟨[("order", .null)], "offset", Json.ofInt (-1),
      [("table", .bool true)], .negative (-1), _, rfl, horder, .negative (.inr rfl) (by decide),
      rfl, hmessage⟩
  · exact hforeign (.bool true) (by rintro _ ⟨⟩) (by rintro _ ⟨⟩)

end Query

end Querysmith
