import Querysmith.Proofs.Reading

namespace Querysmith

/-- The columns that are asked for, with a comma and a blank between names. An empty text and an
empty list ask for all columns. -/
def Columns.asked : Columns → String
  | text s => if s = "" then "*" else s
  | names [] => "*"
  | names (first :: rest) => rest.foldl (fun said column => said ++ ", " ++ column) first

namespace Selection

/-- A selection without the choice between absent and empty parts. -/
structure Normal where
  table : String
  fields : String
  conditions : List (String × Condition)
  order : String
  limit : UInt64
  offset : UInt64
deriving DecidableEq

def normal (s : Selection) : Normal where
  table := s.table
  fields := s.fields.elim "*" Columns.asked
  conditions := filterEntries s.filter
  order := s.order.getD ""
  limit := s.limit.getD 0
  offset := s.offset.getD 0

end Selection

/-- Empty, a plain name, or any number of plain names. -/
def Columns.Plain : Columns → Prop
  | text s => s = "" ∨ IsName s
  | names columns => ∀ column ∈ columns, IsName column

namespace Selection

structure Plain (s : Selection) : Prop where
  table : IsName s.table
  fields : ∀ l, s.fields = some l → l.Plain
  order : ∀ o, s.order = some o → o = "" ∨ IsName o
  filter : PlainFilter s.filter

def countSaid (n : UInt64) : List Char :=
  if n = 0 then [] else Nat.toDigits 10 n.toNat

theorem toList_countText (keyword : String) (n : Option UInt64) :
    (countText keyword n).toList = part keyword.toList (countSaid (n.getD 0)) := by
  cases n with
  | none => rfl
  | some n =>
      rw [countText, Option.getD_some, countSaid, part]
      by_cases h : n = 0
      · simp [h]
      · simp [h]

theorem isNameChar_of_mem_countSaid {n : UInt64} {c : Char} (h : c ∈ countSaid n) :
    isNameChar c = true := by
  rw [countSaid] at h
  split at h
  · simp at h
  · have hd : c.isDigit = true := Nat.isDigit_of_mem_toDigits (by decide) (by decide) h
    simp [isNameChar, Char.isAlphanum, hd]

theorem countSaid_inj {n m : UInt64} (h : countSaid n = countSaid m) : n = m := by
  rw [countSaid, countSaid] at h
  split at h
  · split at h
    · rename_i hn hm
      rw [hn, hm]
    · exact absurd h.symm Nat.toDigits_ne_nil
  · split at h
    · exact absurd h Nat.toDigits_ne_nil
    · have hd := congrArg (Nat.ofDigitChars 10 · 0) h
      simp only [Nat.ofDigitChars_ten_toDigits] at hd
      exact UInt64.toNat_inj.1 hd

theorem toList_orderText (s : Selection) :
    s.orderText.toList = part " order by ".toList (s.order.getD "").toList := by
  rw [orderText, part]
  cases s.order with
  | none => rfl
  | some o =>
      by_cases h : o = ""
      · simp [h]
      · simp [h]

theorem Plain.isNameChar_order {s : Selection} (h : s.Plain) :
    ∀ c ∈ (s.order.getD "").toList, isNameChar c = true := by
  cases ho : s.order with
  | none => simp
  | some o =>
      rcases h.order o ho with rfl | hn
      · simp
      · exact hn.2

theorem intercalate_ne_empty {columns : List String} (hc : columns ≠ [])
    (hn : ∀ column ∈ columns, IsName column) : ", ".intercalate columns ≠ "" := by
  obtain ⟨column, rest, rfl⟩ := List.exists_cons_of_ne_nil hc
  intro he
  have ht := congrArg String.toList he
  rw [String.toList_intercalate, ← List.append_nil (List.intercalate _ _),
    Readable.intercalate_cons_append] at ht
  exact (hn column List.mem_cons_self).toList_ne_nil (List.append_eq_nil_iff.1 ht).1

theorem Plain.fieldsText_eq {s : Selection} (h : s.Plain) :
    s.fieldsText = "*" ∨ ∃ columns, columns ≠ [] ∧ (∀ column ∈ columns, IsName column) ∧
      s.fieldsText = ", ".intercalate columns := by
  rw [fieldsText]
  cases hf : s.fields with
  | none => exact .inl rfl
  | some l =>
      have hl := h.fields l hf
      cases l with
      | text t =>
          rcases hl with rfl | ht
          · exact .inl rfl
          · exact .inr ⟨[t], by simp, by simpa using ht, by simp [Columns.render, ht.1]⟩
      | names columns =>
          by_cases hc : columns = []
          · subst hc
            exact .inl rfl
          · exact .inr ⟨columns, hc, hl, by simp [Columns.render, intercalate_ne_empty hc hl]⟩

theorem intercalate_cons_eq_foldl (first : String) (rest : List String) :
    ", ".intercalate (first :: rest) =
      rest.foldl (fun said column => said ++ ", " ++ column) first := by
  induction rest generalizing first with
  | nil => simp
  | cons column rest ih =>
      rw [List.foldl_cons, ← ih]
      simp [String.append_assoc]

/-- No list of names is written as nothing, so what is rendered is what is asked for. -/
theorem Plain.fieldsText_eq_asked {s : Selection} (h : s.Plain) :
    s.fieldsText = s.fields.elim "*" Columns.asked := by
  rw [fieldsText]
  cases hf : s.fields with
  | none => rfl
  | some l =>
      have hl := h.fields l hf
      cases l with
      | text t => rfl
      | names columns =>
          cases columns with
          | nil => rfl
          | cons first rest =>
              have hne := intercalate_ne_empty (List.cons_ne_nil first rest) hl
              change Columns.render (.names (first :: rest)) =
                Columns.asked (.names (first :: rest))
              rw [Columns.render, Columns.asked, ← intercalate_cons_eq_foldl, if_neg hne]

theorem star_ne_names {columns : List String} (hc : columns ≠ [])
    (hn : ∀ column ∈ columns, IsName column) (r r' : List Char) :
    "*".toList ++ r ≠ (", ".intercalate columns).toList ++ r' := by
  obtain ⟨column, rest, rfl⟩ := List.exists_cons_of_ne_nil hc
  have hname := hn column List.mem_cons_self
  have hstar : Ends ("*".toList ++ r) := ends_cons (by decide)
  rw [String.toList_intercalate, Readable.intercalate_cons_append]
  exact hstar.not_name_append hname.toList_ne_nil hname.2

theorem fieldsText_append_inj {s t : Selection} (hs : s.Plain) (ht : t.Plain) {r r' : List Char}
    (h : s.fieldsText.toList ++ ' ' :: r = t.fieldsText.toList ++ ' ' :: r') :
    s.fieldsText = t.fieldsText ∧ r = r' := by
  have hsp (u : List Char) : Ends (' ' :: u) := ends_cons (by decide)
  have hcomma (u : List Char) : ∀ v, ' ' :: u ≠ ',' :: v := by simp
  rcases hs.fieldsText_eq with hs | ⟨columns, hc, hn, hs⟩
  · rcases ht.fieldsText_eq with ht | ⟨columns', hc', hn', ht⟩
    · rw [hs, ht] at h ⊢
      exact ⟨rfl, (List.cons.inj (List.append_cancel_left h)).2⟩
    · rw [hs, ht] at h
      exact absurd h (star_ne_names hc' hn' _ _)
  · rcases ht.fieldsText_eq with ht | ⟨columns', hc', hn', ht⟩
    · rw [hs, ht] at h
      exact absurd h.symm (star_ne_names hc hn _ _)
    · rw [hs, ht] at h ⊢
      obtain ⟨hcols, hr⟩ := names_append_inj hn hn' (hsp r) (hsp r') (hcomma r) (hcomma r') h
      exact ⟨congrArg _ hcols, (List.cons.inj hr).2⟩

def tailText (s : Selection) : List Char :=
  part " order by ".toList (s.order.getD "").toList ++
    (part " limit ".toList (countSaid (s.limit.getD 0)) ++
      part " offset ".toList (countSaid (s.offset.getD 0)))

theorem toList_sqlText (s : Selection) (table : String) (filter : Fragment) :
    (s.sqlText table filter).toList = "select ".toList ++ (s.fieldsText.toList ++
      (" from ".toList ++ (table.toList ++ (filter.text.toList ++ s.tailText)))) := by
  unfold sqlText
  simp only [String.toList_append, toList_orderText, toList_countText, tailText, List.append_assoc]

theorem closes_tailText (s : Selection) : Closes s.tailText := by
  rw [tailText, part, part, part]
  split
  · split
    · split
      · exact .inl rfl
      · exact .inr ⟨_, _, rfl, by decide, by decide⟩
    · exact .inr ⟨_, _, rfl, by decide, by decide⟩
  · exact .inr ⟨_, _, rfl, by decide, by decide⟩

theorem tailText_inj {s t : Selection} (hs : s.Plain) (ht : t.Plain)
    (h : s.tailText = t.tailText) :
    s.order.getD "" = t.order.getD "" ∧ s.limit.getD 0 = t.limit.getD 0 ∧
      s.offset.getD 0 = t.offset.getD 0 := by
  have hd (n : UInt64) : ∀ c ∈ countSaid n, isNameChar c = true :=
    fun _ => isNameChar_of_mem_countSaid
  have hlimit (u : List Char) : Ends (" limit ".toList ++ u) := ends_cons (by decide)
  have hoffset (u : List Char) : Ends (" offset ".toList ++ u) := ends_cons (by decide)
  have hlast (n : UInt64) : Ends (part " offset ".toList (countSaid n)) := by
    rw [← List.append_nil (part _ _)]
    exact ends_part hoffset ends_nil
  have hof (u v : List Char) : " offset ".toList ++ u ≠ " limit ".toList ++ v := by simp
  have hol (u v : List Char) : " limit ".toList ++ u ≠ " order by ".toList ++ v := by simp
  have hoo (u v : List Char) : " offset ".toList ++ u ≠ " order by ".toList ++ v := by simp
  have hnoLimit (n : UInt64) (v : List Char) :
      part " offset ".toList (countSaid n) ≠ " limit ".toList ++ v := by
    rw [← List.append_nil (part _ _)]
    exact part_append_ne hof (by simp)
  have hnoOrder (n m : UInt64) (v : List Char) :
      part " limit ".toList (countSaid n) ++ part " offset ".toList (countSaid m) ≠
        " order by ".toList ++ v := by
    refine part_append_ne hol ?_
    rw [← List.append_nil (part _ _)]
    exact part_append_ne hoo (by simp)
  rw [tailText, tailText] at h
  obtain ⟨ho, h⟩ := part_append_inj hs.isNameChar_order ht.isNameChar_order
    (ends_part hlimit (hlast _)) (ends_part hlimit (hlast _)) (hnoOrder _ _) (hnoOrder _ _) h
  obtain ⟨hl, h⟩ := part_append_inj (hd _) (hd _) (hlast _) (hlast _) (hnoLimit _) (hnoLimit _) h
  rw [← List.append_nil (part _ (countSaid (s.offset.getD 0))),
    ← List.append_nil (part _ (countSaid (t.offset.getD 0)))] at h
  obtain ⟨hn, -⟩ := part_append_inj (hd _) (hd _) ends_nil ends_nil (by simp) (by simp) h
  exact ⟨String.toList_inj.1 ho, countSaid_inj hl, countSaid_inj hn⟩

theorem Plain.compile_eq {s : Selection} (h : s.Plain) :
    s.compile .parameterized = .ok ⟨s.sqlText s.table (filterFragment .parameterized s.filter),
      (filterFragment .parameterized s.filter).params⟩ := by
  simp only [compile, safeName?_of_isName h.table]

theorem Plain.toList_sqlText {s : Selection} (h : s.Plain) :
    (s.sqlText s.table (filterFragment .parameterized s.filter)).toList =
      "select ".toList ++ (s.fieldsText.toList ++ ' ' :: ("from ".toList ++ (s.table.toList ++
        (Conditions.whereText (filterEntries s.filter) ++ s.tailText)))) := by
  rw [Selection.toList_sqlText, h.filter.toList_text]
  rfl

theorem sqlText_inj {s t : Selection} (hs : s.Plain) (ht : t.Plain)
    (h : s.sqlText s.table (filterFragment .parameterized s.filter) =
      t.sqlText t.table (filterFragment .parameterized t.filter)) :
    s.fieldsText = t.fieldsText ∧ s.table = t.table ∧
      Conditions.Alike .parameterized (filterEntries s.filter) (filterEntries t.filter) ∧
      s.tailText = t.tailText := by
  have hl := congrArg String.toList h
  rw [hs.toList_sqlText, ht.toList_sqlText] at hl
  have hends (u : Selection) : Ends (Conditions.whereText (filterEntries u.filter) ++ u.tailText) :=
    Conditions.whereText_append_ends _ u.closes_tailText.ends
  obtain ⟨hfields, hl⟩ := fieldsText_append_inj hs ht (List.append_cancel_left hl)
  obtain ⟨htable, hl⟩ := name_append_inj hs.table ht.table (hends s) (hends t)
    (List.append_cancel_left hl)
  obtain ⟨hwhere, htail⟩ := Conditions.whereText_append_inj (fun _ => hs.filter.isName)
    (fun _ => ht.filter.isName) s.closes_tailText t.closes_tailText hl
  exact ⟨hfields, htable, hwhere, htail⟩

/-- Selections with plain names compile, and to the same statement only if they say the same. -/
theorem compile_eq_iff_normal_eq {s t : Selection} (hs : s.Plain) (ht : t.Plain) :
    ∃ a b, s.compile .parameterized = .ok a ∧ t.compile .parameterized = .ok b ∧
      (a = b ↔ s.normal = t.normal) := by
  refine ⟨_, _, hs.compile_eq, ht.compile_eq, ?_⟩
  constructor
  · intro h
    obtain ⟨htext, hparams⟩ := Statement.mk.inj h
    obtain ⟨hfields, htable, hwhere, htail⟩ := sqlText_inj hs ht htext
    obtain ⟨horder, hlimit, hoffset⟩ := tailText_inj hs ht htail
    rw [hs.filter.params_eq, ht.filter.params_eq] at hparams
    have hentries := Conditions.eq_of_alike hwhere hparams
    rw [hs.fieldsText_eq_asked, ht.fieldsText_eq_asked] at hfields
    rw [normal, normal, hfields, htable, hentries, horder, hlimit, hoffset]
  · intro h
    obtain ⟨htable, hfields, hentries, horder, hlimit, hoffset⟩ := Normal.mk.inj h
    rw [← hs.fieldsText_eq_asked, ← ht.fieldsText_eq_asked] at hfields
    have htail : s.tailText = t.tailText := by rw [tailText, tailText, horder, hlimit, hoffset]
    have htext : s.sqlText s.table (filterFragment .parameterized s.filter) =
        t.sqlText t.table (filterFragment .parameterized t.filter) := by
      rw [← String.toList_inj, hs.toList_sqlText, ht.toList_sqlText, hfields, htable, hentries,
        htail]
    rw [htext, hs.filter.params_eq, ht.filter.params_eq, hentries]

theorem compile_eq_of_keyword_names :
    let s : Selection := ⟨"from", some (.names ["where", "limit"]), some (.fields (OrderedMap.ofList
      [("and", .oneOf []), ("in", .equals (.text "?"))])), some "order", none, some 0⟩
    let t : Selection := { s with limit := some 0, offset := none }
    let u : Selection := { s with order := some "" }
    s.Plain ∧ t.Plain ∧ u.Plain ∧ s.normal.fields = "where, limit" ∧
      s.normal = t.normal ∧ s.normal ≠ u.normal ∧
      (∃ a, s.compile .parameterized = .ok a ∧ t.compile .parameterized = .ok a) ∧
      (∃ a b, s.compile .parameterized = .ok a ∧ u.compile .parameterized = .ok b ∧ a ≠ b) := by
  intro s t u
  have hfields : ∀ l, s.fields = some l → l.Plain := by
    rintro _ ⟨⟩ column hc
    rcases List.mem_pair.1 hc with rfl | rfl <;> decide
  have hfilter : PlainFilter s.filter := by
    rintro _ ⟨⟩
    refine ⟨_, rfl, ?_⟩
    intro field hf
    rcases List.mem_pair.1 hf with rfl | rfl <;> decide
  have htable : IsName s.table := by decide
  have horder : ∀ o, s.order = some o → o = "" ∨ IsName o := by
    rintro _ ⟨⟩
    exact .inr (by decide)
  have hs : s.Plain := ⟨htable, hfields, horder, hfilter⟩
  have ht : t.Plain := ⟨htable, hfields, horder, hfilter⟩
  have hu : u.Plain := ⟨htable, hfields, by rintro _ ⟨⟩; exact .inl rfl, hfilter⟩
  have hst : s.normal = t.normal := rfl
  have hsu : s.normal ≠ u.normal := fun h => absurd (congrArg Normal.order h) (by decide)
  obtain ⟨a, b, ha, hb, hab⟩ := compile_eq_iff_normal_eq hs ht
  obtain ⟨c, d, hc, hd, hcd⟩ := compile_eq_iff_normal_eq hs hu
  have he : a = b := hab.2 hst
  subst he
  exact ⟨hs, ht, hu, rfl, hst, hsu, ⟨a, ha, hb⟩, ⟨c, d, hc, hd, fun h => hsu (hcd.1 h)⟩⟩

end Selection

end Querysmith
