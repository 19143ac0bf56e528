import Querysmith.Json.Printer
import Querysmith.Json.Reader
import Querysmith.Cell.Basic
import Querysmith.Record

namespace Querysmith

namespace Json

open Text

theorem hexValue?_digitChar : ∀ n < 16, hexValue? (Nat.digitChar n) = some n := by
  decide

theorem readChars_code (c : Char) (hc : c.toNat < 0x20) (rest : List Char) :
    readChars .plain ('\\' :: 'u' :: '0' :: '0' :: Nat.digitChar (c.toNat / 16) ::
      Nat.digitChar (c.toNat % 16) :: rest) =
      (readChars .plain rest).map fun r => (c :: r.1, r.2) := by
  have hhigh := hexValue?_digitChar (c.toNat / 16) (by omega)
  have hlow := hexValue?_digitChar (c.toNat % 16) (by omega)
  have hzero : hexValue? '0' = some 0 := rfl
  have hvalue : 16 * (c.toNat / 16) + c.toNat % 16 = c.toNat := Nat.div_add_mod c.toNat 16
  have hunit : codeUnit? none c.toNat = some (.char c) := by
    have hlead : isLeadUnit c.toNat = false := by
      rw [isLeadUnit, decide_eq_false (by omega), Bool.false_and]
    have htrail : isTrailUnit c.toNat = false := by
      rw [isTrailUnit, decide_eq_false (by omega), Bool.false_and]
    simp only [codeUnit?, hlead, htrail, Bool.false_eq_true, if_false, Char.ofNat_toNat]
  simp [readChars, hhigh, hlow, hzero, hvalue, hunit]

theorem readChars_escape (c : Char) (rest : List Char) :
    readChars .plain (escape c ++ rest) =
      (readChars .plain rest).map fun r => (c :: r.1, r.2) := by
  by_cases hshort : c ∈ ['"', '\\', '\x08', '\x0c', '\n', '\r', '\t']
  · simp only [List.mem_cons, List.not_mem_nil, or_false] at hshort
    rcases hshort with rfl | rfl | rfl | rfl | rfl | rfl | rfl <;> rfl
  · simp only [List.mem_cons, List.not_mem_nil, or_false, not_or] at hshort
    obtain ⟨hquote, hslash, hb, hf, hn, hr, ht⟩ := hshort
    rw [escape, if_neg hquote, if_neg hslash, if_neg hb, if_neg hf, if_neg hn, if_neg hr, if_neg ht]
    by_cases hc : c.toNat < 0x20
    · rw [if_pos hc]
      exact readChars_code c hc rest
    · rw [if_neg hc, List.singleton_append, readChars, if_neg hquote, if_neg hslash, if_neg hc]

theorem readChars_flatMap_escape (cs rest : List Char) :
    readChars .plain (cs.flatMap escape ++ '"' :: rest) = some (cs, rest) := by
  induction cs with
  | nil => rfl
  | cons c cs ih => rw [List.flatMap_cons, List.append_assoc, readChars_escape, ih, Option.map_some]

theorem toList_quote (s : String) :
    (quote s).toList = '"' :: (s.toList.flatMap escape ++ ['"']) :=
  String.toList_ofList

def NumberEnds (rest : List Char) : Prop :=
  ∀ c ∈ rest.head?, c.isDigit = false ∧ c ≠ '.' ∧ c ≠ 'e' ∧ c ≠ 'E'

theorem NumberEnds.stops {rest : List Char} (h : NumberEnds rest) : Stops rest :=
  fun c hc => (h c hc).1

theorem NumberEnds.takeFraction {rest : List Char} (h : NumberEnds rest) :
    takeFraction rest = some ([], rest) := by
  rw [Json.takeFraction]
  rintro tail rfl
  exact (h '.' rfl).2.1 rfl

theorem NumberEnds.takeExponent {rest : List Char} (h : NumberEnds rest) :
    takeExponent rest = some (none, rest) := by
  cases rest with
  | nil => rfl
  | cons c rest =>
      obtain ⟨-, -, he, hE⟩ := h c rfl
      rw [Json.takeExponent, if_neg (not_or.2 ⟨he, hE⟩)]

theorem takeDigits_append {ds rest : List Char} (hd : ∀ c ∈ ds, c.isDigit = true)
    (hr : Stops rest) : takeDigits (ds ++ rest) = (ds.map digitValue, rest) := by
  rw [takeDigits, takeWhile_isDigit_append hd hr, List.dropWhile_append_of_pos hd,
    hr.dropWhile_eq_self]

def digits (n : Nat) : List Nat :=
  (Nat.toDigits 10 n).map digitValue

theorem digitValue_digitChar : ∀ n < 10, digitValue (Nat.digitChar n) = n := by
  decide

theorem digits_of_lt {n : Nat} (h : n < 10) : digits n = [n] := by
  rw [digits, Nat.toDigits_of_lt_base h, List.map_singleton, digitValue_digitChar n h]

theorem digits_of_ge {n : Nat} (h : 10 ≤ n) : digits n = digits (n / 10) ++ [n % 10] := by
  have hlast := digitValue_digitChar (n % 10) (Nat.mod_lt n (by decide))
  rw [digits, Nat.toDigits_of_base_le (by decide) h, List.map_append, List.map_singleton, hlast,
    digits]

theorem digits_ne_nil (n : Nat) : digits n ≠ [] :=
  fun h => Nat.toDigits_ne_nil (List.map_eq_nil_iff.1 h)

theorem head?_digits {n : Nat} (hn : n ≠ 0) : (digits n).head? ≠ some 0 := by
  induction n using Nat.strongRecOn with
  | ind n ih =>
      by_cases hsmall : n < 10
      · rw [digits_of_lt hsmall]
        simpa using hn
      · have hfront := ih (n / 10) (by omega) (by omega)
        obtain ⟨d, ds, hd⟩ := List.exists_cons_of_ne_nil (digits_ne_nil (n / 10))
        rw [digits_of_ge (by omega), hd]
        rwa [hd] at hfront

theorem le_foldl_digits (s : Nat) (ds : List Nat) : s ≤ ds.foldl (fun n d => 10 * n + d) s := by
  induction ds generalizing s with
  | nil => exact Nat.le_refl s
  | cons d ds ih =>
      have h := ih (10 * s + d)
      rw [List.foldl_cons]
      omega

theorem absorb_eq {s : Nat} {ds : List Nat}
    (h : ds.foldl (fun n d => 10 * n + d) s < 0x10000000000000000) :
    absorb s ds = (ds.foldl (fun n d => 10 * n + d) s, []) := by
  induction ds generalizing s with
  | nil => rfl
  | cons d ds ih =>
      rw [List.foldl_cons] at h ⊢
      have hle := le_foldl_digits (10 * s + d) ds
      rw [absorb, if_pos (by omega)]
      exact ih h

theorem foldl_digits (n : Nat) : (digits n).foldl (fun n d => 10 * n + d) 0 = n := by
  rw [digits, List.foldl_map]
  exact (Nat.ofDigitChars_eq_foldl ..).symm.trans Nat.ofDigitChars_ten_toDigits

theorem absorb_digits {n : Nat} (h : n < 0x10000000000000000) : absorb 0 (digits n) = (n, []) := by
  rw [absorb_eq (by rwa [foldl_digits]), foldl_digits]

theorem takeSign_digits (negative : Bool) (n : Nat) (rest : List Char) :
    takeSign '-' ((if negative then ['-'] else []) ++ (Nat.toDigits 10 n ++ rest)) =
      (negative, Nat.toDigits 10 n ++ rest) := by
  cases negative with
  | true => rfl
  | false =>
      obtain ⟨c, cs, hc⟩ := List.exists_cons_of_ne_nil (Nat.toDigits_ne_nil (b := 10) (n := n))
      have hdigit : c.isDigit = true := isDigit_of_mem_toDigits (hc ▸ List.mem_cons_self)
      have hne : c ≠ '-' := by
        rintro rfl
        cases hdigit
      rw [hc]
      exact if_neg hne

theorem takeNumeral_digits (negative : Bool) (n : Nat) {rest : List Char} (hr : NumberEnds rest) :
    takeNumeral ((if negative then ['-'] else []) ++ (Nat.toDigits 10 n ++ rest)) =
      some (⟨negative, digits n, [], none, false⟩, rest) := by
  have hwhole : takeDigits (Nat.toDigits 10 n ++ rest) = (digits n, rest) :=
    takeDigits_append (fun _ => isDigit_of_mem_toDigits) hr.stops
  have hzero : ((digits n).isEmpty || ((digits n).head? == some 0 && (digits n).length != 1)) =
      false := by
    by_cases hn : n = 0
    · subst hn
      rfl
    · simp [digits_ne_nil, head?_digits hn]
  simp only [takeNumeral, takeSign_digits, hwhole, hzero, Bool.false_eq_true, if_false,
    hr.takeFraction, hr.takeExponent]
  rfl

theorem readNumber_digits (negative : Bool) (n : Nat) (hzero : ¬(negative = true ∧ n = 0)) {i : Int}
    (hi : i = if negative then -(n : Int) else n) (lower : -0x8000000000000000 ≤ i)
    (upper : i < 0x10000000000000000) {rest : List Char} (hr : NumberEnds rest) :
    readNumber ((if negative then ['-'] else []) ++ (Nat.toDigits 10 n ++ rest)) =
      some (.integer i lower upper, rest) := by
  have hn : n < 0x10000000000000000 := by
    split at hi
    · omega
    · omega
  subst hi
  have hvalue : Numeral.value? ⟨negative, digits n, [], none, false⟩ =
      some (.integer _ lower upper) := by
    simp only [Numeral.value?, absorb_digits hn, ofInteger?, if_neg hzero,
      dif_pos (And.intro lower upper)]
  simp only [readNumber, takeNumeral_digits negative n hr, hvalue, Option.map_some]

theorem readNumber_text {n : Int} (lower : -0x8000000000000000 ≤ n)
    (upper : n < 0x10000000000000000) {rest : List Char} (hr : NumberEnds rest) :
    readNumber ((Number.integer n lower upper).text.toList ++ rest) =
      some (.integer n lower upper, rest) := by
  cases n with
  | ofNat n =>
      have htext : (Number.integer (Int.ofNat n) lower upper).text.toList = Nat.toDigits 10 n :=
        toList_toString_ofNat n
      rw [htext]
      exact readNumber_digits false n (by rintro ⟨⟨⟩, _⟩) rfl lower upper hr
  | negSucc n =>
      have htext : (Number.integer (Int.negSucc n) lower upper).text.toList =
          '-' :: Nat.toDigits 10 (n + 1) := toList_toString_negSucc n
      rw [htext]
      exact readNumber_digits true (n + 1) (by rintro ⟨_, ⟨⟩⟩) rfl lower upper hr

theorem compactItems_eq_map (items : List Json) : compactItems items = items.map compact := by
  induction items with
  | nil => rfl
  | cons j items ih => rw [compactItems, ih, List.map_cons]

def fieldText (e : String × Json) : List Char :=
  '"' :: (e.1.toList.flatMap escape ++ '"' :: ':' :: e.2.compact.toList)

theorem toList_compactFields (fields : List (String × Json)) :
    (compactFields fields).map String.toList = fields.map fieldText := by
  induction fields with
  | nil => rfl
  | cons e fields ih =>
      rw [compactFields, List.map_cons, ih, List.map_cons]
      simp [fieldText, toList_quote]

theorem toList_array (items : List Json) :
    (array items).compact.toList =
      '[' :: ([','].intercalate (items.map fun j => j.compact.toList) ++ [']']) := by
  rw [compact, brackets, compactItems_eq_map]
  simp [Function.comp_def]

theorem toList_object (fields : List (String × Json)) :
    (object fields).compact.toList =
      '\x7b' :: ([','].intercalate (fields.map fieldText) ++ ['\x7d']) := by
  rw [compact, braces, ← toList_compactFields]
  simp

theorem depth_le_of_mem_items {items : List Json} {d : Nat} (h : depthItems items ≤ d) :
    ∀ j ∈ items, j.depth ≤ d := by
  induction items with
  | nil => simp
  | cons j items ih =>
      rw [depthItems] at h
      have hrest := ih (by omega)
      rw [List.forall_mem_cons]
      exact ⟨by omega, hrest⟩

theorem depth_le_of_mem_fields {fields : List (String × Json)} {d : Nat}
    (h : depthFields fields ≤ d) : ∀ e ∈ fields, e.2.depth ≤ d := by
  induction fields with
  | nil => simp
  | cons e fields ih =>
      rw [depthFields] at h
      have hrest := ih (by omega)
      rw [List.forall_mem_cons]
      exact ⟨by omega, hrest⟩

/-- Documents whose numbers are all integers and whose objects name no key twice. -/
inductive IsPlain : Json → Prop where
  | null : IsPlain .null
  | bool (b : Bool) : IsPlain (.bool b)
  | integer {n : Int} (lower : -0x8000000000000000 ≤ n) (upper : n < 0x10000000000000000) :
      IsPlain (.number (.integer n lower upper))
  | string (s : String) : IsPlain (.string s)
  | array {items : List Json} (h : ∀ j ∈ items, IsPlain j) : IsPlain (.array items)
  | object {fields : List (String × Json)} (hkeys : (fields.map Prod.fst).Nodup)
      (h : ∀ e ∈ fields, IsPlain e.2) : IsPlain (.object fields)

theorem readValue_string (d : Nat) (s : String) (rest : List Char) :
    readValue d ((string s).compact.toList ++ rest) = some (.string s, rest) := by
  have htext : (string s).compact.toList ++ rest =
      '"' :: (s.toList.flatMap escape ++ '"' :: rest) := by
    rw [compact, toList_quote]
    simp
  rw [htext, readValue, skipBlanks_cons (by decide)]
  simp [readChars_flatMap_escape]

theorem readValue_number (d : Nat) {n : Int} (lower : -0x8000000000000000 ≤ n)
    (upper : n < 0x10000000000000000) {rest : List Char} (hr : NumberEnds rest) :
    readValue d ((number (.integer n lower upper)).compact.toList ++ rest) =
      some (.number (.integer n lower upper), rest) := by
  have hread := readNumber_text lower upper hr
  obtain ⟨c, cs, htext, hne⟩ := exists_toString_eq_cons n
  have hblank : isBlank c = false := by simp [isBlank, hne]
  rw [compact]
  rw [Number.text, htext, List.cons_append] at hread ⊢
  rw [readValue, skipBlanks_cons hblank]
  simp [hne, hread]

theorem readValue_scalar (d : Nat) {j : Json} (hj : j.IsPlain) (hs : j.depth = 0)
    {rest : List Char} (hr : NumberEnds rest) :
    readValue d (j.compact.toList ++ rest) = some (j, rest) := by
  cases hj with
  | null =>
      change readValue d ('n' :: (['u', 'l', 'l'] ++ rest)) = _
      rw [readValue, skipBlanks_cons (by decide)]
      exact (if_pos rfl).trans (readWord_append _ _ rest)
  | bool b =>
      cases b with
      | true =>
          change readValue d ('t' :: (['r', 'u', 'e'] ++ rest)) = _
          rw [readValue, skipBlanks_cons (by decide)]
          refine (if_neg (by decide)).trans ?_
          exact (if_pos rfl).trans (readWord_append _ _ rest)
      | false =>
          change readValue d ('f' :: (['a', 'l', 's', 'e'] ++ rest)) = _
          rw [readValue, skipBlanks_cons (by decide)]
          refine (if_neg (by decide)).trans ((if_neg (by decide)).trans ?_)
          exact (if_pos rfl).trans (readWord_append _ _ rest)
  | integer lower upper => exact readValue_number d lower upper hr
  | string s => exact readValue_string d s rest
  | array h => cases hs
  | object hkeys h => cases hs

theorem readValue_array {d : Nat} {items : List Json} {rest : List Char}
    (h : readList ']' (readValue d)
      ([','].intercalate (items.map fun j => j.compact.toList) ++ ']' :: rest) =
        some (items, rest)) :
    readValue (d + 1) ((array items).compact.toList ++ rest) = some (.array items, rest) := by
  rw [toList_array, List.cons_append, List.append_assoc, readValue, skipBlanks_cons (by decide)]
  simp [h]

theorem readValue_object {d : Nat} {fields : List (String × Json)} {rest : List Char}
    (hkeys : (fields.map Prod.fst).Nodup)
    (h : readList '\x7d' (readField (readValue d))
      ([','].intercalate (fields.map fieldText) ++ '\x7d' :: rest) = some (fields, rest)) :
    readValue (d + 1) ((object fields).compact.toList ++ rest) = some (.object fields, rest) := by
  rw [toList_object, List.cons_append, List.append_assoc, readValue, skipBlanks_cons (by decide)]
  simp [h, OrderedMap.entries_ofList_of_nodup hkeys]

theorem readField_fieldText {read : List Char → Option (Json × List Char)} (e : String × Json)
    {rest : List Char} (h : read (e.2.compact.toList ++ rest) = some (e.2, rest)) :
    readField read (fieldText e ++ rest) = some (e, rest) := by
  have htext : fieldText e ++ rest =
      '"' :: (e.1.toList.flatMap escape ++ '"' :: ':' :: (e.2.compact.toList ++ rest)) := by
    simp [fieldText]
  rw [htext, readField, skipBlanks_cons (by decide)]
  simp [readChars_flatMap_escape, skipBlanks_cons (c := ':') rfl, h]

/-- A document begins with no blank and no closing mark. -/
theorem exists_compact_eq_cons {j : Json} (h : j.IsPlain) :
    ∃ c cs, j.compact.toList = c :: cs ∧ isBlank c = false ∧ c ≠ ']' := by
  cases h with
  | null => exact ⟨'n', _, rfl, by decide, by decide⟩
  | bool b => cases b <;> exact ⟨_, _, rfl, by decide, by decide⟩
  | @integer n =>
      obtain ⟨c, cs, htext, hne⟩ := exists_toString_eq_cons n
      exact ⟨c, cs, htext, by simp [isBlank, hne], hne ']' (by decide) rfl⟩
  | string s => exact ⟨'"', _, toList_quote s, by decide, by decide⟩
  | @array items => exact ⟨'[', _, toList_array items, by decide, by decide⟩
  | @object fields => exact ⟨'\x7b', _, toList_object fields, by decide, by decide⟩

theorem numberEnds_cons {c close : Char} (rest : List Char) (hclose : close = ']' ∨ close = '\x7d')
    (h : c = ',' ∨ c = close) : NumberEnds (c :: rest) := by
  rintro d ⟨⟩
  rcases h with rfl | rfl
  · decide
  · rcases hclose with rfl | rfl
    · decide
    · decide

/-- The induction is on how deep the reader may still go, and the text goes on in any way that does
not prolong a number. -/
theorem readValue_compact {d : Nat} {j : Json} (hj : j.IsPlain) (hd : j.depth ≤ d)
    {rest : List Char} (hr : NumberEnds rest) :
    readValue d (j.compact.toList ++ rest) = some (j, rest) := by
  induction d generalizing j rest with
  | zero => exact readValue_scalar 0 hj (Nat.le_zero.1 hd) hr
  | succ d ih =>
      have hplain := hj
      cases hj with
      | null | bool | integer | string => exact readValue_scalar (d + 1) hplain rfl hr
      | @array items h =>
          have hback : ReadsBack ']' (readValue d) (fun j => j.compact.toList) id
              fun j => j.IsPlain ∧ j.depth ≤ d :=
            ⟨fun rest hj hc => ih hj.1 hj.2 (numberEnds_cons rest (.inl rfl) hc),
              fun hj => exists_compact_eq_cons hj.1⟩
          have hdepth := depth_le_of_mem_items (Nat.le_of_succ_le_succ hd)
          have hlist := hback.readList_intercalate (by decide) (by decide) rest
            fun j hj => ⟨h j hj, hdepth j hj⟩
          rw [List.map_id] at hlist
          exact readValue_array hlist
      | @object fields hkeys h =>
          have hback : ReadsBack '\x7d' (readField (readValue d)) fieldText id
              fun e => e.2.IsPlain ∧ e.2.depth ≤ d :=
            ⟨fun rest he hc => readField_fieldText _
                (ih he.1 he.2 (numberEnds_cons rest (.inr rfl) hc)),
              fun _ => ⟨'"', _, rfl, by decide, by decide⟩⟩
          have hdepth := depth_le_of_mem_fields (Nat.le_of_succ_le_succ hd)
          have hlist := hback.readList_intercalate (by decide) (by decide) rest
            fun e he => ⟨h e he, hdepth e he⟩
          rw [List.map_id] at hlist
          exact readValue_object hkeys hlist

theorem parse?_compact {j : Json} (hj : j.IsPlain) (hd : j.depth ≤ maxDepth) :
    parse? j.compact = some j := by
  have hends : NumberEnds [] := by simp [NumberEnds]
  have hread := readValue_compact hj hd hends
  rw [List.append_nil] at hread
  rw [parse?, hread]
  rfl

end Json

theorem Statement.params_update {mode : ListMode} {table : String} {changes : Record}
    {filter : Option Filter} {s : Statement} (h : update mode table changes filter = .ok s) :
    s.params = changes.bindables ++ (filterFragment mode filter).params := by
  obtain ⟨_, -, -, rfl⟩ := update_eq_ok_iff.1 h
  rfl

namespace Value

theorem bindable_of_isComposite {j : Json} (h : (json j).isComposite = true) :
    (json j).bindable = text j.compact := by
  cases j with
  | array items => rfl
  | object fields => rfl
  | null | bool | number | string => cases h

theorem ofJson_of_isComposite {j : Json} (h : (json j).isComposite = true) :
    ofJson j = json j := by
  cases j with
  | array items => rfl
  | object fields => rfl
  | null | bool | number | string => cases h

end Value

theorem getElem?_bindables {r : Record} {i : Nat} {v : Value} (h : r.values[i]? = some v) :
    r.bindables[i]? = some v.bindable := by
  rw [Record.bindables, List.getElem?_map, h, Option.map_some]

/-- What an insert or an update binds for an array or an object is a text, kept as it is, from which
the same document is read. -/
theorem composite_read_back_from_storage {j : Json} (hc : (Value.json j).isComposite = true)
    (hj : j.IsPlain) (hd : j.depth ≤ 127) :
    ∃ s, (Value.json j).bindable.stored.value = .text s ∧ Json.parse? s = some j ∧
      (Json.parse? s).map Value.ofJson = some (.json j) ∧
      ∀ (r : Record) (i : Nat), r.values[i]? = some (.json j) →
        (∀ table, (Statement.insert table r).params[i]? = some (.text s)) ∧
        ∀ mode table filter st, Statement.update mode table r filter = .ok st →
          st.params[i]? = some (.text s) := by
  have hbind := Value.bindable_of_isComposite hc
  have hparse := Json.parse?_compact hj hd
  refine ⟨j.compact, ?_, hparse, ?_, ?_⟩
  · rw [hbind]
    rfl
  · rw [hparse, Option.map_some, Value.ofJson_of_isComposite hc]
  · intro r i hi
    have hbound := getElem?_bindables hi
    rw [hbind] at hbound
    constructor
    · intro table
      rw [Statement.params_insert, hbound]
    · intro mode table filter st h
      have hlt : i < r.bindables.length := (List.getElem?_eq_some_iff.1 hbound).1
      rw [Statement.params_update h, List.getElem?_append_left hlt, hbound]

theorem nested_document_read_back_from_storage :
    let j : Json := .object [
      ("a\"\\", .array [.number (.integer (-0x8000000000000000) (by decide) (by decide)), .array [],
        .number (.integer 0xFFFFFFFFFFFFFFFF (by decide) (by decide))]),
      ("", .object [("\n", .string "\x01é")])]
    (Value.json j).isComposite = true ∧ j.IsPlain ∧ j.depth ≤ 127 ∧
      ∃ s, Json.parse? s = some j ∧
        (Statement.insert "t" (OrderedMap.empty.insert "doc" (.json j))).params[0]? =
          some (.text s) := by
  intro j
  have hj : j.IsPlain := by
    refine .object (by decide) (List.forall_mem_cons.2 ⟨.array ?_, List.forall_mem_singleton.2 ?_⟩)
    · refine List.forall_mem_cons.2 ⟨.integer _ _, List.forall_mem_cons.2 ⟨?_, ?_⟩⟩
      · exact .array (by simp)
      · exact List.forall_mem_singleton.2 (.integer _ _)
    · exact .object (by decide) (List.forall_mem_singleton.2 (.string _))
  obtain ⟨s, -, hparse, -, hbound⟩ := composite_read_back_from_storage rfl hj (by decide)
  exact ⟨rfl, hj, by decide, s, hparse,
    (hbound (OrderedMap.empty.insert "doc" (.json j)) 0 rfl).1 "t"⟩

end Querysmith
