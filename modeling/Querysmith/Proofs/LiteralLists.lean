import Querysmith.Filter.Basic
import Querysmith.Proofs.TimestampReading
import Querysmith.Sql.Token

namespace Querysmith

namespace Text

def readNatural (cs : List Char) : Option (Nat × List Char) :=
  match cs.takeWhile Char.isDigit with
  | [] => none
  | ds => some (Nat.ofDigitChars 10 ds 0, cs.drop ds.length)

def readInteger (cs : List Char) : Option (Int × List Char) :=
  match cs with
  | '-' :: rest => (readNatural rest).map fun (n, rest) => (-(n : Int), rest)
  | _ => (readNatural cs).map fun (n, rest) => ((n : Int), rest)

def readUntil (close : Char) (cs : List Char) : Option (List Char × List Char) :=
  match cs.dropWhile (· ≠ close) with
  | _ :: rest => some (cs.takeWhile (· ≠ close), rest)
  | [] => none

theorem readNatural_append {ds rest : List Char} (hne : ds ≠ [])
    (hd : ∀ c ∈ ds, c.isDigit = true) (hr : Stops rest) :
    readNatural (ds ++ rest) = some (Nat.ofDigitChars 10 ds 0, rest) := by
  rw [readNatural, takeWhile_isDigit_append hd hr]
  split
  · exact absurd rfl hne
  · rw [List.drop_left]

theorem readNatural_toDigits (n : Nat) {rest : List Char} (hr : Stops rest) :
    readNatural (Nat.toDigits 10 n ++ rest) = some (n, rest) := by
  rw [readNatural_append Nat.toDigits_ne_nil (fun _ => isDigit_of_mem_toDigits) hr,
    Nat.ofDigitChars_ten_toDigits]

theorem readInteger_toString (n : Int) {rest : List Char} (hr : Stops rest) :
    readInteger ((toString n).toList ++ rest) = some (n, rest) := by
  cases n with
  | ofNat n =>
      -- The sign is read off the text, so a number without one must not begin like it.
      have hsign (tail : List Char) : Nat.toDigits 10 n ++ rest ≠ '-' :: tail :=
        digits_append_ne_cons Nat.toDigits_ne_nil (fun _ => isDigit_of_mem_toDigits) (by decide)
      rw [Int.ofNat_eq_natCast, toList_toString_ofNat, readInteger, readNatural_toDigits n hr,
        Option.map_some]
      exact hsign
  | negSucc n =>
      rw [toList_toString_negSucc, List.cons_append]
      change (readNatural (Nat.toDigits 10 (n + 1) ++ rest)).map _ = _
      rw [readNatural_toDigits (n + 1) hr]
      rfl

theorem readUntil_append {close : Char} {s : List Char} (rest : List Char) (h : close ∉ s) :
    readUntil close (s ++ close :: rest) = some (s, rest) := by
  have hopen : ∀ c ∈ s, decide (c ≠ close) = true := by
    intro c hc
    exact decide_eq_true fun e => h (e ▸ hc)
  have hdrop : (s ++ close :: rest).dropWhile (· ≠ close) = close :: rest := by
    rw [List.dropWhile_append_of_pos hopen]
    simp
  have htake : (s ++ close :: rest).takeWhile (· ≠ close) = s := by
    rw [List.takeWhile_append_of_pos hopen]
    simp
  rw [readUntil, hdrop, htake]

end Text

inductive Element where
  | written (c : Cell)
  | place

namespace Element

def readBlob (cs : List Char) : Option (Element × List Char) := do
  let (ds, rest) ← Text.readUntil '\'' cs
  if ds.all Sql.isHexDigit ∧ ds.length % 2 = 0 then
    some (written (.blob (Sql.hexBytes ds)), rest)
  else none

def read (cs : List Char) : Option (Element × List Char) :=
  match cs with
  | '?' :: rest => some (place, rest)
  | '"' :: rest =>
      (Text.readUntil '"' rest).map fun (s, rest) => (written (.text (String.ofList s)), rest)
  | 'X' :: '\'' :: rest => readBlob rest
  | 'n' :: _ => Text.readWord ['n', 'u', 'l', 'l'] (written .null) cs
  | _ => (Text.readInteger cs).map fun (n, rest) => (written (.ofInt n), rest)

end Element

theorem hexDigit_upper : ∀ n < 16, Sql.hexDigit (Nat.digitChar n).toUpper = n := by
  decide

theorem isHexDigit_upper : ∀ n < 16, Sql.isHexDigit (Nat.digitChar n).toUpper = true := by
  decide

theorem length_flatMap_upperHex (bytes : List UInt8) :
    (bytes.flatMap upperHex).length = 2 * bytes.length := by
  induction bytes with
  | nil => rfl
  | cons b bytes ih =>
      rw [List.flatMap_cons, List.length_append, ih, List.length_cons]
      change 2 + 2 * bytes.length = _
      omega

theorem isHexDigit_of_mem_upperHex {bytes : List UInt8} {c : Char}
    (h : c ∈ bytes.flatMap upperHex) : Sql.isHexDigit c = true := by
  obtain ⟨b, -, hc⟩ := List.mem_flatMap.1 h
  have hb : b.toNat < 256 := b.toNat_lt
  simp only [upperHex, List.mem_cons, List.not_mem_nil, or_false] at hc
  rcases hc with rfl | rfl
  · exact isHexDigit_upper (b.toNat / 16) (by omega)
  · exact isHexDigit_upper (b.toNat % 16) (by omega)

theorem hexBytes_flatMap_upperHex (bytes : List UInt8) :
    Sql.hexBytes (bytes.flatMap upperHex) = bytes := by
  induction bytes with
  | nil => rfl
  | cons b bytes ih =>
      have hb : b.toNat < 256 := b.toNat_lt
      have hback : 16 * (b.toNat / 16) + b.toNat % 16 = b.toNat := by omega
      simp only [List.flatMap_cons, upperHex, List.cons_append, List.nil_append, Sql.hexBytes, ih,
        hexDigit_upper (b.toNat / 16) (by omega), hexDigit_upper (b.toNat % 16) (by omega), hback,
        UInt8.ofNat_toNat]

namespace Value

/-- Values whose literals need no quotes. -/
def IsWord : Value → Prop
  | int _ | bool _ | null | blob _ => True
  | _ => False

/-- Values whose literals stand between quotes and have none themselves. -/
def IsPlainText : Value → Prop
  | text s => '"' ∉ s.toList
  | timestamp _ => True
  | _ => False

end Value

theorem Timestamp.quote_not_mem_text (t : Timestamp) : '"' ∉ t.text.toList := by
  have htext : t.text.toList = t.chars := String.toList_ofList
  rw [htext]
  exact t.not_mem_chars (by decide) (by decide)

namespace Element

theorem read_toString (n : Int) {rest : List Char} (hr : Text.Stops rest) :
    read ((toString n).toList ++ rest) = some (written (.ofInt n), rest) := by
  have hread := Text.readInteger_toString n hr
  obtain ⟨c, cs, htext, hne⟩ := Text.exists_toString_eq_cons n
  rw [htext, List.cons_append] at hread ⊢
  have hother (d : Char) (hd : d ≠ '-') (hdigit : d.isDigit = false) (tail : List Char) :
      c :: (cs ++ rest) ≠ d :: tail :=
    fun e => hne d hd hdigit (List.cons.inj e).1
  -- Behind every other first character the reader takes another way.
  rw [read, hread, Option.map_some]
  · exact hother '?' (by decide) rfl
  · exact hother '"' (by decide) rfl
  · intro tail
    exact hother 'X' (by decide) rfl _
  · exact hother 'n' (by decide) rfl

theorem read_blob (bytes : List UInt8) (rest : List Char) :
    read ((Value.blob bytes).literal.toList ++ rest) = some (written (.blob bytes), rest) := by
  have htext : (Value.blob bytes).literal.toList ++ rest =
      'X' :: '\'' :: (bytes.flatMap upperHex ++ '\'' :: rest) := by
    simp [Value.literal]
  have hquote : '\'' ∉ bytes.flatMap upperHex := by
    intro h
    exact absurd (isHexDigit_of_mem_upperHex h) (by decide)
  have hdigits : (bytes.flatMap upperHex).all Sql.isHexDigit = true :=
    List.all_eq_true.2 fun _ => isHexDigit_of_mem_upperHex
  have heven : (bytes.flatMap upperHex).length % 2 = 0 := by
    rw [length_flatMap_upperHex, Nat.mul_mod_right]
  simp only [htext, read, readBlob, Text.readUntil_append rest hquote, Option.bind_eq_bind,
    Option.bind_some, hdigits, heven, hexBytes_flatMap_upperHex, and_self, if_true]

theorem read_quoted {s : String} (rest : List Char) (h : '"' ∉ s.toList) :
    read ('"' :: (s.toList ++ '"' :: rest)) = some (written (.text s), rest) := by
  rw [read, Text.readUntil_append rest h, Option.map_some]
  change some (written (.text (String.ofList s.toList)), rest) = _
  rw [String.ofList_toList]

theorem stops_of_goes_on {c : Char} (rest : List Char) (h : c = ',' ∨ c = ')') :
    Text.Stops (c :: rest) := by
  rcases h with rfl | rfl
  · exact Text.stops_cons (by decide)
  · exact Text.stops_cons (by decide)

theorem words_readsBack : Text.ReadsBack ')' read (fun v => v.literal.toList)
    (fun v => written v.cell) Value.IsWord where
  read_append := by
    intro v c rest hv hc
    have hstops := stops_of_goes_on rest hc
    cases v with
    | int i =>
        rw [Value.literal, read_toString _ hstops, Cell.ofInt_toInt]
        rfl
    | bool b =>
        have hbit : (Value.bool b).literal = toString (if b then 1 else 0 : Int64).toInt := by
          cases b <;> rfl
        rw [hbit, read_toString _ hstops, Cell.ofInt_toInt]
        rfl
    | null => exact Text.readWord_append _ _ _
    | blob bytes => exact read_blob bytes _
    | _ => exact hv.elim
  start := by
    intro v hv
    have hnumber (n : Int) : ∃ c cs, (toString n).toList = c :: cs ∧ Text.isBlank c = false ∧
        c ≠ ')' := by
      obtain ⟨c, cs, htext, hne⟩ := Text.exists_toString_eq_cons n
      refine ⟨c, cs, htext, ?_, hne ')' (by decide) rfl⟩
      simp [Text.isBlank, hne]
    cases v with
    | int i => exact hnumber i.toInt
    | bool b => cases b <;> exact ⟨_, _, rfl, by decide, by decide⟩
    | null => exact ⟨'n', _, rfl, by decide, by decide⟩
    | blob bytes =>
        rw [Value.literal, String.toList_append, String.toList_append]
        exact ⟨'X', _, rfl, by decide, by decide⟩
    | _ => exact hv.elim

theorem texts_readsBack : Text.ReadsBack ')' read (fun v => '"' :: (v.literal.toList ++ ['"']))
    (fun v => written v.cell) Value.IsPlainText where
  read_append := by
    intro v c rest hv _
    rw [List.cons_append, List.append_assoc]
    cases v with
    | text s => exact read_quoted _ hv
    | timestamp t => exact read_quoted _ t.quote_not_mem_text
    | _ => exact hv.elim
  start := fun _ => ⟨'"', _, rfl, by decide, by decide⟩

theorem places_readsBack : Text.ReadsBack ')' read (fun _ : Value => ['?']) (fun _ => place)
    (fun _ => True) where
  read_append := fun _ _ _ => rfl
  start := fun _ => ⟨'?', [], rfl, by decide, by decide⟩

end Element

/-- The elements of a list can be told apart, either without quotes or by them. -/
def IsListable (vs : List Value) : Prop :=
  (∀ v ∈ vs, v.IsWord) ∨ ∀ v ∈ vs, v.IsPlainText

theorem toList_literalList (vs : List Value) : (literalList vs).toList =
    [','].intercalate (vs.map fun v => (listItem (quotesList vs) v).toList) := by
  rw [literalList, String.toList_intercalate, List.map_map]
  rfl

theorem quotesList_of_isWord {vs : List Value} (h : ∀ v ∈ vs, v.IsWord) :
    quotesList vs = false := by
  cases vs with
  | nil => rfl
  | cons v vs =>
      have hv : v.IsWord := h v List.mem_cons_self
      cases v <;> first | rfl | exact hv.elim

theorem quotesList_of_isPlainText {v : Value} {vs : List Value} (h : v.IsPlainText) :
    quotesList (v :: vs) = true := by
  cases v <;> first | rfl | exact h.elim

theorem readList_literalList {vs : List Value} (h : IsListable vs) (rest : List Char) :
    Text.readList ')' Element.read ((literalList vs).toList ++ ')' :: rest) =
      some (vs.map fun v => .written v.cell, rest) := by
  rw [toList_literalList]
  -- The first element decides on the quotes of all, and the others are of its kind.
  rcases h with hwords | htexts
  · rw [quotesList_of_isWord hwords]
    exact Element.words_readsBack.readList_intercalate (by decide) (by decide) rest hwords
  · cases vs with
    | nil => exact Element.texts_readsBack.readList_intercalate (by decide) (by decide) rest htexts
    | cons v vs =>
        have hitem (w : Value) :
            (listItem true w).toList = '"' :: (w.literal.toList ++ ['"']) := by
          simp [listItem]
        rw [quotesList_of_isPlainText (htexts v List.mem_cons_self)]
        simp only [hitem]
        exact Element.texts_readsBack.readList_intercalate (by decide) (by decide) rest htexts

theorem readList_marks (vs : List Value) (rest : List Char) :
    Text.readList ')' Element.read ((marks "," vs.length).toList ++ ')' :: rest) =
      some (vs.map fun _ => .place, rest) := by
  rw [toList_marks]
  exact Element.places_readsBack.readList_intercalate (by decide) (by decide) rest
    fun _ _ => trivial

inductive Test (α : Type) where
  | equals (a : α)
  | oneOf (as : List α)

namespace Element

def fill : Element → List Cell → Option (Cell × List Cell)
  | written c, ps => some (c, ps)
  | place, p :: ps => some (p, ps)
  | place, [] => none

def fillAll : List Element → List Cell → Option (List Cell × List Cell)
  | [], ps => some ([], ps)
  | e :: es, ps => do
      let (c, ps) ← e.fill ps
      let (cs, ps) ← fillAll es ps
      return (c :: cs, ps)

theorem fillAll_written (vs : List Value) (ps : List Cell) :
    fillAll (vs.map fun v => written v.cell) ps = some (vs.map Value.cell, ps) := by
  induction vs with
  | nil => rfl
  | cons v vs ih =>
      simp only [List.map_cons, fillAll, fill, ih, Option.bind_eq_bind, Option.bind_some]
      rfl

theorem fillAll_place (vs : List Value) (ps : List Cell) :
    fillAll (vs.map fun _ => place) (vs.map Value.cell ++ ps) = some (vs.map Value.cell, ps) := by
  induction vs with
  | nil => rfl
  | cons v vs ih =>
      simp only [List.map_cons, List.cons_append, fillAll, fill, ih, Option.bind_eq_bind,
        Option.bind_some]
      rfl

end Element

namespace Test

def read (cs : List Char) : Option (Test Element × List Char) :=
  match cs with
  | ' ' :: '=' :: ' ' :: rest => (Element.read rest).map fun (e, rest) => (equals e, rest)
  | ' ' :: 'I' :: 'N' :: ' ' :: '(' :: rest =>
      (Text.readList ')' Element.read rest).map fun (es, rest) => (oneOf es, rest)
  | _ => none

theorem read_oneOf {s : List Char} {es : List Element}
    (h : ∀ rest, Text.readList ')' Element.read (s ++ ')' :: rest) = some (es, rest))
    (rest : List Char) :
    read (" IN (".toList ++ (s ++ [')']) ++ rest) = some (oneOf es, rest) := by
  have hlist := h rest
  rw [List.append_assoc, List.append_assoc, List.singleton_append]
  change (Text.readList ')' Element.read (s ++ ')' :: rest)).map _ = _
  rw [hlist, Option.map_some]

def fill : Test Element → List Cell → Option (Test Cell × List Cell)
  | equals e, ps => (e.fill ps).map fun (c, ps) => (equals c, ps)
  | oneOf es, ps => (Element.fillAll es ps).map fun (cs, ps) => (oneOf cs, ps)

def readAll (lead : List Char) : List String → List Char → Option (List (Test Element))
  | [], [] => some []
  | [], _ :: _ => none
  | field :: fields, cs => do
      let (_, rest) ← Text.readWord (lead ++ field.toList) () cs
      let (test, rest) ← read rest
      let tests ← readAll " and ".toList fields rest
      return test :: tests

/-- No parameter is left over. -/
def fillAll : List (Test Element) → List Cell → Option (List (Test Cell))
  | [], [] => some []
  | [], _ :: _ => none
  | test :: tests, ps => do
      let (filled, ps) ← test.fill ps
      let filleds ← fillAll tests ps
      return filled :: filleds

end Test

def Fragment.tests? (fields : List String) (f : Fragment) : Option (List (Test Cell)) := do
  let tests ← Test.readAll " where ".toList fields f.text.toList
  Test.fillAll tests (f.params.map Value.cell)

namespace Condition

def IsListable : Condition → Prop
  | equals _ => True
  | oneOf vs => Querysmith.IsListable vs

/-- What a condition compares its field with, as the database sees it. -/
def tested : Condition → Test Cell
  | equals v => .equals v.cell
  | oneOf vs => .oneOf (vs.map Value.cell)

def shown (mode : ListMode) : Condition → Test Element
  | equals _ => .equals .place
  | oneOf vs =>
      match mode with
      | .inline => .oneOf (vs.map fun v => .written v.cell)
      | .parameterized => .oneOf (vs.map fun _ => .place)

def tagged : Condition → List (Bool × Value)
  | equals v => [(false, v)]
  | oneOf vs => vs.map fun v => (true, v)

theorem exists_toList_text {c : Condition} (h : c.IsListable) (mode : ListMode) (field : String) :
    ∃ t, (c.text mode field).toList = field.toList ++ t ∧
      ∀ rest, Test.read (t ++ rest) = some (c.shown mode, rest) := by
  cases c with
  | equals v => exact ⟨[' ', '=', ' ', '?'], by simp [text], fun _ => rfl⟩
  | oneOf vs =>
      cases mode with
      | inline => exact ⟨_, by simp [text], Test.read_oneOf (readList_literalList h)⟩
      | parameterized => exact ⟨_, by simp [text], Test.read_oneOf (readList_marks vs)⟩

theorem fill_shown (mode : ListMode) (c : Condition) (ps : List Cell) :
    (c.shown mode).fill ((c.params mode).map Value.cell ++ ps) = some (c.tested, ps) := by
  cases c with
  | equals v => rfl
  | oneOf vs =>
      cases mode with
      | inline =>
          change (Element.fillAll (vs.map fun v => .written v.cell) ps).map _ = _
          rw [Element.fillAll_written, Option.map_some]
          rfl
      | parameterized =>
          change (Element.fillAll (vs.map fun _ => .place) (vs.map Value.cell ++ ps)).map _ = _
          rw [Element.fillAll_place, Option.map_some]
          rfl

theorem map_snd_tagged (c : Condition) : c.tagged.map Prod.snd = c.params .parameterized := by
  cases c with
  | equals v => rfl
  | oneOf vs => simp [tagged, params, Function.comp_def]

theorem map_snd_filter_tagged (c : Condition) :
    (c.tagged.filter fun p => !p.1).map Prod.snd = c.params .inline := by
  cases c with
  | equals v => rfl
  | oneOf vs => simp [tagged, params]

end Condition

namespace Conditions

def tagged (m : Conditions) : List (Bool × Value) :=
  m.entries.flatMap fun e => e.2.tagged

def clauseText (mode : ListMode) (lead : List Char) : List (String × Condition) → List Char
  | [] => []
  | e :: es => lead ++ ((e.2.text mode e.1).toList ++ clauseText mode " and ".toList es)

theorem toList_text_fragment (mode : ListMode) (m : Conditions) :
    (fragment mode m).text.toList = clauseText mode " where ".toList m.entries := by
  have hjoined (lead : List Char) (e : String × Condition) (es : List (String × Condition)) :
      lead ++ " and ".toList.intercalate ((e :: es).map fun e => (e.2.text mode e.1).toList) =
        clauseText mode lead (e :: es) := by
    induction es generalizing lead e with
    | nil => simp [clauseText]
    | cons f es ih =>
        rw [clauseText, ← ih]
        simp
  rw [text_fragment]
  cases m.entries with
  | nil => rfl
  | cons e es =>
      rw [if_neg (List.cons_ne_nil e es), String.toList_append, String.toList_intercalate, texts,
        List.map_map]
      exact hjoined _ e es

theorem readAll_clauseText {mode : ListMode} {es : List (String × Condition)}
    (h : ∀ e ∈ es, e.2.IsListable) (lead : List Char) :
    Test.readAll lead (es.map Prod.fst) (clauseText mode lead es) =
      some (es.map fun e => e.2.shown mode) := by
  induction es generalizing lead with
  | nil => rfl
  | cons e es ih =>
      obtain ⟨t, htext, hread⟩ :=
        Condition.exists_toList_text (h e List.mem_cons_self) mode e.1
      have hrest := ih (fun f hf => h f (List.mem_cons_of_mem e hf)) " and ".toList
      have hcons : clauseText mode lead (e :: es) =
          lead ++ e.1.toList ++ (t ++ clauseText mode " and ".toList es) := by
        simp [clauseText, htext]
      rw [hcons]
      simp only [List.map_cons, Test.readAll, Text.readWord_append, hread, hrest,
        Option.bind_eq_bind, Option.bind_some]
      rfl

theorem fillAll_shown (mode : ListMode) (es : List (String × Condition)) :
    Test.fillAll (es.map fun e => e.2.shown mode) ((params mode es).map Value.cell) =
      some (es.map fun e => e.2.tested) := by
  induction es with
  | nil => rfl
  | cons e es ih =>
      have hparams : (params mode (e :: es)).map Value.cell =
          (e.2.params mode).map Value.cell ++ (params mode es).map Value.cell := by
        simp [params]
      rw [hparams]
      simp only [List.map_cons, Test.fillAll, Condition.fill_shown, ih, Option.bind_eq_bind,
        Option.bind_some]
      rfl

theorem tests?_fragment {m : Conditions} (h : ∀ e ∈ m.entries, e.2.IsListable) (mode : ListMode) :
    (fragment mode m).tests? m.keys = some (m.entries.map fun e => e.2.tested) := by
  rw [Fragment.tests?, toList_text_fragment, params_fragment]
  simp only [OrderedMap.keys, readAll_clauseText h, Option.bind_eq_bind, Option.bind_some,
    fillAll_shown]

theorem map_snd_tagged (m : Conditions) :
    m.tagged.map Prod.snd = (fragment .parameterized m).params := by
  rw [params_fragment, tagged, params, List.map_flatMap]
  simp only [Condition.map_snd_tagged]

theorem map_snd_filter_tagged (m : Conditions) :
    (m.tagged.filter fun p => !p.1).map Prod.snd = (fragment .inline m).params := by
  rw [params_fragment, tagged, params, List.filter_flatMap, List.map_flatMap]
  simp only [Condition.map_snd_filter_tagged]

/-- What stands between the parentheses is read back as the very cells that are bound for the
elements otherwise. So the clauses of both modes make the same tests, and they differ in their
parameters by the elements of lists alone. -/
theorem inline_reads_as_parameterized :
    (∀ vs, IsListable vs → ∀ field, ∃ s,
      (Condition.oneOf vs).text .inline field = field ++ " IN (" ++ s ++ ")" ∧
      ∀ rest, Text.readList ')' Element.read (s.toList ++ ')' :: rest) =
        some (((Condition.oneOf vs).params .parameterized).map fun v => .written v.cell, rest)) ∧
    ∀ m : Conditions, (∀ e ∈ m.entries, e.2.IsListable) →
      (∀ mode, (fragment mode m).tests? m.keys = some (m.entries.map fun e => e.2.tested)) ∧
      (fragment .parameterized m).params = m.tagged.map Prod.snd ∧
      (fragment .inline m).params = (m.tagged.filter fun p => !p.1).map Prod.snd := by
  constructor
  · intro vs hvs field
    exact ⟨literalList vs, rfl, readList_literalList hvs⟩
  · intro m hm
    exact ⟨tests?_fragment hm, m.map_snd_tagged.symm, m.map_snd_filter_tagged.symm⟩

/-- A text with everything that separates or ends a list, a leap second of a year before the first,
the least integer, and a list without elements. -/
theorem inline_reads_as_parameterized_of_mixed_lists :
    let t : Timestamp := ⟨⟨-5, 2, 28, by decide, by decide, by decide, by decide, by decide,
      by decide⟩, ⟨23, 59, 59, 1_500_000_000, by decide, by decide, by decide, by decide,
      by decide⟩⟩
    let texts : List Value := [.text "a, (b)?", .timestamp t]
    let words : List Value := [.int Int64.minValue, .bool true, .null, .blob [0xDE, 0xAD, 0x01]]
    let m : Conditions := OrderedMap.ofList
      [("at", .oneOf texts), ("q", .equals (.text "\"")), ("n", .oneOf words), ("e", .oneOf [])]
    literalList texts = "\"a, (b)?\",\"-0005-02-28 23:59:60.500\"" ∧
    literalList words = "-9223372036854775808,1,null,X'DEAD01'" ∧
    (fragment .inline m).tests? m.keys = (fragment .parameterized m).tests? m.keys ∧
    (fragment .inline m).params = [.text "\""] := by
  intro t texts words m
  have htexts : IsListable texts := .inr (by
    intro v hv
    simp only [texts, List.mem_cons, List.not_mem_nil, or_false] at hv
    rcases hv with rfl | rfl
    · change '"' ∉ "a, (b)?".toList
      decide
    · trivial)
  have hwords : IsListable words := .inl (by
    intro v hv
    simp only [words, List.mem_cons, List.not_mem_nil, or_false] at hv
    rcases hv with rfl | rfl | rfl | rfl <;> trivial)
  have hm : ∀ e ∈ m.entries, e.2.IsListable := by
    intro e he
    change e ∈ [("at", .oneOf texts), ("q", .equals (.text "\"")), ("n", .oneOf words),
      ("e", .oneOf [])] at he
    simp only [List.mem_cons, List.not_mem_nil, or_false] at he
    rcases he with rfl | rfl | rfl | rfl
    · exact htexts
    · trivial
    · exact hwords
    · exact .inl (by simp)
  obtain ⟨htests, -, hinline⟩ := inline_reads_as_parameterized.2 m hm
  exact ⟨by decide, by decide, (htests .inline).trans (htests .parameterized).symm, hinline⟩

end Conditions

end Querysmith
