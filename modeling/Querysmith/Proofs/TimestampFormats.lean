import Querysmith.Proofs.TimestampReading

namespace Querysmith

theorem Date.of?_eq_some_iff {year : Int} {month day : Nat} {d : Date} :
    Date.of? year month day = some d ↔ d.year = year ∧ d.month = month ∧ d.day = day := by
  constructor
  · intro h
    unfold Date.of? at h
    split at h
    · cases h
      exact ⟨rfl, rfl, rfl⟩
    · cases h
  · rintro ⟨rfl, rfl, rfl⟩
    exact d.of?_self

theorem TimeOfDay.of?_eq_some_iff {hour minute second nanos : Nat} {t : TimeOfDay} :
    TimeOfDay.of? hour minute second nanos = some t ↔
      t.hour = hour ∧ t.minute = minute ∧ t.second = second ∧ t.nanos = nanos := by
  constructor
  · intro h
    unfold TimeOfDay.of? at h
    split at h
    · cases h
      exact ⟨rfl, rfl, rfl, rfl⟩
    · cases h
  · rintro ⟨rfl, rfl, rfl, rfl⟩
    exact t.of?_self

namespace Timestamp

open Text (Stops stops_nil takeWhile_isDigit_append)

def IsBlank (cs : List Char) : Prop :=
  ∀ c ∈ cs, Text.isWhiteSpace c = true

structure IsNumeral (n : Nat) (ds : List Char) : Prop where
  ne_nil : ds ≠ []
  isDigit : ∀ c ∈ ds, c.isDigit = true
  value : Nat.ofDigitChars 10 ds 0 = n

/-- A number goes on as far as there are digits, but no further than its greatest width. -/
def IsWhole (width : Nat) (ds rest : List Char) : Prop :=
  ds.length = width ∨ ds.length < width ∧ Stops rest

def nineDigits (ds : List Char) : List Char :=
  (ds ++ List.replicate 9 '0').take 9

/-- A part of a format. -/
inductive Item where
  | year
  | number (unit : Fields → Nat)
  | mark (c : Char)
  | blanks
  | fraction

/-- The ways to write a part of a format in front of the rest of a text. -/
inductive Item.Writes (f : Fields) (nanos : Nat) : Item → List Char → List Char → Prop where
  | plainYear {n : Nat} {bs ds rest : List Char} : IsBlank bs → IsNumeral n ds →
      IsWhole 4 ds rest → f.year = n → Writes f nanos .year (bs ++ (ds ++ rest)) rest
  | positiveYear {n : Nat} {bs ds rest : List Char} : IsBlank bs → IsNumeral n ds →
      Stops rest → f.year = n → Writes f nanos .year (bs ++ '+' :: (ds ++ rest)) rest
  | negativeYear {n : Nat} {bs ds rest : List Char} : IsBlank bs → IsNumeral n ds →
      Stops rest → f.year = -n → Writes f nanos .year (bs ++ '-' :: (ds ++ rest)) rest
  | number {unit : Fields → Nat} {bs ds rest : List Char} : IsBlank bs →
      IsNumeral (unit f) ds → IsWhole 2 ds rest →
      Writes f nanos (.number unit) (bs ++ (ds ++ rest)) rest
  | mark (c : Char) (rest : List Char) : Writes f nanos (.mark c) (c :: rest) rest
  | blanks {bs rest : List Char} : IsBlank bs → Writes f nanos .blanks (bs ++ rest) rest
  | noFraction {rest : List Char} : rest.head? ≠ some '.' → nanos = 0 →
      Writes f nanos .fraction rest rest
  | fraction {ds rest : List Char} : ds ≠ [] → (∀ c ∈ ds, c.isDigit = true) → Stops rest →
      Nat.ofDigitChars 10 (nineDigits ds) 0 = nanos →
      Writes f nanos .fraction ('.' :: (ds ++ rest)) rest

def Written (f : Fields) (nanos : Nat) : List Item → List Char → List Char → Prop
  | [], cs, rest => cs = rest
  | item :: format, cs, rest =>
      ∃ between, item.Writes f nanos cs between ∧ Written f nanos format between rest

def wholeFormat : List Item :=
  [.year, .mark '-', .number Fields.month, .mark '-', .number Fields.day, .blanks,
    .number Fields.hour, .mark ':', .number Fields.minute, .mark ':', .number Fields.second]

def fractionFormat : List Item :=
  wholeFormat ++ [.fraction]

def subsecond (t : Timestamp) : Nat :=
  t.time.nanos % 1_000_000_000

/-- The text is the timestamp, written in the format. What the format leaves out is zero. -/
def IsTextOf (format : List Item) (t : Timestamp) (cs : List Char) : Prop :=
  Written t.fields t.subsecond format cs [] ∧ (.fraction ∉ format → t.subsecond = 0)

theorem written_append {f : Fields} {nanos : Nat} {format more : List Item}
    {cs rest : List Char} :
    Written f nanos (format ++ more) cs rest ↔
      ∃ between, Written f nanos format cs between ∧ Written f nanos more between rest := by
  induction format generalizing cs with
  | nil => simp [Written]
  | cons item format ih =>
      simp only [List.cons_append, Written, ih]
      constructor
      · rintro ⟨first, hitem, between, hformat, hmore⟩
        exact ⟨between, ⟨first, hitem, hformat⟩, hmore⟩
      · rintro ⟨between, ⟨first, hitem, hformat⟩, hmore⟩
        exact ⟨first, hitem, between, hformat, hmore⟩

theorem exists_run (p : Char → Bool) (cs : List Char) :
    ∃ run rest, cs = run ++ rest ∧ (∀ c ∈ run, p c = true) ∧ ∀ c ∈ rest.head?, p c = false := by
  induction cs with
  | nil => exact ⟨[], [], rfl, by simp, by simp⟩
  | cons c cs ih =>
      cases h : p c with
      | false =>
          refine ⟨[], c :: cs, rfl, by simp, ?_⟩
          rintro d ⟨⟩
          exact h
      | true =>
          obtain ⟨run, rest, rfl, hrun, hrest⟩ := ih
          exact ⟨c :: run, rest, rfl, by simpa [h] using hrun, hrest⟩

theorem skipBlanks_append {bs rest : List Char} (hb : IsBlank bs)
    (hr : ∀ c ∈ rest.head?, Text.isWhiteSpace c = false) : skipBlanks (bs ++ rest) = rest := by
  rw [skipBlanks, List.dropWhile_append_of_pos hb, Text.dropWhile_of_head? hr]

theorem exists_blanks (cs : List Char) : ∃ bs, IsBlank bs ∧ cs = bs ++ skipBlanks cs := by
  obtain ⟨bs, rest, rfl, hb, hr⟩ := exists_run Text.isWhiteSpace cs
  exact ⟨bs, hb, by rw [skipBlanks_append hb hr]⟩

theorem IsNumeral.head {n : Nat} {ds : List Char} (h : IsNumeral n ds) (rest : List Char) :
    ∀ c ∈ (ds ++ rest).head?, c.isDigit = true := by
  obtain ⟨d, ds, rfl⟩ := List.exists_cons_of_ne_nil h.ne_nil
  rintro c ⟨⟩
  exact h.isDigit d List.mem_cons_self

theorem takeUpTo_run {width : Nat} {ds rest : List Char} (hd : ∀ c ∈ ds, c.isDigit = true)
    (hr : Stops rest) :
    takeUpTo width (ds ++ rest) =
      if ds.take width = [] then none
      else some (Nat.ofDigitChars 10 (ds.take width) 0, ds.drop width ++ rest) := by
  have hcut : ds ++ rest = ds.take width ++ (ds.drop width ++ rest) := by
    rw [← List.append_assoc, List.take_append_drop]
  have hrest : (ds ++ rest).drop (ds.take width).length = ds.drop width ++ rest :=
    (congrArg (List.drop _) hcut).trans List.drop_left
  rw [takeUpTo, takeWhile_isDigit_append hd hr]
  split
  · rename_i h
    rw [if_pos h]
  · rename_i h
    rw [if_neg h, hrest]

theorem takeUpTo_eq_some_iff {width n : Nat} {cs rest : List Char} :
    takeUpTo width cs = some (n, rest) ↔
      ∃ ds, cs = ds ++ rest ∧ IsNumeral n ds ∧ IsWhole width ds rest := by
  constructor
  · intro h
    obtain ⟨ds, after, rfl, hd, hr⟩ := exists_run Char.isDigit cs
    rw [takeUpTo_run hd hr] at h
    split at h
    · cases h
    · rename_i hne
      obtain ⟨rfl, rfl⟩ := Prod.mk.inj (Option.some.inj h)
      refine ⟨ds.take width, ?_, ⟨hne, fun c hc => hd c (List.mem_of_mem_take hc), rfl⟩, ?_⟩
      · rw [← List.append_assoc, List.take_append_drop]
      · rcases Nat.lt_or_ge ds.length width with hlt | hge
        · refine .inr ⟨by rwa [List.take_of_length_le (Nat.le_of_lt hlt)], ?_⟩
          rwa [List.drop_of_length_le (Nat.le_of_lt hlt)]
        · exact .inl (List.length_take_of_le hge)
  · rintro ⟨ds, rfl, hn, hwhole⟩
    rcases hwhole with hlength | ⟨hlt, hr⟩
    · -- The digits behind the greatest width are left to the rest.
      obtain ⟨more, after, rfl, hm, hr⟩ := exists_run Char.isDigit rest
      have hall : ∀ c ∈ ds ++ more, c.isDigit = true := by
        intro c hc
        exact (List.mem_append.1 hc).elim (hn.isDigit c) (hm c)
      rw [← List.append_assoc, takeUpTo_run hall hr, List.take_left' hlength,
        List.drop_left' hlength, if_neg hn.ne_nil, hn.value]
    · rw [takeUpTo_append hn.ne_nil hn.isDigit (Nat.le_of_lt hlt) hr, hn.value]

theorem takeAll_eq_some_iff {n : Nat} {cs rest : List Char} :
    takeAll cs = some (n, rest) ↔ ∃ ds, cs = ds ++ rest ∧ IsNumeral n ds ∧ Stops rest := by
  rw [takeAll, takeUpTo_eq_some_iff]
  refine exists_congr fun ds => and_congr_right ?_
  rintro rfl
  refine and_congr_right fun hn => ?_
  rw [IsWhole, List.length_append]
  constructor
  · rintro (h | ⟨-, hr⟩)
    · have hnil : rest = [] := List.eq_nil_of_length_eq_zero (by omega)
      rw [hnil]
      exact stops_nil
    · exact hr
  · intro hr
    cases rest with
    | nil => exact .inl rfl
    | cons c rest => exact .inr ⟨by simp, hr⟩

variable {f : Fields} {nanos : Nat} {cs rest : List Char}

theorem takeYear_eq_some_iff :
    takeYear cs = some (f.year, rest) ↔ Item.year.Writes f nanos cs rest := by
  constructor
  · intro h
    obtain ⟨bs, hb, hcs⟩ := exists_blanks cs
    rw [takeYear] at h
    rw [hcs]
    split at h
    · rename_i after hafter
      obtain ⟨⟨n, after⟩, hn, he⟩ := Option.map_eq_some_iff.1 h
      obtain ⟨hyear, rfl⟩ := Prod.mk.inj he
      obtain ⟨ds, rfl, hds, hr⟩ := takeAll_eq_some_iff.1 hn
      rw [hafter]
      exact .negativeYear hb hds hr hyear.symm
    · rename_i after hafter
      obtain ⟨⟨n, after⟩, hn, he⟩ := Option.map_eq_some_iff.1 h
      obtain ⟨hyear, rfl⟩ := Prod.mk.inj he
      obtain ⟨ds, rfl, hds, hr⟩ := takeAll_eq_some_iff.1 hn
      rw [hafter]
      exact .positiveYear hb hds hr hyear.symm
    · obtain ⟨⟨n, after⟩, hn, he⟩ := Option.map_eq_some_iff.1 h
      obtain ⟨hyear, rfl⟩ := Prod.mk.inj he
      obtain ⟨ds, hrest, hds, hw⟩ := takeUpTo_eq_some_iff.1 hn
      rw [hrest]
      exact .plainYear hb hds hw hyear.symm
  · intro h
    cases h with
    | plainYear hb hds hw hyear =>
        have hskip := skipBlanks_append hb fun c hc => isWhiteSpace_of_isDigit (hds.head rest c hc)
        rw [takeYear_of_digits hds.ne_nil hds.isDigit hskip,
          takeUpTo_eq_some_iff.2 ⟨_, rfl, hds, hw⟩, hyear]
        rfl
    | positiveYear hb hds hr hyear =>
        rw [takeYear, skipBlanks_append hb (by rintro c ⟨⟩; decide)]
        simp only [takeAll_eq_some_iff.2 ⟨_, rfl, hds, hr⟩, hyear]
        rfl
    | negativeYear hb hds hr hyear =>
        rw [takeYear, skipBlanks_append hb (by rintro c ⟨⟩; decide)]
        simp only [takeAll_eq_some_iff.2 ⟨_, rfl, hds, hr⟩, hyear]
        rfl

theorem takeField_eq_some_iff (unit : Fields → Nat) :
    takeField cs = some (unit f, rest) ↔ (Item.number unit).Writes f nanos cs rest := by
  rw [takeField, takeUpTo_eq_some_iff]
  constructor
  · rintro ⟨ds, hrest, hds, hw⟩
    obtain ⟨bs, hb, hcs⟩ := exists_blanks cs
    rw [hcs, hrest]
    exact .number hb hds hw
  · rintro ⟨⟩
    rename_i bs ds hb hds hw
    have hskip := skipBlanks_append hb fun c hc => isWhiteSpace_of_isDigit (hds.head rest c hc)
    exact ⟨ds, hskip, hds, hw⟩

/-- A number may have blanks in front of it, so those of the format do not count. -/
theorem takeField_eq_some_iff_blanks (unit : Fields → Nat) :
    takeField cs = some (unit f, rest) ↔
      ∃ between, Item.blanks.Writes f nanos cs between ∧
        (Item.number unit).Writes f nanos between rest := by
  rw [takeField_eq_some_iff]
  constructor
  · intro h
    have hnone : IsBlank [] := by simp [IsBlank]
    exact ⟨cs, @Item.Writes.blanks f nanos [] cs hnone, h⟩
  · rintro ⟨between, ⟨⟩, ⟨⟩⟩
    rename_i before hbefore bs ds hb hds hw
    rw [← List.append_assoc]
    refine .number ?_ hds hw
    intro c hc
    exact (List.mem_append.1 hc).elim (hbefore c) (hb c)

theorem expect_eq_some_iff {c : Char} :
    expect c cs = some rest ↔ (Item.mark c).Writes f nanos cs rest := by
  constructor
  · intro h
    cases cs with
    | nil => cases h
    | cons d cs =>
        rw [expect] at h
        split at h
        · rename_i hd
          subst hd
          cases h
          exact .mark d rest
        · cases h
  · rintro ⟨⟩
    exact expect_cons c rest

theorem ofDigitChars_nineDigits (ds : List Char) :
    Nat.ofDigitChars 10 (nineDigits ds) 0 =
      Nat.ofDigitChars 10 (ds.take 9) 0 * Nat.pow 10 (9 - (ds.take 9).length) := by
  have hzeros : (List.replicate 9 '0').take (9 - ds.length) =
      List.replicate (9 - (ds.take 9).length) '0' := by
    rw [List.take_replicate, List.length_take]
    congr 1
    omega
  rw [nineDigits, List.take_append, hzeros, Nat.ofDigitChars_append,
    Nat.ofDigitChars_replicate_zero, Nat.mul_comm]
  rfl

theorem takeFraction_eq_some_iff :
    takeFraction cs = some (nanos, rest) ↔ Item.fraction.Writes f nanos cs rest := by
  constructor
  · intro h
    unfold takeFraction at h
    split at h
    · rename_i after
      obtain ⟨ds, after, rfl, hd, hr⟩ := exists_run Char.isDigit after
      rw [takeWhile_isDigit_append hd hr] at h
      split at h
      · cases h
      · rename_i hne
        obtain ⟨hnanos, hrest⟩ := Prod.mk.inj (Option.some.inj h)
        rw [List.drop_left] at hrest
        subst hrest
        exact .fraction hne hd hr ((ofDigitChars_nineDigits ds).trans hnanos)
    · rename_i hpoint
      obtain ⟨rfl, rfl⟩ := Prod.mk.inj (Option.some.inj h)
      refine .noFraction ?_ rfl
      intro hhead
      obtain ⟨after, rfl⟩ := List.head?_eq_some_iff.1 hhead
      exact hpoint after rfl
  · intro h
    cases h with
    | noFraction hhead hnanos =>
        subst hnanos
        unfold takeFraction
        split
        · exact absurd rfl hhead
        · rfl
    | fraction hne hd hr hnanos =>
        rename_i ds
        rw [takeFraction, takeWhile_isDigit_append hd hr]
        split
        · exact absurd rfl hne
        · simp only [List.drop_left, ← ofDigitChars_nineDigits, hnanos]

theorem takeFields_eq_some_iff :
    takeFields cs = some (f, rest) ↔ Written f nanos wholeFormat cs rest := by
  constructor
  · intro h
    simp only [takeFields, Option.bind_eq_bind, Option.bind_eq_some_iff] at h
    obtain ⟨⟨year, _⟩, hyear, _, hdash, ⟨month, _⟩, hmonth, _, hdash', ⟨day, _⟩, hday,
      ⟨hour, _⟩, hhour, _, hcolon, ⟨minute, _⟩, hminute, _, hcolon', ⟨second, _⟩, hsecond, he⟩ := h
    cases he
    obtain ⟨_, hblanks, hhour⟩ : ∃ between, Item.blanks.Writes _ nanos _ between ∧
        (Item.number Fields.hour).Writes _ nanos between _ :=
      (takeField_eq_some_iff_blanks (f := ⟨year, month, day, hour, minute, second⟩) _).1 hhour
    exact ⟨_, takeYear_eq_some_iff.1 hyear, _, expect_eq_some_iff.1 hdash,
      _, (takeField_eq_some_iff Fields.month).1 hmonth, _, expect_eq_some_iff.1 hdash',
      _, (takeField_eq_some_iff Fields.day).1 hday, _, hblanks, _, hhour,
      _, expect_eq_some_iff.1 hcolon, _, (takeField_eq_some_iff Fields.minute).1 hminute,
      _, expect_eq_some_iff.1 hcolon', _, (takeField_eq_some_iff Fields.second).1 hsecond, rfl⟩
  · rintro ⟨_, hyear, _, hdash, _, hmonth, _, hdash', _, hday, _, hblanks, _, hhour, _, hcolon,
      _, hminute, _, hcolon', _, hsecond, rfl⟩
    have hhour := (takeField_eq_some_iff_blanks Fields.hour).2 ⟨_, hblanks, hhour⟩
    simp only [takeFields, takeYear_eq_some_iff.2 hyear, expect_eq_some_iff.2 hdash,
      (takeField_eq_some_iff _).2 hmonth, expect_eq_some_iff.2 hdash',
      (takeField_eq_some_iff _).2 hday, hhour, expect_eq_some_iff.2 hcolon,
      (takeField_eq_some_iff _).2 hminute, expect_eq_some_iff.2 hcolon',
      (takeField_eq_some_iff _).2 hsecond, Option.bind_eq_bind, Option.bind_some]

theorem ofDigitChars_lt {ds : List Char} (hd : ∀ c ∈ ds, c.isDigit = true) (init : Nat) :
    Nat.ofDigitChars 10 ds init < (init + 1) * Nat.pow 10 ds.length := by
  induction ds generalizing init with
  | nil => simp
  | cons c ds ih =>
      have hc : c.toNat - '0'.toNat ≤ 9 := by
        have h := (Char.isDigit_iff_toNat.1 (hd c List.mem_cons_self)).2
        have hnine : '9'.toNat = 57 := rfl
        have hzero : '0'.toNat = 48 := rfl
        omega
      have hpow : Nat.pow 10 (c :: ds).length = 10 * Nat.pow 10 ds.length := Nat.mul_comm _ _
      have hinit : 10 * init + (c.toNat - '0'.toNat) + 1 ≤ (init + 1) * 10 := by omega
      rw [Nat.ofDigitChars_cons, hpow, ← Nat.mul_assoc]
      exact Nat.lt_of_lt_of_le (ih (fun d h => hd d (List.mem_cons_of_mem c h)) _)
        (Nat.mul_le_mul_right _ hinit)

theorem Item.Writes.nanos_lt (h : Item.fraction.Writes f nanos cs rest) :
    nanos < 1_000_000_000 := by
  cases h with
  | noFraction _ hnanos =>
      rw [hnanos]
      decide
  | @fraction ds rest _ hd _ hnanos =>
      have hdigits : ∀ c ∈ nineDigits ds, c.isDigit = true := by
        intro c hc
        rcases List.mem_append.1 (List.mem_of_mem_take hc) with h | h
        · exact hd c h
        · rw [(List.mem_replicate.1 h).2]
          decide
      have hlength : (nineDigits ds).length = 9 := by simp [nineDigits]
      have hlt := ofDigitChars_lt hdigits 0
      rwa [hlength, hnanos] at hlt

/-- A day of the calendar and a time that a clock can show, the second 60 among them. -/
structure Fields.Exist (f : Fields) : Prop where
  year_ge : -262143 ≤ f.year
  year_le : f.year ≤ 262142
  month_pos : 1 ≤ f.month
  month_le : f.month ≤ 12
  day_pos : 1 ≤ f.day
  day_le : f.day ≤ daysInMonth f.year f.month
  hour_lt : f.hour < 24
  minute_lt : f.minute < 60
  second_le : f.second ≤ 60

theorem exist_fields (t : Timestamp) : t.fields.Exist where
  year_ge := t.date.year_ge
  year_le := t.date.year_le
  month_pos := t.date.month_pos
  month_le := t.date.month_le
  day_pos := t.date.day_pos
  day_le := t.date.day_le
  hour_lt := t.time.hour_lt
  minute_lt := t.time.minute_lt
  second_le := by
    have hsecond := t.time.second_lt
    have hnanos := t.time.nanos_lt
    change t.time.second + t.time.nanos / 1_000_000_000 ≤ 60
    omega

/-- What a clock shows. The leap second is its second 60. -/
def ShownAs (t : TimeOfDay) (f : Fields) (nanos : Nat) : Prop :=
  t.hour = f.hour ∧ t.minute = f.minute ∧ t.second + t.nanos / 1_000_000_000 = f.second ∧
    t.nanos % 1_000_000_000 = nanos

theorem exists_shownAs (h : f.Exist) (hn : nanos < 1_000_000_000) :
    ∃ time, ShownAs time f nanos := by
  rcases Nat.lt_or_eq_of_le h.second_le with hlt | hleap
  · refine ⟨⟨f.hour, f.minute, f.second, nanos, h.hour_lt, h.minute_lt, hlt, by omega, by omega⟩,
      rfl, rfl, ?_, Nat.mod_eq_of_lt hn⟩
    dsimp only
    omega
  · refine ⟨⟨f.hour, f.minute, 59, 1_000_000_000 + nanos, h.hour_lt, h.minute_lt, by decide,
      by omega, fun _ => rfl⟩, rfl, rfl, ?_, ?_⟩
    · dsimp only
      omega
    · dsimp only
      omega

theorem eq_fields_iff {t : Timestamp} : f = t.fields ∧ nanos = t.subsecond ↔
    t.date.year = f.year ∧ t.date.month = f.month ∧ t.date.day = f.day ∧
      ShownAs t.time f nanos := by
  constructor
  · rintro ⟨rfl, rfl⟩
    exact ⟨rfl, rfl, rfl, rfl, rfl, rfl, rfl⟩
  · obtain ⟨year, month, day, hour, minute, second⟩ := f
    rintro ⟨rfl, rfl, rfl, rfl, rfl, rfl, rfl⟩
    exact ⟨rfl, rfl⟩

theorem timestamp?_eq_some_iff {t : Timestamp} (hn : nanos < 1_000_000_000) :
    f.timestamp? nanos = some t ↔ f = t.fields ∧ nanos = t.subsecond := by
  constructor
  · intro h
    obtain ⟨date, hdate, h⟩ := Option.bind_eq_some_iff.1 h
    obtain ⟨hyear, hmonth, hday⟩ := Date.of?_eq_some_iff.1 hdate
    obtain ⟨time, he, hshown⟩ : ∃ time, t = ⟨date, time⟩ ∧ ShownAs time f nanos := by
      dsimp only at h
      -- The second 60 makes a time of day as the others do: it is the leap second of second 59.
      split at h
      all_goals
        obtain ⟨time, htime, he⟩ := Option.bind_eq_some_iff.1 h
        obtain ⟨hhour, hminute, hsecond, hnanos⟩ := TimeOfDay.of?_eq_some_iff.1 htime
        exact ⟨time, (Option.some.inj he).symm, hhour, hminute, by omega, by omega⟩
    subst he
    exact eq_fields_iff.2 ⟨hyear, hmonth, hday, hshown⟩
  · rintro ⟨rfl, rfl⟩
    exact timestamp?_fields t

theorem exists_timestamp?_iff (hn : nanos < 1_000_000_000) :
    (∃ t, f.timestamp? nanos = some t) ↔ f.Exist := by
  constructor
  · rintro ⟨t, ht⟩
    rw [((timestamp?_eq_some_iff hn).1 ht).1]
    exact exist_fields t
  · intro h
    obtain ⟨time, hshown⟩ := exists_shownAs h hn
    let date : Date := ⟨f.year, f.month, f.day, h.year_ge, h.year_le, h.month_pos, h.month_le,
      h.day_pos, h.day_le⟩
    exact ⟨⟨date, time⟩, (timestamp?_eq_some_iff hn).2 (eq_fields_iff.2 ⟨rfl, rfl, rfl, hshown⟩)⟩

variable {t : Timestamp}

theorem readWhole_eq_some_iff : readWhole cs = some t ↔ IsTextOf wholeFormat t cs := by
  have hnone : .fraction ∉ wholeFormat := by simp [wholeFormat]
  constructor
  · intro h
    unfold readWhole at h
    split at h
    · rename_i f hfields
      obtain ⟨rfl, hzero⟩ := (timestamp?_eq_some_iff (by decide)).1 h
      exact ⟨takeFields_eq_some_iff.1 hfields, fun _ => hzero.symm⟩
    · cases h
  · rintro ⟨hwritten, hzero⟩
    have hback := timestamp?_fields t
    rw [show t.time.nanos % 1_000_000_000 = 0 from hzero hnone] at hback
    simp only [readWhole, takeFields_eq_some_iff.2 hwritten, hback]

theorem readFraction_eq_some_iff : readFraction cs = some t ↔ IsTextOf fractionFormat t cs := by
  have hmem : .fraction ∈ fractionFormat := by simp [fractionFormat]
  constructor
  · intro h
    unfold readFraction at h
    split at h
    · rename_i f rest hfields
      split at h
      · rename_i nanos hnanos
        have hfraction : Item.fraction.Writes f nanos rest [] := takeFraction_eq_some_iff.1 hnanos
        obtain ⟨rfl, rfl⟩ := (timestamp?_eq_some_iff hfraction.nanos_lt).1 h
        refine ⟨written_append.2 ⟨rest, takeFields_eq_some_iff.1 hfields, [], hfraction, rfl⟩, ?_⟩
        exact fun hnone => absurd hmem hnone
      · cases h
    · cases h
  · rintro ⟨hwritten, -⟩
    obtain ⟨rest, hfields, _, hfraction, rfl⟩ := written_append.1 hwritten
    have hback : t.fields.timestamp? t.subsecond = some t := timestamp?_fields t
    simp only [readFraction, takeFields_eq_some_iff.2 hfields, takeFraction_eq_some_iff.2 hfraction,
      hback]

theorem exists_readFraction_iff (h : Written f nanos fractionFormat cs []) :
    (∃ t, readFraction cs = some t) ↔ f.Exist := by
  obtain ⟨rest, hfields, _, hfraction, rfl⟩ := written_append.1 h
  rw [← exists_timestamp?_iff hfraction.nanos_lt]
  simp only [readFraction, takeFields_eq_some_iff.2 hfields, takeFraction_eq_some_iff.2 hfraction]

theorem IsTextOf.withFraction {format : List Item} (h : IsTextOf format t cs)
    (hnone : .fraction ∉ format) : IsTextOf (format ++ [.fraction]) t cs := by
  have hzero := h.2 hnone
  exact ⟨written_append.2 ⟨[], h.1, [], .noFraction (by simp) hzero, rfl⟩, fun _ => hzero⟩

theorem readFraction_of_readWhole (h : readWhole cs = some t) : readFraction cs = some t := by
  have hnone : .fraction ∉ wholeFormat := by simp [wholeFormat]
  exact readFraction_eq_some_iff.2 ((readWhole_eq_some_iff.1 h).withFraction hnone)

theorem read?_eq_readFraction (s : String) : read? s = readFraction s.toList := by
  rw [read?]
  cases h : readWhole s.toList with
  | none => exact Option.none_or
  | some t => exact (readFraction_of_readWhole h).symm

theorem or_readWhole (cs : List Char) : (readFraction cs).or (readWhole cs) = readFraction cs := by
  cases h : readWhole cs with
  | none => exact Option.or_none
  | some t => rw [readFraction_of_readWhole h, Option.some_or]

/-- Each reader accepts exactly the texts of its format, and a text is read as by the format with
the optional fraction alone, whichever format is tried first. Of the texts in this format those are
accepted whose fields exist; what was accepted is a day of the calendar with a time of day, and its
own text is read as itself. -/
theorem formats_agree (s : String) :
    (∀ t, readWhole s.toList = some t ↔ IsTextOf wholeFormat t s.toList) ∧
    (∀ t, readFraction s.toList = some t ↔ IsTextOf fractionFormat t s.toList) ∧
    (∀ t, readWhole s.toList = some t → readFraction s.toList = some t) ∧
    (Value.text s).timestamp? = readFraction s.toList ∧
    (Value.text s).timestamp? = (readFraction s.toList).or (readWhole s.toList) ∧
    (∀ f nanos, Written f nanos fractionFormat s.toList [] →
      ((∃ t, (Value.text s).timestamp? = some t) ↔ f.Exist)) ∧
    ∀ t, (Value.text s).timestamp? = some t →
      (-262143 ≤ t.date.year ∧ t.date.year ≤ 262142 ∧ 1 ≤ t.date.month ∧ t.date.month ≤ 12 ∧
        1 ≤ t.date.day ∧ t.date.day ≤ daysInMonth t.date.year t.date.month) ∧
      (t.time.hour < 24 ∧ t.time.minute < 60 ∧ t.time.second ≤ 59 ∧
        t.time.nanos < 2_000_000_000 ∧
        (1_000_000_000 ≤ t.time.nanos → t.time.second = 59)) ∧
      (Value.text t.text).timestamp? = some t := by
  have hvalue : (Value.text s).timestamp? = readFraction s.toList := read?_eq_readFraction s
  refine ⟨fun _ => readWhole_eq_some_iff, fun _ => readFraction_eq_some_iff,
    fun _ => readFraction_of_readWhole, hvalue, ?_, ?_, ?_⟩
  · rw [or_readWhole, hvalue]
  · intro f nanos h
    rw [hvalue]
    exact exists_readFraction_iff h
  · intro t _
    have hsecond := t.time.second_lt
    exact ⟨⟨t.date.year_ge, t.date.year_le, t.date.month_pos, t.date.month_le, t.date.day_pos,
        t.date.day_le⟩,
      ⟨t.time.hour_lt, t.time.minute_lt, by omega, t.time.nanos_lt, t.time.leap⟩, read?_text t⟩

theorem formats_agree_of_short_fields :
    let s := " +2016-2-29\t7:5:60"
    let t : Timestamp :=
      ⟨⟨2016, 2, 29, by decide, by decide, by decide, by decide, by decide, by decide⟩,
        ⟨7, 5, 59, 1_000_000_000, by decide, by decide, by decide, by decide, by decide⟩⟩
    readWhole s.toList = some t ∧ readFraction s.toList = some t ∧
      Written t.fields t.subsecond fractionFormat s.toList [] ∧
      (Value.text s).timestamp? = some t ∧ t.fields.Exist ∧ t.time.second ≤ 59 ∧
      (Value.text t.text).timestamp? = some t := by
  intro s t
  obtain ⟨-, hfraction, hsame, hvalue, -, hexist, haccepted⟩ := formats_agree s
  have hwhole : readWhole s.toList = some t := by decide
  have hread := hsame t hwhole
  have htext := hvalue.trans hread
  have hwritten := ((hfraction t).1 hread).1
  obtain ⟨-, ⟨-, -, hsecond, -⟩, hback⟩ := haccepted t htext
  exact ⟨hwhole, hread, hwritten, htext, (hexist _ _ hwritten).1 ⟨t, htext⟩, hsecond, hback⟩

end Timestamp

end Querysmith
