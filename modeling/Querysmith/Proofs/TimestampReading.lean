import Querysmith.Cell.Basic
import Querysmith.Text.Reading

namespace Querysmith

namespace Timestamp

open Text (Stops stops_nil stops_cons takeWhile_isDigit_append digits_append_ne_cons)

theorem takeUpTo_append {width : Nat} {ds rest : List Char} (hne : ds ≠ [])
    (hd : ∀ c ∈ ds, c.isDigit = true) (hl : ds.length ≤ width) (hr : Stops rest) :
    takeUpTo width (ds ++ rest) = some (Nat.ofDigitChars 10 ds 0, rest) := by
  rw [takeUpTo, takeWhile_isDigit_append hd hr, List.take_of_length_le hl]
  split
  · exact absurd rfl hne
  · rw [List.drop_left]

theorem isWhiteSpace_of_isDigit {c : Char} (h : c.isDigit = true) :
    Text.isWhiteSpace c = false := by
  obtain ⟨hlow, hhigh⟩ : 48 ≤ c.toNat ∧ c.toNat ≤ 57 := Char.isDigit_iff_toNat.1 h
  simp only [Text.isWhiteSpace, Bool.or_eq_false_iff, Bool.and_eq_false_iff,
    decide_eq_false_iff_not]
  omega

theorem isDigit_of_mem_padded {width n : Nat} {c : Char} (h : c ∈ padded width n) :
    c.isDigit = true := by
  rcases List.mem_append.1 h with hz | hd
  · rw [(List.mem_replicate.1 hz).2]
    decide
  · exact Text.isDigit_of_mem_toDigits hd

theorem padded_ne_nil (width n : Nat) : padded width n ≠ [] := by
  rw [padded]
  exact List.append_ne_nil_of_right_ne_nil _ Nat.toDigits_ne_nil

theorem length_padded {width n : Nat} (hw : 0 < width) (h : n < Nat.pow 10 width) :
    (padded width n).length = width := by
  have hl : (Nat.toDigits 10 n).length ≤ width :=
    (Nat.length_toDigits_le_iff (by decide) hw).2 h
  rw [padded, List.length_append, List.length_replicate]
  omega

theorem ofDigitChars_padded (width n : Nat) : Nat.ofDigitChars 10 (padded width n) 0 = n := by
  rw [padded, Nat.ofDigitChars_append, Nat.ofDigitChars_replicate_zero, Nat.mul_zero,
    Nat.ofDigitChars_ten_toDigits]

theorem skipBlanks_padded (width n : Nat) (rest : List Char) :
    skipBlanks (padded width n ++ rest) = padded width n ++ rest := by
  obtain ⟨c, ds, hc⟩ := List.exists_cons_of_ne_nil (padded_ne_nil width n)
  have hdigit : c.isDigit = true := isDigit_of_mem_padded (hc ▸ List.mem_cons_self)
  refine Text.dropWhile_of_head? ?_
  rw [hc]
  rintro d ⟨⟩
  exact isWhiteSpace_of_isDigit hdigit

theorem takeUpTo_padded {limit width n : Nat} {rest : List Char}
    (hl : (padded width n).length ≤ limit) (hr : Stops rest) :
    takeUpTo limit (padded width n ++ rest) = some (n, rest) := by
  rw [takeUpTo_append (padded_ne_nil width n) (fun _ => isDigit_of_mem_padded) hl hr,
    ofDigitChars_padded]

theorem takeAll_padded {width n : Nat} {rest : List Char} (hr : Stops rest) :
    takeAll (padded width n ++ rest) = some (n, rest) :=
  takeUpTo_padded (by simp) hr

theorem takeField_padded {n : Nat} {rest : List Char} (h : n < 100) (hr : Stops rest) :
    takeField (padded 2 n ++ rest) = some (n, rest) := by
  have hl : (padded 2 n).length = 2 := length_padded (by decide) h
  rw [takeField, skipBlanks_padded, takeUpTo_padded (by omega) hr]

/-- The sign is read off the text, so a year without one begins with a digit. -/
theorem takeYear_of_digits {cs ds rest : List Char} (hne : ds ≠ [])
    (hd : ∀ c ∈ ds, c.isDigit = true) (hcs : skipBlanks cs = ds ++ rest) :
    takeYear cs = (takeUpTo 4 (ds ++ rest)).map fun r => (↑r.1, r.2) := by
  have hsign (c : Char) (hc : c.isDigit = false) (tail : List Char) : ds ++ rest ≠ c :: tail :=
    digits_append_ne_cons hne hd hc
  rw [takeYear, hcs]
  split
  · rename_i he
    exact absurd he (hsign '-' (by decide) _)
  · rename_i he
    exact absurd he (hsign '+' (by decide) _)
  · rfl

theorem takeYear_padded {n : Nat} {rest : List Char} (h : n < 10000) (hr : Stops rest) :
    takeYear (padded 4 n ++ rest) = some (↑n, rest) := by
  have hl : (padded 4 n).length = 4 := length_padded (by decide) h
  have hread : takeUpTo 4 (padded 4 n ++ rest) = some (n, rest) := takeUpTo_padded (by omega) hr
  rw [takeYear_of_digits (padded_ne_nil 4 n) (fun _ => isDigit_of_mem_padded)
    (skipBlanks_padded 4 n rest), hread]
  rfl

theorem takeYear_yearText (year : Int) {rest : List Char} (hr : Stops rest) :
    takeYear (yearText year ++ rest) = some (year, rest) := by
  rw [yearText]
  split
  · have hback : (-(year.natAbs : Int)) = year := by omega
    change (takeAll (padded 4 year.natAbs ++ rest)).map _ = _
    rw [takeAll_padded hr, Option.map_some, hback]
  · have hback : (year.toNat : Int) = year := by omega
    split
    · rw [takeYear_padded (by omega) hr, hback]
    · change (takeAll (padded 4 year.toNat ++ rest)).map _ = _
      rw [takeAll_padded hr, Option.map_some, hback]

theorem expect_cons (c : Char) (rest : List Char) : expect c (c :: rest) = some rest :=
  if_pos rfl

def fields (t : Timestamp) : Fields :=
  ⟨t.date.year, t.date.month, t.date.day, t.time.hour, t.time.minute,
    t.time.second + t.time.nanos / 1_000_000_000⟩

theorem stops_fractionText (nanos : Nat) : Stops (fractionText nanos) := by
  rw [fractionText]
  split
  · exact stops_nil
  · split
    · exact stops_cons (by decide)
    · split <;> exact stops_cons (by decide)

theorem takeFields_chars (t : Timestamp) :
    takeFields t.chars = some (t.fields, fractionText (t.time.nanos % 1_000_000_000)) := by
  obtain ⟨date, time⟩ := t
  -- Two digits hold every field but the year, which ends at its dash.
  have hmonth : date.month < 100 := by
    have := date.month_le
    omega
  have hday : date.day < 100 := by
    have hle := date.day_le
    have hdays : daysInMonth date.year date.month ≤ 31 := by
      rw [daysInMonth]
      split
      · split <;> decide
      · split <;> decide
    omega
  have hhour : time.hour < 100 := Nat.lt_trans time.hour_lt (by decide)
  have hminute : time.minute < 100 := Nat.lt_trans time.minute_lt (by decide)
  have hsecond : time.second + time.nanos / 1_000_000_000 < 100 := by
    have := time.second_lt
    have := time.nanos_lt
    omega
  have hdash (rest : List Char) : Stops ('-' :: rest) := stops_cons (by decide)
  have hcolon (rest : List Char) : Stops (':' :: rest) := stops_cons (by decide)
  have hblank (rest : List Char) : Stops (' ' :: rest) := stops_cons (by decide)
  have hskip (n : Nat) (rest : List Char) (h : n < 100) (hr : Stops rest) :
      takeField (' ' :: (padded 2 n ++ rest)) = some (n, rest) := takeField_padded h hr
  simp only [takeFields, chars, dateText, timeText, List.append_assoc, List.cons_append,
    takeYear_yearText _ (hdash _), expect_cons, takeField_padded hmonth (hdash _),
    takeField_padded hday (hblank _), hskip _ _ hhour (hcolon _),
    takeField_padded hminute (hcolon _), takeField_padded hsecond (stops_fractionText _), fields,
    Option.bind_eq_bind, Option.bind_some]

theorem not_mem_chars (t : Timestamp) {c : Char} (hd : c.isDigit = false)
    (hm : c ∉ ['-', '+', ' ', ':', '.']) : c ∉ t.chars := by
  simp only [List.mem_cons, List.not_mem_nil, or_false, not_or] at hm
  obtain ⟨hminus, hplus, hblank, hcolon, hpoint⟩ := hm
  have hpadded (width n : Nat) : c ∉ padded width n :=
    fun h => Bool.noConfusion (hd.symm.trans (isDigit_of_mem_padded h))
  have hyear : c ∉ yearText t.date.year := by
    rw [yearText]
    split
    · simp [hminus, hpadded]
    · split <;> simp [hplus, hpadded]
  have hfraction (nanos : Nat) : c ∉ fractionText nanos := by
    rw [fractionText]
    split
    · exact List.not_mem_nil
    · split
      · simp [hpoint, hpadded]
      · split <;> simp [hpoint, hpadded]
  simp [chars, dateText, timeText, hyear, hfraction, hpadded, hminus, hblank, hcolon]

/-- A fraction of fewer than nine digits stands for as many of its units as make it exact. -/
theorem takeFraction_padded {width n : Nat} (hw : 0 < width) (h9 : width ≤ 9)
    (h : n < Nat.pow 10 width) :
    takeFraction ('.' :: padded width n) = some (n * Nat.pow 10 (9 - width), []) := by
  have hl := length_padded hw h
  have hmem : ∀ c ∈ padded width n, c.isDigit = true := fun _ => isDigit_of_mem_padded
  have hdigits : (padded width n).takeWhile Char.isDigit = padded width n := by
    simpa using takeWhile_isDigit_append hmem stops_nil
  have hnine : (padded width n).take 9 = padded width n := List.take_of_length_le (by omega)
  have hrest : (padded width n).drop width = [] := List.drop_of_length_le (by omega)
  rw [takeFraction, hdigits]
  split
  · rename_i he
    exact absurd he (padded_ne_nil width n)
  · simp only [hnine, ofDigitChars_padded, hl, hrest]

theorem takeFraction_fractionText {nanos : Nat} (h : nanos < 1_000_000_000) :
    takeFraction (fractionText nanos) = some (nanos, []) := by
  have hpow6 : Nat.pow 10 (9 - 3) = 1000000 := by decide
  have hpow3 : Nat.pow 10 (9 - 6) = 1000 := by decide
  have hpow0 : Nat.pow 10 (9 - 9) = 1 := by decide
  rw [fractionText]
  split
  · rename_i hz
    rw [hz]
    rfl
  · split
    · rename_i hm
      have hlt : nanos / 1000000 < Nat.pow 10 3 := by
        change nanos / 1000000 < 1000
        omega
      have hback : nanos / 1000000 * 1000000 = nanos := by omega
      rw [takeFraction_padded (by decide) (by decide) hlt, hpow6, hback]
    · split
      · rename_i hm
        have hlt : nanos / 1000 < Nat.pow 10 6 := by
          change nanos / 1000 < 1000000
          omega
        have hback : nanos / 1000 * 1000 = nanos := by omega
        rw [takeFraction_padded (by decide) (by decide) hlt, hpow3, hback]
      · rw [takeFraction_padded (by decide) (by decide) h, hpow0, Nat.mul_one]

theorem ofFields?_self (date : Date) (time : TimeOfDay) :
    ofFields? date.year date.month date.day time.hour time.minute
      (time.second + time.nanos / 1_000_000_000) (time.nanos % 1_000_000_000) =
      some ⟨date, time⟩ := by
  have hsecond := time.second_lt
  have hnanos := time.nanos_lt
  by_cases hleap : 1_000_000_000 ≤ time.nanos
  · have h59 := time.leap hleap
    have hsixty : time.second + time.nanos / 1_000_000_000 = 60 := by omega
    have hback : 1_000_000_000 + time.nanos % 1_000_000_000 = time.nanos := by omega
    have htime := time.of?_self
    rw [h59] at htime
    simp only [ofFields?, date.of?_self, hsixty, if_true, hback, htime, Option.bind_eq_bind,
      Option.bind_some]
  · have hshown : time.second + time.nanos / 1_000_000_000 = time.second := by omega
    have hback : time.nanos % 1_000_000_000 = time.nanos := by omega
    have hsixty : ¬time.second = 60 := by omega
    simp only [ofFields?, date.of?_self, hshown, hsixty, if_false, hback, time.of?_self,
      Option.bind_eq_bind, Option.bind_some]

theorem timestamp?_fields (t : Timestamp) :
    t.fields.timestamp? (t.time.nanos % 1_000_000_000) = some t :=
  ofFields?_self t.date t.time

theorem readFraction_chars (t : Timestamp) : readFraction t.chars = some t := by
  have hnanos : t.time.nanos % 1_000_000_000 < 1_000_000_000 := by omega
  have hfraction := takeFraction_fractionText hnanos
  simp only [readFraction, takeFields_chars, hfraction, timestamp?_fields]

theorem readWhole_chars (t : Timestamp) :
    readWhole t.chars = none ∨ readWhole t.chars = some t := by
  rw [readWhole, takeFields_chars]
  split
  · rename_i f he
    obtain ⟨rfl, hnone⟩ := Prod.mk.inj (Option.some.inj he)
    have hzero : t.time.nanos % 1_000_000_000 = 0 := by
      rw [fractionText] at hnone
      split at hnone
      · assumption
      · split at hnone
        · cases hnone
        · split at hnone <;> cases hnone
    have hback := timestamp?_fields t
    rw [hzero] at hback
    exact .inr hback
  · exact .inl rfl

theorem read?_text (t : Timestamp) : read? t.text = some t := by
  have htext : t.text.toList = t.chars := String.toList_ofList
  rw [read?, htext, readFraction_chars]
  rcases readWhole_chars t with h | h
  · rw [h, Option.none_or]
  · rw [h, Option.some_or]

end Timestamp

/-- A timestamp survives in every form that is given to it: the cell that is bound for it, that cell
once it is kept and read back, and its document. -/
theorem Value.timestamp?_of_text (t : Timestamp) :
    ∃ s, (timestamp t).cell = .text s ∧ (timestamp t).bindable.stored.value = .text s ∧
      (timestamp t).toJson = .string s ∧ (text s).timestamp? = some t :=
  ⟨t.text, rfl, rfl, rfl, Timestamp.read?_text t⟩

end Querysmith
