import Querysmith.Sql.Token

namespace Querysmith.Sql

/-- What can stand behind a word or a number without being a part of it. -/
def Parted (rest : List Char) : Prop :=
  ∀ c ∈ rest.head?, isNamePart c = false ∧ c ≠ '.'

theorem parted_nil : Parted [] := by
  intro c hc
  simp at hc

theorem parted_cons {c : Char} {rest : List Char} (h : isNamePart c = false) (hc : c ≠ '.') :
    Parted (c :: rest) := by
  rintro d ⟨⟩
  exact ⟨h, hc⟩

theorem isNamePart_of_isDigit {c : Char} (h : c.isDigit = true) : isNamePart c = true := by
  simp [isNamePart, Char.isAlphanum, h]

theorem isNamePart_of_isDigitPart {c : Char} (h : isDigitPart c = true) : isNamePart c = true := by
  rcases Bool.or_eq_true_iff.1 h with h | h
  · exact isNamePart_of_isDigit h
  · rw [decide_eq_true_iff.1 h]
    decide

theorem Parted.spanOf_eq_zero {rest : List Char} (h : Parted rest) {p : Char → Bool}
    (hp : ∀ c, p c = true → isNamePart c = true) : spanOf p rest = 0 := by
  cases rest with
  | nil => rfl
  | cons c rest =>
      have hc : p c = false := by
        cases hpc : p c with
        | false => rfl
        | true => exact absurd (hp c hpc) (by simp [(h c rfl).1])
      simp [spanOf, hc]

theorem spanOf_append {p : Char → Bool} {cs rest : List Char} (h : ∀ c ∈ cs, p c = true) :
    spanOf p (cs ++ rest) = cs.length + spanOf p rest := by
  rw [spanOf, List.takeWhile_append_of_pos h, List.length_append, spanOf]

theorem lexFrom_of_scan {c : Char} {cs rest : List Char} {t : Token} (ht : t ≠ .blank)
    (h : scan c (cs ++ rest) = (t, cs.length)) (p : Nat) :
    lexFrom p (c :: cs ++ rest) =
      ⟨t, p, String.ofList (c :: cs)⟩ :: lexFrom (p + (c :: cs).length) rest := by
  rw [List.cons_append, lexFrom, h]
  simp only [List.drop_left, List.take_left]
  cases t with
  | blank => exact absurd rfl ht
  | _ => rfl

theorem fractionSpan_of_parted {rest : List Char} (h : Parted rest) : fractionSpan rest = 0 := by
  cases rest with
  | nil => rfl
  | cons c rest =>
      rw [fractionSpan.eq_def]
      split
      · rename_i he
        exact absurd (List.cons.inj he).1 (h c rfl).2
      · rfl

theorem exponentSpan_of_parted {rest : List Char} (h : Parted rest) : exponentSpan rest = 0 := by
  match rest, h with
  | [], _ => rfl
  | [_], _ => rfl
  | c :: d :: rest, h =>
      have hc := (h c rfl).1
      have he : ¬(c = 'e' ∨ c = 'E') := by
        rintro (rfl | rfl) <;> exact absurd hc (by decide)
      rw [exponentSpan, if_neg he]

theorem decimalSpan_append {ds rest : List Char} (hd : ∀ c ∈ ds, c.isDigit = true)
    (h : Parted rest) : decimalSpan (ds ++ rest) = ds.length := by
  have hparts : ∀ c ∈ ds, isDigitPart c = true := fun c hc => by simp [isDigitPart, hd c hc]
  have hwhole : spanOf isDigitPart (ds ++ rest) = ds.length := by
    rw [spanOf_append hparts, h.spanOf_eq_zero fun _ => isNamePart_of_isDigitPart, Nat.add_zero]
  simp only [decimalSpan, hwhole, List.drop_left, fractionSpan_of_parted h, Nat.add_zero,
    exponentSpan_of_parted h]

theorem separatedToken_of_digits {ds : List Char} (hd : ∀ c ∈ ds, c.isDigit = true)
    (value : List Char → Token) : separatedToken Char.isDigit value ds = value ds := by
  have hne : ∀ c ∈ ds, c ≠ '_' := by
    rintro c hc rfl
    exact absurd (hd _ hc) (by decide)
  have hnone : lastMisplaced? Char.isDigit ds = none := by
    rw [lastMisplaced?, List.find?_eq_none]
    intro i _
    have hi : ds[i]? ≠ some '_' := fun he => hne _ (List.mem_of_getElem? he) rfl
    simp [hi]
  have hclosed : closedUp ds = ds := List.filter_eq_self.2 fun c hc => by simpa using hne c hc
  rw [separatedToken, hnone, hclosed]

theorem spoiled_of_parted {cs rest : List Char} (h : Parted rest) (t : Token) :
    spoiled t cs.length (cs ++ rest) = (t, cs.length) := by
  simp only [spoiled, List.drop_left, h.spanOf_eq_zero fun _ => id]

theorem scanDecimal_append {c : Char} {ds rest : List Char}
    (hd : ∀ d ∈ c :: ds, d.isDigit = true) (h : Parted rest) :
    scanDecimal c (ds ++ rest) = (.integer (Nat.ofDigitChars 10 (c :: ds) 0), ds.length) := by
  have hall : (c :: ds).all Char.isDigit = true := List.all_eq_true.2 hd
  have hspan : decimalSpan (c :: (ds ++ rest)) = ds.length + 1 := decimalSpan_append hd h
  have htake : (c :: (ds ++ rest)).take (ds.length + 1) = c :: ds := by simp
  rw [scanDecimal, hspan, htake, separatedToken_of_digits hd, Nat.add_sub_cancel,
    spoiled_of_parted h, decimalToken, if_pos hall]

theorem scanNumber_append {c : Char} {ds rest : List Char}
    (hd : ∀ d ∈ c :: ds, d.isDigit = true) (h : Parted rest) :
    scanNumber c (ds ++ rest) = (.integer (Nat.ofDigitChars 10 (c :: ds) 0), ds.length) := by
  have hx : ∀ x, (ds ++ rest).head? = some x → ¬(x = 'x' ∨ x = 'X') := by
    intro x hx
    rintro (rfl | rfl)
    all_goals
      cases ds with
      | nil => exact absurd (h _ hx).1 (by decide)
      | cons d ds =>
          obtain rfl := Option.some.inj hx
          exact absurd (hd _ (List.mem_cons_of_mem c List.mem_cons_self)) (by decide)
  rw [scanNumber.eq_def]
  split
  · rename_i x d tail he
    have hno : ¬(c = '0' ∧ (x = 'x' ∨ x = 'X') ∧ isHexDigit d = true) :=
      fun hc => hx x (by rw [he]; rfl) hc.2.1
    rw [if_neg hno, scanDecimal_append hd h]
  · exact scanDecimal_append hd h

theorem toNat_ge_of_isAlpha {c : Char} (h : c.isAlpha = true) : 65 ≤ c.toNat := by
  rcases Bool.or_eq_true_iff.1 h with hu | hl
  · have hval : 'A'.val ≤ c.val := (of_decide_eq_true hu).1
    exact UInt32.le_iff_toNat_le.1 hval
  · have hval : 'a'.val ≤ c.val := of_decide_eq_true (Bool.and_eq_true_iff.1 hl).1
    exact Nat.le_trans (by decide) (UInt32.le_iff_toNat_le.1 hval)

theorem scan_of_isDigit {c : Char} (h : c.isDigit = true) (cs : List Char) :
    scan c cs = scanNumber c cs := by
  obtain ⟨hlow, hhigh⟩ : 48 ≤ c.toNat ∧ c.toNat ≤ 57 := Char.isDigit_iff_toNat.1 h
  have hne (d : Char) (hd : d.isDigit = false) : c ≠ d := by
    rintro rfl
    exact absurd h (by simp [hd])
  have hblank : isBlankStart c = false := by
    have hspace : ¬(9 ≤ c.toNat ∧ c.toNat ≤ 13) := by omega
    simp [isBlankStart, isSpace, hne ' ' (by decide), hspace]
  have hname : isNameStart c = false := by
    have halpha : c.isAlpha = false := by
      cases ha : c.isAlpha with
      | false => rfl
      | true =>
          have := toNat_ge_of_isAlpha ha
          omega
    have hhigh' : ¬128 ≤ c.toNat := by omega
    simp [isNameStart, halpha, hne '_' (by decide), hhigh']
  rw [scan, hblank, if_neg (by decide), if_neg (hne _ (by decide)), hname, if_neg (by decide),
    if_pos h]

def lexSteps : Nat → Nat → List Char → List Lexeme × Nat × List Char
  | 0, p, cs => ([], p, cs)
  | _ + 1, p, [] => ([], p, [])
  | k + 1, p, c :: cs =>
      let (token, n) := scan c cs
      let (ls, behind) := lexSteps k (p + n + 1) (cs.drop n)
      match token with
      | .blank => (ls, behind)
      | token => (⟨token, p, String.ofList (c :: cs.take n)⟩ :: ls, behind)

theorem lexFrom_eq_lexSteps (k p : Nat) (cs : List Char) :
    lexFrom p cs =
      (lexSteps k p cs).1 ++ lexFrom (lexSteps k p cs).2.1 (lexSteps k p cs).2.2 := by
  induction k generalizing p cs with
  | zero => rfl
  | succ k ih =>
      cases cs with
      | nil => rfl
      | cons c cs =>
          rw [lexFrom, lexSteps]
          generalize scan c cs = found
          obtain ⟨token, n⟩ := found
          have h := ih (p + n + 1) (cs.drop n)
          cases token <;> simp only [h, List.cons_append]

def lexemesFrom (count p : Nat) (text : List Char) : List Lexeme :=
  numberSlots ⟨count, []⟩ (lexFrom p text)

def greatestSlot (n : Nat) : Token → Nat
  | .slot k => max n k
  | _ => n

/-- A piece of a text has the given tokens in front of whatever may follow it. The numbers of its
places follow the first of the two numbers and go up to the second. -/
structure Lexes (Follows : List Char → Prop) (text : List Char) (ts : List Token)
    (before after : Nat) : Prop where
  clean : '\x00' ∉ text
  exists_lexemes : ∀ p rest, Follows rest → ∃ ls, ls.map Lexeme.token = ts ∧
    lexemesFrom before p (text ++ rest) = ls ++ lexemesFrom after (p + text.length) rest
  slots : ts.foldl greatestSlot before = after

def Token.IsFixed : Token → Prop
  | .blank | .parameter _ | .slot _ => False
  | _ => True

theorem Token.IsFixed.ne_blank {t : Token} (h : t.IsFixed) : t ≠ .blank := by
  rintro rfl
  exact h

theorem numberSlots_append_of_isFixed {ls : List Lexeme} (h : ∀ l ∈ ls, l.token.IsFixed)
    (slots : Slots) (rest : List Lexeme) :
    numberSlots slots (ls ++ rest) = ls ++ numberSlots slots rest := by
  induction ls with
  | nil => rfl
  | cons l ls ih =>
      have hl := h l List.mem_cons_self
      rw [List.cons_append, numberSlots, ih fun m hm => h m (List.mem_cons_of_mem l hm)]
      split
      · rename_i label he
        rw [he] at hl
        exact hl.elim
      · rfl

theorem foldl_greatestSlot_of_isFixed {ts : List Token} (h : ∀ t ∈ ts, t.IsFixed) (n : Nat) :
    ts.foldl greatestSlot n = n := by
  induction ts with
  | nil => rfl
  | cons t ts ih =>
      have ht : greatestSlot n t = n := by
        have hfixed := h t List.mem_cons_self
        cases t with
        | slot => exact hfixed.elim
        | _ => rfl
      rw [List.foldl_cons, ht, ih fun u hu => h u (List.mem_cons_of_mem t hu)]

def separated (tss : List (List Token)) : List Token :=
  [.mark .comma].intercalate tss

def integerTokens (n : Int) : List Token :=
  if n < 0 then [.mark .minus, .integer (-n)] else [.integer n]

namespace Lexes

variable {F G : List Char → Prop} {a b : List Char} {ts us : List Token} {i j k : Nat}

theorem nil (k : Nat) : Lexes F [] [] k k :=
  ⟨by simp, fun _ _ _ => ⟨[], rfl, rfl⟩, rfl⟩

theorem weaken (h : Lexes F a ts i j) (hfollows : ∀ rest, G rest → F rest) : Lexes G a ts i j :=
  ⟨h.clean, fun p rest hrest => h.exists_lexemes p rest (hfollows rest hrest), h.slots⟩

theorem append (ha : Lexes F a ts i j) (hb : Lexes G b us j k)
    (hfollows : ∀ rest, G rest → F (b ++ rest)) : Lexes G (a ++ b) (ts ++ us) i k := by
  refine ⟨?_, ?_, ?_⟩
  · rw [List.mem_append]
    exact fun h => h.elim ha.clean hb.clean
  · intro p rest hrest
    obtain ⟨ls, hls, hla⟩ := ha.exists_lexemes p (b ++ rest) (hfollows rest hrest)
    obtain ⟨ms, hms, hlb⟩ := hb.exists_lexemes (p + a.length) rest hrest
    refine ⟨ls ++ ms, by rw [List.map_append, hls, hms], ?_⟩
    rw [List.append_assoc, hla, hlb, List.append_assoc, List.length_append, Nat.add_assoc]
  · rw [List.foldl_append, ha.slots, hb.slots]

theorem of_lexFrom (clean : '\x00' ∉ a) (fixed : ∀ t ∈ ts, t.IsFixed)
    (h : ∀ p rest, F rest → ∃ ls, ls.map Lexeme.token = ts ∧
      lexFrom p (a ++ rest) = ls ++ lexFrom (p + a.length) rest) (k : Nat) : Lexes F a ts k k := by
  refine ⟨clean, fun p rest hrest => ?_, foldl_greatestSlot_of_isFixed fixed k⟩
  obtain ⟨ls, rfl, hlex⟩ := h p rest hrest
  refine ⟨ls, rfl, ?_⟩
  rw [lexemesFrom, hlex, numberSlots_append_of_isFixed fun l hl => fixed _ (List.mem_map_of_mem hl)]
  rfl

theorem of_scan {c : Char} {cs : List Char} (t : Token) (clean : '\x00' ∉ c :: cs)
    (fixed : t.IsFixed) (h : ∀ rest, F rest → scan c (cs ++ rest) = (t, cs.length)) (k : Nat) :
    Lexes F (c :: cs) [t] k k := by
  refine of_lexFrom clean (fun u hu => ?_) (fun p rest hrest => ?_) k
  · rwa [List.mem_singleton.1 hu]
  · exact ⟨[⟨t, p, String.ofList (c :: cs)⟩], rfl, lexFrom_of_scan fixed.ne_blank (h rest hrest) p⟩

theorem of_lexSteps (steps : Nat) (clean : '\x00' ∉ a) (fixed : ∀ t ∈ ts, t.IsFixed)
    (h : ∀ p rest, F rest → (lexSteps steps p (a ++ rest)).1.map Lexeme.token = ts ∧
      (lexSteps steps p (a ++ rest)).2 = (p + a.length, rest)) (k : Nat) : Lexes F a ts k k := by
  refine of_lexFrom clean fixed (fun p rest hrest => ?_) k
  obtain ⟨htokens, hbehind⟩ := h p rest hrest
  refine ⟨_, htokens, ?_⟩
  rw [lexFrom_eq_lexSteps steps p (a ++ rest), hbehind]

theorem mark {c : Char} {m : Mark} (h : ∀ rest, scan c rest = (.mark m, 0))
    (clean : '\x00' ≠ c) (k : Nat) : Lexes (fun _ => True) [c] [.mark m] k k :=
  of_scan (.mark m) (by simpa using clean) trivial (fun rest _ => h rest) k

/-- A minus before another one, or before a greater than, is no mark of its own. -/
theorem minus (k : Nat) :
    Lexes (fun rest => ∀ c ∈ rest.head?, c ≠ '-' ∧ c ≠ '>') ['-'] [.mark .minus] k k := by
  refine of_scan (.mark .minus) (by decide) trivial (fun rest hrest => ?_) k
  change scanMinus rest = (.mark .minus, 0)
  rw [scanMinus.eq_def]
  split
  · exact absurd rfl (hrest '-' rfl).1
  · exact absurd rfl (hrest '>' rfl).2
  · exact absurd rfl (hrest '>' rfl).2
  · rfl

theorem place (k : Nat) : Lexes Parted ['?'] [.slot (k + 1)] k (k + 1) := by
  refine ⟨by decide, ?_, by simp [greatestSlot]⟩
  intro p rest hrest
  refine ⟨[⟨.slot (k + 1), p, "?"⟩], rfl, ?_⟩
  have hdigits : rest.takeWhile Char.isDigit = [] := by
    have hspan := hrest.spanOf_eq_zero fun _ => isNamePart_of_isDigit
    rwa [spanOf, List.length_eq_zero_iff] at hspan
  have hscan : scan '?' ([] ++ rest) = (.parameter "?", ([] : List Char).length) := by
    change (Token.parameter (String.ofList ('?' :: rest.takeWhile Char.isDigit)),
      (rest.takeWhile Char.isDigit).length) = _
    rw [hdigits]
  rw [lexemesFrom, lexFrom_of_scan (by rintro ⟨⟩) hscan]
  rfl

theorem digits {ds : List Char} (hne : ds ≠ []) (hd : ∀ d ∈ ds, d.isDigit = true) (k : Nat) :
    Lexes Parted ds [.integer (Nat.ofDigitChars 10 ds 0)] k k := by
  obtain ⟨c, ds, rfl⟩ := List.exists_cons_of_ne_nil hne
  refine of_scan (.integer _) (fun h => absurd (hd _ h) (by decide)) trivial
    (fun rest hrest => ?_) k
  rw [scan_of_isDigit (hd c List.mem_cons_self), scanNumber_append hd hrest]

theorem natural (n k : Nat) : Lexes Parted (Nat.toDigits 10 n) [.integer n] k k := by
  have hd : ∀ c ∈ Nat.toDigits 10 n, c.isDigit = true :=
    fun _ => Nat.isDigit_of_mem_toDigits (by decide) (by decide)
  have h := digits Nat.toDigits_ne_nil hd k
  rwa [Nat.ofDigitChars_ten_toDigits] at h

theorem integer (n : Int) (k : Nat) :
    Lexes Parted (toString n).toList (integerTokens n) k k := by
  cases n with
  | ofNat m =>
      have ht : (toString (Int.ofNat m)).toList = Nat.toDigits 10 m := by
        change (toString m).toList = _
        simp
      rw [ht]
      exact natural m k
  | negSucc m =>
      have ht : (toString (Int.negSucc m)).toList = ['-'] ++ Nat.toDigits 10 (m + 1) := by
        change ("-" ++ toString (m + 1)).toList = _
        simp
      rw [ht, integerTokens, if_pos (Int.negSucc_lt_zero m)]
      refine (minus k).append (natural (m + 1) k) fun rest _ => ?_
      have hd : ∀ c ∈ Nat.toDigits 10 (m + 1), c.isDigit = true :=
        fun _ => Nat.isDigit_of_mem_toDigits (by decide) (by decide)
      obtain ⟨c, cs, hc⟩ := List.exists_cons_of_ne_nil (Nat.toDigits_ne_nil (b := 10) (n := m + 1))
      rw [hc] at hd ⊢
      rintro d ⟨⟩
      have hdigit := hd c List.mem_cons_self
      constructor <;> rintro rfl <;> exact absurd hdigit (by decide)

end Lexes

/-- Each of some pieces has its own tokens, its places numbered behind those of the ones before. -/
inductive LexesAll : List (List Char) → List (List Token) → Nat → Nat → Prop where
  | nil (k : Nat) : LexesAll [] [] k k
  | cons {text : List Char} {ts : List Token} {texts : List (List Char)} {tss : List (List Token)}
      {i j k : Nat} (h : Lexes Parted text ts i j) (hs : LexesAll texts tss j k) :
      LexesAll (text :: texts) (ts :: tss) i k

theorem LexesAll.joined {texts : List (List Char)} {tss : List (List Token)} {i j : Nat}
    (h : LexesAll texts tss i j) : Lexes Parted ([','].intercalate texts) (separated tss) i j := by
  induction h with
  | nil k => exact .nil k
  | @cons text ts texts tss i j k h hs ih =>
      cases hs with
      | nil => simpa [separated] using h
      | cons h' hs' =>
          have hcomma : Lexes (fun _ => True) [','] [.mark .comma] j j :=
            .mark (fun _ => rfl) (by decide) j
          have hrest := hcomma.append ih fun _ _ => trivial
          have hall := h.append hrest fun _ _ => parted_cons (by decide) (by decide)
          simpa [separated] using hall

end Querysmith.Sql
