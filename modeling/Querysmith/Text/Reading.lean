

namespace Querysmith.Text

variable {α : Type}

def isBlank (c : Char) : Bool :=
  c = ' ' || c = '\t' || c = '\n' || c = '\r'

def skipBlanks (cs : List Char) : List Char :=
  cs.dropWhile isBlank

def readWord (word : List Char) (a : α) (cs : List Char) : Option (α × List Char) :=
  if word.isPrefixOf cs then some (a, cs.drop word.length) else none

/-- One or more members, separated by commas, up to the closing mark. The count bounds the members
and is never reached when it is the length of the text. -/
def readMembers (close : Char) (read : List Char → Option (α × List Char)) :
    Nat → List Char → Option (List α × List Char)
  | 0, _ => none
  | count + 1, cs => do
      let (a, rest) ← read cs
      match skipBlanks rest with
      | c :: rest =>
          if c = ',' then
            let (as, rest) ← readMembers close read count rest
            some (a :: as, rest)
          else if c = close then some ([a], rest)
          else none
      | [] => none

def readList (close : Char) (read : List Char → Option (α × List Char)) (cs : List Char) :
    Option (List α × List Char) :=
  match skipBlanks cs with
  | c :: rest => if c = close then some ([], rest) else readMembers close read cs.length cs
  | [] => none

theorem readWord_append (word : List Char) (a : α) (rest : List Char) :
    readWord word a (word ++ rest) = some (a, rest) := by
  have hprefix : word.isPrefixOf (word ++ rest) = true :=
    List.isPrefixOf_iff_prefix.2 (List.prefix_append word rest)
  rw [readWord, if_pos hprefix, List.drop_left]

theorem skipBlanks_cons {c : Char} {rest : List Char} (h : isBlank c = false) :
    skipBlanks (c :: rest) = c :: rest := by
  rw [skipBlanks, List.dropWhile_cons, h, if_neg Bool.false_ne_true]

theorem isDigit_of_mem_toDigits {n : Nat} {c : Char} (h : c ∈ Nat.toDigits 10 n) :
    c.isDigit = true :=
  Nat.isDigit_of_mem_toDigits (by decide) (by decide) h

def Stops (rest : List Char) : Prop :=
  ∀ c ∈ rest.head?, c.isDigit = false

theorem stops_nil : Stops [] := by
  intro c hc
  simp at hc

theorem stops_cons {c : Char} {rest : List Char} (h : c.isDigit = false) : Stops (c :: rest) := by
  rintro d ⟨⟩
  exact h

theorem Stops.takeWhile_eq_nil {rest : List Char} (h : Stops rest) :
    rest.takeWhile Char.isDigit = [] := by
  cases rest with
  | nil => rfl
  | cons c rest => rw [List.takeWhile_cons, h c rfl, if_neg Bool.false_ne_true]

theorem Stops.dropWhile_eq_self {rest : List Char} (h : Stops rest) :
    rest.dropWhile Char.isDigit = rest := by
  cases rest with
  | nil => rfl
  | cons c rest => rw [List.dropWhile_cons, h c rfl, if_neg Bool.false_ne_true]

theorem takeWhile_isDigit_append {ds rest : List Char} (hd : ∀ c ∈ ds, c.isDigit = true)
    (hr : Stops rest) : (ds ++ rest).takeWhile Char.isDigit = ds := by
  rw [List.takeWhile_append_of_pos hd, hr.takeWhile_eq_nil, List.append_nil]

theorem digits_append_ne_cons {ds rest tail : List Char} {c : Char} (hne : ds ≠ [])
    (hd : ∀ c ∈ ds, c.isDigit = true) (hc : c.isDigit = false) : ds ++ rest ≠ c :: tail := by
  obtain ⟨d, ds, rfl⟩ := List.exists_cons_of_ne_nil hne
  have hdigit : d.isDigit = true := hd d List.mem_cons_self
  rintro ⟨⟩
  exact Bool.noConfusion (hdigit.symm.trans hc)

theorem toList_toString_ofNat (n : Nat) : (toString (n : Int)).toList = Nat.toDigits 10 n := by
  change (toString n).toList = _
  simp

theorem toList_toString_negSucc (n : Nat) :
    (toString (Int.negSucc n)).toList = '-' :: Nat.toDigits 10 (n + 1) := by
  change ("-" ++ toString (n + 1)).toList = _
  simp

theorem exists_toString_eq_cons (n : Int) :
    ∃ c cs, (toString n).toList = c :: cs ∧ ∀ d, d ≠ '-' → d.isDigit = false → c ≠ d := by
  cases n with
  | ofNat n =>
      obtain ⟨c, cs, hc⟩ := List.exists_cons_of_ne_nil (Nat.toDigits_ne_nil (b := 10) (n := n))
      have hdigit : c.isDigit = true := isDigit_of_mem_toDigits (hc ▸ List.mem_cons_self)
      refine ⟨c, cs, (toList_toString_ofNat n).trans hc, ?_⟩
      rintro d - hd rfl
      exact Bool.noConfusion (hd.symm.trans hdigit)
  | negSucc n => exact ⟨'-', _, toList_toString_negSucc n, fun _ hd _ => hd.symm⟩

/-- How elements are written so that they can be read one after the other: each is read as its value
wherever the list goes on, and none begins like the end of the list or with a blank. -/
structure ReadsBack {ε : Type} (close : Char) (read : List Char → Option (α × List Char))
    (write : ε → List Char) (value : ε → α) (Good : ε → Prop) : Prop where
  read_append : ∀ {x c} rest, Good x → c = ',' ∨ c = close →
    read (write x ++ c :: rest) = some (value x, c :: rest)
  start : ∀ {x}, Good x → ∃ c cs, write x = c :: cs ∧ isBlank c = false ∧ c ≠ close

namespace ReadsBack

variable {ε : Type} {close : Char} {read : List Char → Option (α × List Char)}
  {write : ε → List Char} {value : ε → α} {Good : ε → Prop}

/-- The count need not be the number of members; it is enough that it is no less than the length of
the text, which shrinks with every member. -/
theorem readMembers_intercalate (h : ReadsBack close read write value Good)
    (hcomma : close ≠ ',') (hblank : isBlank close = false) (x : ε) (xs : List ε)
    (rest : List Char) (hx : ∀ y ∈ x :: xs, Good y) {count : Nat}
    (hcount : ([','].intercalate ((x :: xs).map write) ++ close :: rest).length ≤ count) :
    readMembers close read count ([','].intercalate ((x :: xs).map write) ++ close :: rest) =
      some ((x :: xs).map value, rest) := by
  induction xs generalizing x count with
  | nil =>
      cases count with
      | zero => simp at hcount
      | succ count =>
          have hlast := h.read_append rest (hx x List.mem_cons_self) (.inr rfl)
          simp only [List.map_cons, List.map_nil, List.intercalate_singleton]
          simp only [readMembers, hlast, Option.bind_eq_bind, Option.bind_some,
            skipBlanks_cons hblank, if_neg hcomma, if_true]
  | cons y ys ih =>
      cases count with
      | zero => simp at hcount
      | succ count =>
          have htext : [','].intercalate ((x :: y :: ys).map write) ++ close :: rest =
              write x ++ ',' :: ([','].intercalate ((y :: ys).map write) ++ close :: rest) := by
            simp
          rw [htext] at hcount ⊢
          have hshorter :
              ([','].intercalate ((y :: ys).map write) ++ close :: rest).length ≤ count := by
            simp only [List.length_append, List.length_cons] at hcount ⊢
            omega
          have hmore := ih y (fun z hz => hx z (List.mem_cons_of_mem x hz)) hshorter
          have hfirst := h.read_append ([','].intercalate ((y :: ys).map write) ++ close :: rest)
            (hx x List.mem_cons_self) (.inl rfl)
          simp only [readMembers, hfirst, Option.bind_eq_bind, Option.bind_some,
            skipBlanks_cons (c := ',') rfl, if_true, hmore]
          rfl

theorem readList_intercalate (h : ReadsBack close read write value Good) (hcomma : close ≠ ',')
    (hblank : isBlank close = false) {xs : List ε} (rest : List Char) (hx : ∀ x ∈ xs, Good x) :
    readList close read ([','].intercalate (xs.map write) ++ close :: rest) =
      some (xs.map value, rest) := by
  cases xs with
  | nil =>
      change readList close read (close :: rest) = _
      simp only [readList, skipBlanks_cons hblank, if_true, List.map_nil]
  | cons x xs =>
      have hmembers := h.readMembers_intercalate hcomma hblank x xs rest hx (Nat.le_refl _)
      obtain ⟨c, cs, hw, hc, hne⟩ := h.start (hx x List.mem_cons_self)
      obtain ⟨tail, htext⟩ :
          ∃ tail, [','].intercalate ((x :: xs).map write) ++ close :: rest = c :: tail := by
        cases xs with
        | nil => simp [hw]
        | cons y ys => simp [hw]
      rw [htext] at hmembers ⊢
      simp only [readList, skipBlanks_cons hc, if_neg hne, hmembers]

end ReadsBack

end Querysmith.Text
