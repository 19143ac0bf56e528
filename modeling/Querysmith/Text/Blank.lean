namespace Querysmith.Text

/-- The characters of the Unicode property White_Space. -/
def isWhiteSpace (c : Char) : Bool :=
  let n := c.toNat
  (9 ≤ n && n ≤ 13) || n = 0x20 || n = 0x85 || n = 0xA0 || n = 0x1680 ||
    (0x2000 ≤ n && n ≤ 0x200A) || n = 0x2028 || n = 0x2029 || n = 0x202F || n = 0x205F || n = 0x3000

def trim (cs : List Char) : List Char :=
  ((cs.dropWhile isWhiteSpace).reverse.dropWhile isWhiteSpace).reverse

def Unpadded (cs : List Char) : Prop :=
  (∀ c ∈ cs.head?, isWhiteSpace c = false) ∧ ∀ c ∈ cs.getLast?, isWhiteSpace c = false

theorem Unpadded.of_ends {cs : List Char} {c d : Char} (hfirst : cs.head? = some c)
    (hlast : cs.getLast? = some d) (hc : isWhiteSpace c = false) (hd : isWhiteSpace d = false) :
    Unpadded cs := by
  rw [Unpadded, hfirst, hlast]
  constructor
  · rintro _ ⟨⟩
    exact hc
  · rintro _ ⟨⟩
    exact hd

theorem dropWhile_of_head? {cs : List Char} (h : ∀ c ∈ cs.head?, isWhiteSpace c = false) :
    cs.dropWhile isWhiteSpace = cs := by
  cases cs with
  | nil => rfl
  | cons c cs => rw [List.dropWhile_cons, h c rfl, if_neg Bool.false_ne_true]

theorem Unpadded.trim {cs : List Char} (h : Unpadded cs) : trim cs = cs := by
  have hlast : ∀ c ∈ cs.reverse.head?, isWhiteSpace c = false := by
    rw [List.head?_reverse]
    exact h.2
  rw [Text.trim, dropWhile_of_head? h.1, dropWhile_of_head? hlast, List.reverse_reverse]

theorem Unpadded.append {a b : List Char} (ha : Unpadded a) (hne : a ≠ [])
    (hb : ∀ c ∈ b.getLast?, isWhiteSpace c = false) : Unpadded (a ++ b) := by
  constructor
  · obtain ⟨c, cs, rfl⟩ := List.exists_cons_of_ne_nil hne
    exact ha.1
  · intro c hc
    rw [List.getLast?_append] at hc
    cases hlast : b.getLast? with
    | none => exact ha.2 c (by simpa [hlast] using hc)
    | some d => exact hb c (by simpa [hlast] using hc)

end Querysmith.Text
