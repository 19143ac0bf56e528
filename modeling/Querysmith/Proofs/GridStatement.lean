import Querysmith.Database.Grid
import Querysmith.Proofs.Statements

namespace Querysmith

open Sql

section Spread

variable {α β γ : Type}

/-- What is made of each item and of the number of places before it, where each has so many. -/
def spread (width : Nat) (f : Nat → α → β) : Nat → List α → List β
  | _, [] => []
  | k, x :: xs => f k x :: spread width f (k + width) xs

variable {width k : Nat} {f : Nat → α → β}

theorem length_spread (xs : List α) : (spread width f k xs).length = xs.length := by
  induction xs generalizing k with
  | nil => rfl
  | cons x xs ih => rw [spread, List.length_cons, ih, List.length_cons]

theorem map_spread (g : β → γ) (xs : List α) :
    (spread width f k xs).map g = spread width (fun k x => g (f k x)) k xs := by
  induction xs generalizing k with
  | nil => rfl
  | cons x xs ih => rw [spread, spread, List.map_cons, ih]

end Spread

namespace Grid

/-- What can stand behind a name in quotes: no quote, which would be one of its characters. -/
def Unquoted (rest : List Char) : Prop :=
  ∀ c ∈ rest.head?, c ≠ '"'

theorem doubled_cons (c : Char) (cs : List Char) :
    doubled (c :: cs) = doubled [c] ++ doubled cs := by
  simp [doubled]

theorem doubled_singleton {c : Char} (h : c ≠ '"') : doubled [c] = [c] := by
  simp [doubled, h]

theorem readQuoted_cons (c : Char) (cs rest : List Char) :
    readQuoted '"' (doubled (c :: cs) ++ rest) =
      (readQuoted '"' (doubled cs ++ rest)).map fun found =>
        (c :: found.1, found.2 + (doubled [c]).length) := by
  rw [doubled_cons, List.append_assoc]
  by_cases hc : c = '"'
  · subst hc
    change readQuoted '"' ('"' :: '"' :: (doubled cs ++ rest)) = _
    rw [readQuoted, if_pos rfl, if_pos rfl]
    rfl
  · rw [doubled_singleton hc, List.singleton_append]
    cases doubled cs ++ rest with
    | nil => simp only [readQuoted, if_neg hc, Option.map_none]
    | cons d more =>
        rw [readQuoted, if_neg hc]
        rfl

theorem readQuoted_doubled (cs : List Char) {rest : List Char} (h : Unquoted rest) :
    readQuoted '"' (doubled cs ++ '"' :: rest) = some (cs, (doubled cs).length + 1) := by
  induction cs with
  | nil =>
      cases rest with
      | nil => rfl
      | cons d rest =>
          have hd : d ≠ '"' := h d rfl
          change readQuoted '"' ('"' :: d :: rest) = some ([], 1)
          rw [readQuoted, if_pos rfl, if_neg hd]
  | cons c cs ih =>
      have hlength : (doubled cs).length + 1 + (doubled [c]).length =
          (doubled (c :: cs)).length + 1 := by
        rw [doubled_cons c cs, List.length_append]
        omega
      rw [readQuoted_cons, ih, Option.map_some, hlength]

theorem mem_doubled {c : Char} {cs : List Char} (h : c ∈ doubled cs) : c ∈ cs := by
  obtain ⟨d, hd, hc⟩ := List.mem_flatMap.1 h
  split at hc
  · rename_i hquote
    simp only [List.mem_cons, List.not_mem_nil, or_false, or_self] at hc
    rwa [hc, ← hquote]
  · rwa [List.mem_singleton.1 hc]

theorem toList_quotedName (name : String) :
    (quotedName name).toList = '"' :: (doubled name.toList ++ ['"']) :=
  String.toList_ofList

theorem lexes_quotedName {name : String} (h : '\x00' ∉ name.toList) (k : Nat) :
    Lexes Unquoted (quotedName name).toList [.name name true] k k := by
  rw [toList_quotedName]
  refine .of_scan (.name name true) ?_ trivial (fun rest hrest => ?_) k
  · simp only [List.mem_cons, List.mem_append, List.not_mem_nil, or_false, not_or]
    exact ⟨by decide, fun hc => h (mem_doubled hc), by decide⟩
  · change scanQuoted '"' ((doubled name.toList ++ ['"']) ++ rest) = _
    rw [List.append_assoc, List.singleton_append, scanQuoted, readQuoted_doubled _ hrest]
    simp

theorem lexes_comma (k : Nat) :
    Lexes (fun rest => ∀ c ∈ rest.head?, isSpace c = false) ", ".toList [.mark .comma] k k := by
  refine .of_lexSteps 2 (by decide) (by simp [Token.IsFixed]) (fun p rest hrest => ?_) k
  have hspan : rest.takeWhile isSpace = [] := by
    cases rest with
    | nil => rfl
    | cons c rest => rw [List.takeWhile_cons, hrest c rfl, if_neg Bool.false_ne_true]
  have hblank : scan ' ' rest = (.blank, 0) := by
    change (Token.blank, (rest.takeWhile isSpace).length) = _
    rw [hspan]
    rfl
  have hcomma : scan ',' (' ' :: rest) = (.mark .comma, 0) := rfl
  have htext : ", ".toList ++ rest = ',' :: ' ' :: rest := rfl
  rw [htext, lexSteps, hcomma]
  simp only [List.drop_zero, lexSteps, hblank]
  exact ⟨rfl, rfl⟩

theorem toList_joined_cons_cons (s t : String) (ss : List String) :
    (", ".intercalate (s :: t :: ss)).toList =
      s.toList ++ (", ".toList ++ (", ".intercalate (t :: ss)).toList) := by
  rw [String.toList_intercalate, List.map_cons, List.map_cons, List.intercalate_cons_cons,
    String.toList_intercalate, List.map_cons, List.append_assoc]

theorem exists_toList_joined (s : String) (ss : List String) :
    ∃ tail, (", ".intercalate (s :: ss)).toList = s.toList ++ tail := by
  cases ss with
  | nil => exact ⟨[], by rw [String.intercalate_singleton, List.append_nil]⟩
  | cons t ss => exact ⟨_, toList_joined_cons_cons s t ss⟩

theorem head?_joined {c : Char} {cs : List Char} {s : String} (h : s.toList = c :: cs)
    (ss : List String) (rest : List Char) :
    ((", ".intercalate (s :: ss)).toList ++ rest).head? = some c := by
  obtain ⟨tail, htail⟩ := exists_toList_joined s ss
  rw [htail, h]
  rfl

theorem lexes_joined {α : Type} {F : List Char → Prop} (hcomma : ∀ rest, F (',' :: rest))
    (width : Nat) (text : α → String) (tokens : Nat → α → List Token) (xs : List α)
    (hitem : ∀ x ∈ xs, ∀ k, Lexes F (text x).toList (tokens k x) k (k + width))
    (hfirst : ∀ x ∈ xs, ∃ c cs, (text x).toList = c :: cs ∧ isSpace c = false) (k : Nat) :
    Lexes F (", ".intercalate (xs.map text)).toList (separated (spread width tokens k xs)) k
      (k + width * xs.length) := by
  induction xs generalizing k with
  | nil => exact .nil k
  | cons x xs ih =>
      have hx := hitem x List.mem_cons_self k
      cases xs with
      | nil => simpa [spread, separated_singleton] using hx
      | cons y ys =>
          have hrest := ih (fun x hx => hitem x (List.mem_cons_of_mem _ hx))
            (fun x hx => hfirst x (List.mem_cons_of_mem _ hx)) (k + width)
          have htail := (lexes_comma (k + width)).append hrest fun rest _ d hd => by
            obtain ⟨c, cs, htext, hc⟩ := hfirst y (List.mem_cons_of_mem x List.mem_cons_self)
            rw [List.map_cons, head?_joined htext] at hd
            rwa [← Option.some.inj hd]
          have hall := hx.append htail fun more _ => hcomma _
          have hcount :
              k + width + width * (y :: ys).length = k + width * (x :: y :: ys).length := by
            rw [List.length_cons (a := x), Nat.mul_succ]
            omega
          rw [hcount] at hall
          rw [List.map_cons, List.map_cons, toList_joined_cons_cons, spread, spread,
            separated_cons_cons]
          exact hall

def columnTokens (k : Nat) (name : String) : List Token :=
  [.slot (k + 1), .word "as", .name name true]

theorem toList_columnText (name : String) :
    (columnText name).toList = '?' :: (" as ".toList ++ (quotedName name).toList) := by
  rw [columnText, String.toList_append]
  rfl

theorem lexes_as (k : Nat) :
    Lexes (fun rest => rest.head? = some '"') ('?' :: " as ".toList) [.slot (k + 1), .word "as"] k
      (k + 1) := by
  have has : Lexes (fun rest => rest.head? = some '"') " as ".toList [.word "as"] (k + 1)
      (k + 1) := by
    refine .of_lexSteps 3 (by decide) (by simp [Token.IsFixed]) ?_ (k + 1)
    rintro p (_ | ⟨c, rest⟩) hrest
    · cases hrest
    · obtain rfl := Option.some.inj hrest
      exact ⟨rfl, rfl⟩
  exact (Lexes.place k).append has fun _ _ => parted_cons (by decide) (by decide)

theorem lexes_columnText {name : String} (h : '\x00' ∉ name.toList) (k : Nat) :
    Lexes Unquoted (columnText name).toList (columnTokens k name) k (k + 1) := by
  rw [toList_columnText, ← List.cons_append]
  refine (lexes_as k).append (lexes_quotedName h (k + 1)) fun rest _ => ?_
  rw [toList_quotedName]
  rfl

def rowTokens (columns : List String) (k : Nat) : List Token :=
  .mark .leftParen ::
    (separated (spread 1 (fun k _ => [.slot (k + 1)]) k columns) ++ [.mark .rightParen])

theorem toList_rowText (g : Grid) : g.rowText.toList =
    '(' :: ((", ".intercalate (g.columns.map fun _ => "?")).toList ++ ")".toList) :=
  toList_append_append "(" _ _

theorem lexes_rowText (g : Grid) (k : Nat) :
    Lexes (fun _ => True) g.rowText.toList (rowTokens g.columns k) k (k + g.columns.length) := by
  have hcells := lexes_joined (F := Parted) (fun _ => parted_cons (by decide) (by decide)) 1
    (fun _ => "?") (fun k _ => [.slot (k + 1)]) g.columns (fun _ _ k => .place k)
    (fun _ _ => ⟨'?', [], rfl, by decide⟩) k
  rw [Nat.one_mul] at hcells
  have hopen : Lexes (fun _ => True) ['('] [.mark .leftParen] k k :=
    .mark (fun _ => rfl) (by decide) k
  have hclose : Lexes (fun _ => True) ")".toList [.mark .rightParen] (k + g.columns.length)
      (k + g.columns.length) := .mark (fun _ => rfl) (by decide) _
  have hrow := hopen.append (hcells.append hclose fun _ _ => parted_cons (by decide) (by decide))
    fun _ _ => trivial
  rwa [toList_rowText]

def endTokens (g : Grid) : List Token :=
  match g.rows with
  | 0 => [.word "limit", .integer 0]
  | 1 => []
  | more + 2 =>
      .word "union" :: .word "all" :: .word "values" ::
        separated (spread g.columns.length (fun k _ => rowTokens g.columns k) g.columns.length
          (List.range (more + 1)))

/-- The number of cells, those of one row where there is none. -/
def cells (g : Grid) : Nat :=
  max g.rows 1 * g.columns.length

theorem lexes_endText (g : Grid) :
    Lexes (· = []) g.endText.toList g.endTokens g.columns.length g.cells := by
  obtain ⟨columns, rows⟩ := g
  rw [cells]
  match rows with
  | 0 =>
      rw [Nat.zero_max, Nat.one_mul]
      change Lexes _ " limit 0".toList [.word "limit", .integer 0] _ _
      refine .of_lexSteps 4 (by decide) (by simp [Token.IsFixed]) ?_ _
      rintro p _ rfl
      exact ⟨rfl, rfl⟩
  | 1 =>
      rw [Nat.max_self, Nat.one_mul]
      exact .nil _
  | more + 2 =>
      have hhead : Lexes (fun rest => rest.head? = some '(') " union all values ".toList
          [.word "union", .word "all", .word "values"] columns.length columns.length := by
        refine .of_lexSteps 7 (by decide) (by simp [Token.IsFixed]) ?_ _
        rintro p (_ | ⟨c, rest⟩) hrest
        · cases hrest
        · obtain rfl := Option.some.inj hrest
          exact ⟨rfl, rfl⟩
      have hfirst := toList_rowText ⟨columns, more + 2⟩
      have hrows := lexes_joined (fun _ => trivial) columns.length
        (fun _ => rowText ⟨columns, more + 2⟩) (fun k _ => rowTokens columns k)
        (List.range (more + 1)) (fun _ _ k => lexes_rowText ⟨columns, more + 2⟩ k)
        (fun _ _ => ⟨'(', _, hfirst, by decide⟩) columns.length
      have hcount : columns.length + columns.length * (List.range (more + 1)).length =
          max (more + 2) 1 * columns.length := by
        rw [List.length_range, Nat.max_eq_left (by omega), Nat.mul_comm columns.length,
          Nat.succ_mul (more + 1), Nat.add_comm]
      rw [hcount] at hrows
      have hall := hhead.append hrows fun rest _ => by
        rw [List.range_succ_eq_map, List.map_cons, head?_joined hfirst]
      have htext : (endText ⟨columns, more + 2⟩).toList = " union all values ".toList ++
          (", ".intercalate ((List.range (more + 1)).map fun _ =>
            rowText ⟨columns, more + 2⟩)).toList := String.toList_append
      rw [htext]
      exact hall.weaken fun _ _ => trivial

theorem unquoted_endText (g : Grid) : Unquoted g.endText.toList := by
  obtain ⟨columns, rows⟩ := g
  have hspace {rest : List Char} (h : rest.head? = some ' ') : Unquoted rest := by
    intro c hc
    rw [h] at hc
    obtain rfl := Option.some.inj hc
    decide
  match rows with
  | 0 =>
      have hhead : " limit 0".toList.head? = some ' ' := by decide
      exact hspace hhead
  | 1 =>
      intro c hc
      cases hc
  | more + 2 =>
      have htext : (endText ⟨columns, more + 2⟩).toList =
          ' ' :: ("union all values ".toList ++ _) :=
        String.toList_append
      rw [htext]
      exact hspace rfl

def tokens (g : Grid) : List Token :=
  separated (spread 1 columnTokens 0 g.columns) ++ g.endTokens

theorem lexes_select :
    Lexes (fun rest => rest.head? = some '?') "select ".toList [.word "select"] 0 0 := by
  refine .of_lexSteps 2 (by decide) (by simp [Token.IsFixed]) ?_ 0
  rintro p (_ | ⟨c, rest⟩) hrest
  · cases hrest
  · obtain rfl := Option.some.inj hrest
    exact ⟨rfl, rfl⟩

theorem lexes_text {g : Grid} (hne : g.columns ≠ [])
    (hclean : ∀ name ∈ g.columns, '\x00' ∉ name.toList) :
    Lexes (· = []) g.text.toList (.word "select" :: g.tokens) 0 g.cells := by
  have hcomma (rest : List Char) : Unquoted (',' :: rest) := by
    intro c hc
    obtain rfl := Option.some.inj hc
    decide
  have houtputs := lexes_joined hcomma 1 columnText columnTokens g.columns
    (fun name hname k => lexes_columnText (hclean name hname) k)
    (fun name _ => ⟨'?', _, toList_columnText name, by decide⟩) 0
  rw [Nat.one_mul, Nat.zero_add] at houtputs
  have hbody := houtputs.append g.lexes_endText fun rest hrest => by
    subst hrest
    rw [List.append_nil]
    exact g.unquoted_endText
  have hall := lexes_select.append hbody fun rest _ => by
    obtain ⟨name, names, hcolumns⟩ := List.exists_cons_of_ne_nil hne
    rw [List.append_assoc, hcolumns, List.map_cons, head?_joined (toList_columnText name)]
  have htext : g.text.toList = "select ".toList ++
      ((", ".intercalate (g.columns.map columnText)).toList ++ g.endText.toList) :=
    toList_append_append _ _ _
  rw [htext]
  exact hall

section Separated

variable {α β γ : Type} {read : Read β} {tokens : Nat → α → List Token}

/-- Each item is read from its own tokens, and of what is read it is the part that is seen. -/
theorem readSeparated_of_tokens (seen : β → γ) (value : Nat → α → γ) (Ends : List Lexeme → Prop)
    (hread : ∀ k x ls rest, ls.map Lexeme.token = tokens k x → Ends rest →
      ∃ b, read (ls ++ rest) = .ok (b, rest) ∧ seen b = value k x)
    (hne : ∀ k x, tokens k x ≠ [])
    (hcomma : ∀ c rest, c.token = .mark .comma → Ends (c :: rest))
    {rest : List Lexeme} (hrest : Ends rest) (hend : takeMark .comma rest = none) (width : Nat)
    (x : α) (xs : List α) (k : Nat) {ls : List Lexeme}
    (hls : ls.map Lexeme.token = separated (spread width tokens k (x :: xs))) {count : Nat}
    (hcount : ls.length ≤ count) :
    ∃ bs, readSeparated read count (ls ++ rest) = .ok (bs, rest) ∧
      bs.map seen = spread width value k (x :: xs) := by
  induction xs generalizing x k ls count with
  | nil =>
      rw [spread, spread, separated_singleton] at hls
      obtain ⟨b, hb, hseen⟩ := hread k x ls rest hls hrest
      cases count with
      | zero =>
          obtain rfl := List.length_eq_zero_iff.1 (Nat.le_zero.1 hcount)
          exact absurd hls.symm (hne k x)
      | succ count =>
          refine ⟨[b], ?_, ?_⟩
          · simp only [readSeparated, hb, ok_bind, hend]
          · rw [List.map_singleton, hseen, spread, spread]
  | cons y ys ih =>
      -- the comma ends the first item, and behind it the rest of the list is read again
      rw [spread, spread, separated_cons_cons] at hls
      obtain ⟨first, others, rfl, hfirst, hothers⟩ := List.map_eq_append_iff.1 hls
      obtain ⟨c, others, rfl, hc, hothers⟩ := List.map_eq_cons_iff.1 hothers
      obtain ⟨b, hb, hseen⟩ := hread k x first (c :: (others ++ rest)) hfirst (hcomma _ _ hc)
      rw [List.length_append, List.length_cons] at hcount
      cases count with
      | zero => omega
      | succ count =>
          have hless : others.length ≤ count := by omega
          obtain ⟨bs, hbs, hseens⟩ := ih y (k + width) hothers hless
          refine ⟨b :: bs, ?_, ?_⟩
          · rw [List.append_assoc, List.cons_append]
            simp only [readSeparated, hb, ok_bind, takeMark_cons hc, if_true, hbs]
          · rw [List.map_cons, hseen, hseens]
            rfl

end Separated

def parts : Output → Option (Expr Reference × Option String)
  | .value e label _ => some (e, label)
  | .all _ => none

theorem continuation?_as {l : Lexeme} (h : l.token = .word "as") (rest : List Lexeme) :
    continuation? (l :: rest) = none := by
  have hlow : "as".toLower = "as" := toLower_eq_self (by decide)
  simp only [continuation?, h, wordContinuation?, hlow, String.reduceEq, if_false]

theorem readOutput_as (text : List Char) {k : Nat} {q a : Lexeme} (hq : q.token = .slot (k + 1))
    (ha : a.token = .word "as") (rest : List Lexeme) :
    readOutput text (q :: a :: rest) = (do
      let (name, rest) ← readName rest
      .ok (.value (.slot (k + 1)) (some name) (slice text q.position a.position), rest)) := by
  have hlow : "as".toLower = "as" := toLower_eq_self (by decide)
  have hstar : takeMark .star (q :: a :: rest) = none := by
    simp [takeMark, Lexeme.isMark, hq]
  have htable : takeTableStar (q :: a :: rest) = none := by
    simp [takeTableStar, takeName, hq]
  have hplace : [q].map Lexeme.token = (Argument.bound (k + 1)).tokens := by
    rw [List.map_singleton, hq]
    rfl
  have hvalue : readValue (q :: a :: rest) = .ok (.slot (k + 1), a :: rest) :=
    (Argument.bound (k + 1)).readExpr_of_tokens hplace (continuation?_as ha _)
      (3 * (q :: a :: rest).length + 1) 0
  simp only [readOutput, hstar, htable, hvalue, ok_bind, readLabel, takeWord_cons ha, hlow, if_true,
    positionOf]
  cases readName rest <;> rfl

theorem readOutput_of_tokens (text : List Char) (k : Nat) (name : String) {ls : List Lexeme}
    (hls : ls.map Lexeme.token = columnTokens k name) (rest : List Lexeme) :
    ∃ o, readOutput text (ls ++ rest) = .ok (o, rest) ∧
      parts o = some (.slot (k + 1), some name) := by
  obtain ⟨q, ls, rfl, hq, hls⟩ := List.map_eq_cons_iff.1 hls
  obtain ⟨a, ls, rfl, ha, hls⟩ := List.map_eq_cons_iff.1 hls
  obtain ⟨n, ls, rfl, hn, hnil⟩ := List.map_eq_cons_iff.1 hls
  obtain rfl := List.map_eq_nil_iff.1 hnil
  have hname : readName (n :: rest) = .ok (name, rest) := by
    simp only [readName, takeName, hn]
  refine ⟨.value (.slot (k + 1)) (some name) (slice text q.position a.position), ?_, rfl⟩
  simp only [List.cons_append, List.nil_append, readOutput_as text hq ha, hname, ok_bind]

def rowSlots {ν : Type} (columns : List String) (k : Nat) : List (Expr ν) :=
  spread 1 (fun k _ => .slot (k + 1)) k columns

theorem readValue_of_slot {k : Nat} {ls rest : List Lexeme}
    (hls : ls.map Lexeme.token = [.slot (k + 1)]) (hrest : continuation? rest = none) :
    readValue (ls ++ rest) = .ok (.slot (k + 1), rest) :=
  (Argument.bound (k + 1)).readExpr_of_tokens hls hrest (3 * (ls ++ rest).length + 1) 0

theorem readRow_of_tokens {columns : List String} (hne : columns ≠ []) (k : Nat)
    {ls : List Lexeme} (hls : ls.map Lexeme.token = rowTokens columns k) (rest : List Lexeme) :
    readRow (ls ++ rest) = .ok (rowSlots columns k, rest) := by
  obtain ⟨p, ls, rfl, hp, hls⟩ := List.map_eq_cons_iff.1 hls
  obtain ⟨cells, ls, rfl, hcells, hls⟩ := List.map_eq_append_iff.1 hls
  obtain ⟨r, ls, rfl, hr, hnil⟩ := List.map_eq_cons_iff.1 hls
  obtain rfl := List.map_eq_nil_iff.1 hnil
  obtain ⟨name, names, rfl⟩ := List.exists_cons_of_ne_nil hne
  have hmark {m : Mark} {l : Lexeme} (hm : markOperator? m = none) (hl : l.token = .mark m)
      (rest : List Lexeme) : continuation? (l :: rest) = none := by
    rw [continuation?_mark hl, hm]
    rfl
  have hend : takeMark .comma (r :: rest) = none := by
    rw [takeMark_cons hr]
    rfl
  have hcount : cells.length ≤ (cells ++ r :: rest).length := by
    rw [List.length_append]
    exact Nat.le_add_right _ _
  obtain ⟨es, hes, hslots⟩ := readSeparated_of_tokens id (fun k _ => Expr.slot (k + 1))
    (fun rest => continuation? rest = none)
    (fun k _ ls rest hls hrest => ⟨.slot (k + 1), readValue_of_slot hls hrest, rfl⟩)
    (fun _ _ => List.cons_ne_nil _ _) (fun c rest hc => hmark rfl hc rest)
    (hmark rfl hr rest) hend 1 name names k hcells hcount
  rw [List.map_id] at hslots
  simp only [List.cons_append, List.append_assoc, List.nil_append, readRow, expectMark,
    takeMark_cons hp, if_true, ok_bind, hes, takeMark_cons hr, hslots, rowSlots]

def moreRows {ν : Type} (g : Grid) : List (List (Expr ν)) :=
  spread g.columns.length (fun k _ => rowSlots g.columns k) g.columns.length
    (List.range (g.rows - 1))

def limit {ν : Type} (g : Grid) : Option (Expr ν) :=
  if g.rows = 0 then some (.cell (.integer 0)) else none

def Closes (es : List Lexeme) (rows : List (List (Expr Reference)))
    (limit : Option (Expr Reference)) : Prop :=
  readRows es = .ok (rows, []) ∧ rows.isEmpty = false ∧ limit = none ∨
    readRows es = .ok ([], es) ∧ rows = [] ∧ readOrder es = .ok ([], es) ∧
      readLimit es = .ok ((limit, none), [])

theorem closes_limit {w z : Lexeme} (hw : w.token = .word "limit") (hz : z.token = .integer 0) :
    Closes [w, z] [] (some (.cell (.integer 0))) := by
  have hlow : "limit".toLower = "limit" := toLower_eq_self (by decide)
  have htokens : [z].map Lexeme.token = (Argument.written 0).tokens := by
    rw [List.map_singleton, hz]
    rfl
  have hzero : readValue [z] = .ok (.cell (.integer 0), []) :=
    (Argument.written 0).readExpr_of_tokens htokens continuation?_nil 4 0
  refine .inr ⟨?_, rfl, ?_, ?_⟩
  · simp only [readRows, takeWord_of_ne hw hlow (by decide : "limit" ≠ "union")]
  · simp only [readOrder, takeWord_of_ne hw hlow (by decide : "limit" ≠ "order")]
  · simp only [readLimit, readOptional, takeWord_cons hw, hlow, if_true, hzero, ok_bind]
    rfl

theorem closes_rows {columns : List String} (hne : columns ≠ []) (more : Nat) {u : Lexeme}
    {es : List Lexeme} (hu : u.token = .word "union")
    (hes : es.map Lexeme.token = .word "all" :: .word "values" ::
      separated (spread columns.length (fun k _ => rowTokens columns k) columns.length
        (List.range (more + 1)))) :
    Closes (u :: es) (moreRows ⟨columns, more + 2⟩) none := by
  obtain ⟨a, es, rfl, ha, hes⟩ := List.map_eq_cons_iff.1 hes
  obtain ⟨v, es, rfl, hv, hes⟩ := List.map_eq_cons_iff.1 hes
  have hunion : "union".toLower = "union" := toLower_eq_self (by decide)
  have hall : "all".toLower = "all" := toLower_eq_self (by decide)
  have hvalues : "values".toLower = "values" := toLower_eq_self (by decide)
  have hnil : takeMark .comma [] = none := rfl
  obtain ⟨rows, hrows, hslots⟩ := readSeparated_of_tokens id (fun k _ => rowSlots columns k)
    (fun _ => True) (fun k _ ls rest hls _ => ⟨_, readRow_of_tokens hne k hls rest, rfl⟩)
    (fun _ _ => List.cons_ne_nil _ _) (fun _ _ _ => trivial) trivial hnil columns.length 0
    ((List.range more).map Nat.succ) columns.length (by rwa [← List.range_succ_eq_map])
    (Nat.le_refl es.length)
  rw [List.map_id, ← List.range_succ_eq_map] at hslots
  rw [List.append_nil] at hrows
  refine .inl ⟨?_, ?_, rfl⟩
  · simp only [readRows, expectWord, takeWord_cons hu, takeWord_cons ha, takeWord_cons hv, hunion,
      hall, hvalues, if_true, ok_bind, hrows, hslots]
    rfl
  · change (spread columns.length (fun k _ => rowSlots columns k) columns.length
      (List.range (more + 1))).isEmpty = false
    rw [List.range_succ_eq_map]
    rfl

theorem closes_of_tokens {g : Grid} (hne : g.columns ≠ []) {es : List Lexeme}
    (hes : es.map Lexeme.token = g.endTokens) :
    (∀ m, takeMark m es = none) ∧ takeWord "from" es = none ∧ takeWord "where" es = none ∧
      Closes es g.moreRows g.limit := by
  obtain ⟨columns, rows⟩ := g
  match rows with
  | 0 =>
      obtain ⟨w, es, rfl, hw, hes⟩ := List.map_eq_cons_iff.1 hes
      obtain ⟨z, es, rfl, hz, hnil⟩ := List.map_eq_cons_iff.1 hes
      obtain rfl := List.map_eq_nil_iff.1 hnil
      have hlow : "limit".toLower = "limit" := toLower_eq_self (by decide)
      exact ⟨fun m => takeMark_word hw m _, takeWord_of_ne hw hlow (by decide) _,
        takeWord_of_ne hw hlow (by decide) _, closes_limit hw hz⟩
  | 1 =>
      obtain rfl := List.map_eq_nil_iff.1 hes
      exact ⟨fun m => rfl, rfl, rfl, .inr ⟨rfl, rfl, rfl, rfl⟩⟩
  | more + 2 =>
      obtain ⟨u, es, rfl, hu, hes⟩ := List.map_eq_cons_iff.1 hes
      have hlow : "union".toLower = "union" := toLower_eq_self (by decide)
      exact ⟨fun m => takeMark_word hu m _, takeWord_of_ne hu hlow (by decide) _,
        takeWord_of_ne hu hlow (by decide) _, closes_rows hne more hu hes⟩

theorem takeDistinct_slot {q : Lexeme} {n : Nat} (h : q.token = .slot n) (rest : List Lexeme) :
    takeDistinct (q :: rest) = (false, q :: rest) := by
  simp [takeDistinct, takeWord, Lexeme.isWord, h]

theorem readCommand_of_tokens (text : List Char) {g : Grid} (hne : g.columns ≠ [])
    {ls : List Lexeme} (hls : ls.map Lexeme.token = .word "select" :: g.tokens) :
    ∃ outputs, readCommand text ls =
        .ok (.select ⟨false, outputs, none, none, g.moreRows, [], g.limit, none⟩, []) ∧
      outputs.map parts = spread 1 (fun k name => some (.slot (k + 1), some name)) 0 g.columns := by
  obtain ⟨w, ls, rfl, hw, hls⟩ := List.map_eq_cons_iff.1 hls
  obtain ⟨ls, es, rfl, hls, hes⟩ := List.map_eq_append_iff.1 hls
  obtain ⟨hmark, hfrom, hwhere, hcloses⟩ := closes_of_tokens hne hes
  obtain ⟨name, names, hcolumns⟩ := List.exists_cons_of_ne_nil hne
  rw [hcolumns] at hls ⊢
  have hcount : ls.length ≤ (ls ++ es).length := by
    rw [List.length_append]
    exact Nat.le_add_right _ _
  obtain ⟨outputs, houtputs, hparts⟩ := readSeparated_of_tokens parts
    (fun k name => some (.slot (k + 1), some name)) (fun _ => True)
    (fun k name ls rest hls _ => readOutput_of_tokens text k name hls rest)
    (fun _ _ => List.cons_ne_nil _ _) (fun _ _ _ => trivial) trivial (hmark .comma) 1 name names 0
    hls hcount
  refine ⟨outputs, ?_, hparts⟩
  have hdistinct : takeDistinct (ls ++ es) = (false, ls ++ es) := by
    have hfirst : ∃ ts, separated (spread 1 columnTokens 0 (name :: names)) = .slot 1 :: ts := by
      cases names with
      | nil => exact ⟨_, rfl⟩
      | cons => exact ⟨_, rfl⟩
    obtain ⟨ts, hts⟩ := hfirst
    rw [hts] at hls
    obtain ⟨q, ls, rfl, hq, -⟩ := List.map_eq_cons_iff.1 hls
    exact takeDistinct_slot hq (ls ++ es)
  have hselect : "select".toLower = "select" := toLower_eq_self (by decide)
  have hsource : readSource es = .ok (none, es) := by
    simp only [readSource, hfrom]
  have hfilter : readOptional "where" es = .ok (none, es) := by
    simp only [readOptional, hwhere]
  simp only [readCommand, takeWord_cons hw, hselect, if_true, readSelect, hdistinct, houtputs,
    ok_bind, hsource, hfilter]
  rcases hcloses with ⟨hrows, hsome, hlimit⟩ | ⟨hrows, hnone, horder, hlimit⟩
  · simp only [hrows, ok_bind, hsome, Bool.false_eq_true, if_false, hlimit]
  · simp only [hrows, ok_bind, List.isEmpty_nil, if_true, horder, hlimit, hnone]

def answers (g : Grid) : List Answered :=
  spread 1 (fun k name => ⟨name, true, .slot (k + 1)⟩) 0 g.columns

def plan (g : Grid) : Plan :=
  .select ⟨none, false, g.answers, none, g.moreRows, [], g.limit, none⟩

theorem expand_of_parts {o : Output} {e : Expr Reference} {name : String}
    (h : parts o = some (e, some name)) :
    ∃ text, Plan.expand none o = .ok [⟨e, some name, text⟩] := by
  cases o with
  | all table => cases h
  | value e label written =>
      obtain ⟨rfl, rfl⟩ := Prod.mk.inj (Option.some.inj h)
      exact ⟨written, rfl⟩

theorem resolve_of_parts {columns : List String} {outputs : List Output} {k : Nat}
    (h : outputs.map parts = spread 1 (fun k name => some (.slot (k + 1), some name)) k columns) :
    ∃ written, Plan.expandAll none outputs = .ok written ∧ written.length = columns.length ∧
      Plan.resolveOutputs none written =
        .ok (spread 1 (fun k name => ⟨name, true, .slot (k + 1)⟩) k columns) := by
  induction columns generalizing k outputs with
  | nil =>
      obtain rfl := List.map_eq_nil_iff.1 h
      exact ⟨[], rfl, rfl, rfl⟩
  | cons name columns ih =>
      obtain ⟨o, outputs, rfl, ho, h⟩ := List.map_eq_cons_iff.1 h
      obtain ⟨text, hexpand⟩ := expand_of_parts ho
      obtain ⟨written, hwritten, hlength, hresolve⟩ := ih h
      refine ⟨⟨.slot (k + 1), some name, text⟩ :: written, ?_, ?_, ?_⟩
      · simp only [Plan.expandAll, hexpand, ok_bind, hwritten, List.singleton_append]
      · rw [List.length_cons, hlength, List.length_cons]
      · simp only [Plan.resolveOutputs, Expr.resolve, ok_bind, hresolve, Plan.answered, spread]

theorem resolveAll_rowSlots (columns : List String) (k : Nat) :
    Plan.resolveAll constantMeaning (rowSlots columns k) = .ok (rowSlots columns k) := by
  induction columns generalizing k with
  | nil => rfl
  | cons name columns ih =>
      have hrest := ih (k + 1)
      simp only [rowSlots, spread] at hrest ⊢
      simp only [Plan.resolveAll, Expr.resolve, ok_bind, hrest]

theorem length_rowSlots {ν : Type} (columns : List String) (k : Nat) :
    (rowSlots columns k : List (Expr ν)).length = columns.length :=
  length_spread columns

theorem resolveRows_spread {α : Type} (columns : List String) (width k : Nat) (xs : List α) :
    Plan.resolveRows (spread width (fun k _ => rowSlots columns k) k xs) =
        .ok (spread width (fun k _ => rowSlots columns k) k xs) ∧
      Plan.checkWidth columns.length
        (spread width (fun k _ => rowSlots columns k) k xs) = .ok () := by
  induction xs generalizing k with
  | nil => exact ⟨rfl, rfl⟩
  | cons x xs ih =>
      obtain ⟨hrows, hwidth⟩ := ih (k + width)
      constructor
      · simp only [spread, Plan.resolveRows, hrows, ok_bind, resolveAll_rowSlots, length_rowSlots,
          hwidth]
      · simp only [spread, Plan.checkWidth, length_rowSlots, if_true]

theorem resolveOptional_none {ν : Type} (meaning : Reference → Except Fault (Expr ν)) :
    Plan.resolveOptional meaning none = .ok none := rfl

theorem ofCommand_of_parts {g : Grid} {outputs : List Output}
    (h : outputs.map parts =
      spread 1 (fun k name => some (.slot (k + 1), some name)) 0 g.columns) :
    Plan.ofCommand (.select ⟨false, outputs, none, none, g.moreRows, [], g.limit, none⟩) =
      if g.columns.length ≤ Plan.maxColumns then .ok g.plan else .error .tooManyColumns := by
  obtain ⟨written, hwritten, hlength, hanswers⟩ := resolve_of_parts h
  obtain ⟨hrows, hwidth⟩ := resolveRows_spread g.columns g.columns.length g.columns.length
    (List.range (g.rows - 1))
  have hlimit : Plan.resolveOptional constantMeaning g.limit = .ok g.limit := by
    rw [limit, limit]
    split <;> rfl
  have hcount : g.answers.length = g.columns.length := length_spread g.columns
  simp only [Plan.ofCommand, Plan.ofSelect, Plan.sourceScope, ok_bind, hwritten, Plan.checkColumns,
    hlength]
  split
  · change Plan.resolveRows g.moreRows = .ok g.moreRows at hrows
    change Plan.checkWidth g.columns.length g.moreRows = .ok () at hwidth
    change Plan.resolveOutputs none written = .ok g.answers at hanswers
    simp only [hrows, ok_bind, hlimit, resolveOptional_none, hanswers, hcount, hwidth,
      Plan.resolveTerms, plan]
  · rfl

theorem next_text_of_fits {g : Grid} (hne : g.columns ≠ [])
    (hclean : ∀ name ∈ g.columns, '\x00' ∉ name.toList) (hfits : g.cells ≤ maxSlot) :
    Prepared.next g.text.toList =
      if g.columns.length ≤ Plan.maxColumns then .ok (some ⟨g.plan, g.cells⟩, [])
      else .error .tooManyColumns := by
  obtain ⟨command, hnext, hplan⟩ := Parsed.next_whole (lexes_text hne hclean) hfits
    (P := fun command => Plan.ofCommand command =
      if g.columns.length ≤ Plan.maxColumns then .ok g.plan else .error .tooManyColumns)
    fun ls hls => by
      obtain ⟨outputs, hcommand, hparts⟩ := readCommand_of_tokens g.text.toList hne hls
      exact ⟨_, hcommand, ofCommand_of_parts hparts⟩
  simp only [Prepared.next, hnext, ok_bind, Prepared.ofParsed, hplan]
  split <;> rfl

theorem next_text_of_beyond {g : Grid} (hne : g.columns ≠ [])
    (hclean : ∀ name ∈ g.columns, '\x00' ∉ name.toList) (hbeyond : maxSlot < g.cells) :
    ∃ position, Prepared.next g.text.toList = .error (.tooManySlots position) :=
  Prepared.next_of_beyond (lexes_text hne hclean) hbeyond fun _ hls => by
    obtain ⟨outputs, hcommand, -⟩ := readCommand_of_tokens g.text.toList hne hls
    exact ⟨_, hcommand⟩

theorem readQuoted_unclosed (cs : List Char) : readQuoted '"' (doubled cs) = none := by
  induction cs with
  | nil => rfl
  | cons c cs ih =>
      have hcons := readQuoted_cons c cs []
      rwa [List.append_nil, List.append_nil, ih] at hcons

theorem lexes_unclosed {cs : List Char} (h : '\x00' ∉ cs) (k : Nat) :
    Lexes (· = []) ('"' :: doubled cs) [.illegal] k k := by
  refine .of_scan .illegal ?_ trivial (fun rest hrest => ?_) k
  · simp only [List.mem_cons, not_or]
    exact ⟨by decide, fun hc => h (mem_doubled hc)⟩
  · subst hrest
    change scanQuoted '"' (doubled cs ++ []) = _
    rw [List.append_nil, scanQuoted, readQuoted_unclosed]

/-- A name with a character zero in it ends the text: its quote is never closed. What is read before
are the names of columns, and the name itself cannot be read. -/
structure Spoiled (written : List Char) (columns : List String) (k : Nat) (body : List Char)
    (ts : List Token) : Prop where
  ends : ∃ more, (", ".intercalate (columns.map columnText)).toList =
    '?' :: body ++ '\x00' :: more
  lexes : ∃ j, Lexes (· = []) ('?' :: body) (.slot (k + 1) :: ts) k j
  fails : ∀ ls, ls.map Lexeme.token = .slot (k + 1) :: ts → ∀ count, ls.length ≤ count →
    ∃ token position, readSeparated (readOutput written) count ls =
      .error (.unrecognized token position)

variable {written : List Char} {name : String} {columns : List String} {k : Nat}

theorem exists_spoiled_here (hname : '\x00' ∈ name.toList) :
    ∃ body ts, Spoiled written (name :: columns) k body ts := by
  obtain ⟨clean, behind, hparts, hclean⟩ := List.eq_append_cons_of_mem hname
  obtain ⟨tail, htail⟩ := exists_toList_joined (columnText name) (columns.map columnText)
  have hlexes := (lexes_as k).append (lexes_unclosed hclean (k + 1)) fun _ _ => rfl
  refine ⟨" as ".toList ++ '"' :: doubled clean, [.word "as", .illegal],
    ⟨doubled behind ++ '"' :: tail, ?_⟩, ⟨k + 1, hlexes⟩, fun ls hls count hcount => ?_⟩
  · have hquoted : (quotedName name).toList =
        '"' :: doubled clean ++ '\x00' :: (doubled behind ++ ['"']) := by
      rw [toList_quotedName, hparts, doubled, List.flatMap_append]
      simp [doubled]
    rw [List.map_cons, htail, toList_columnText, hquoted]
    simp only [List.cons_append, List.append_assoc, List.nil_append]
  · obtain ⟨q, ls, rfl, hq, hls⟩ := List.map_eq_cons_iff.1 hls
    obtain ⟨a, ls, rfl, ha, hls⟩ := List.map_eq_cons_iff.1 hls
    obtain ⟨i, ls, rfl, hi, hnil⟩ := List.map_eq_cons_iff.1 hls
    obtain rfl := List.map_eq_nil_iff.1 hnil
    have hname : readName [i] = .error (.unrecognized i.written i.position) := by
      simp only [readName, takeName, hi, unexpected, Fault.atTokens]
    have houtput := readOutput_as written hq ha [i]
    rw [hname] at houtput
    cases count with
    | zero => cases hcount
    | succ count =>
        refine ⟨i.written, i.position, ?_⟩
        rw [readSeparated, houtput]
        rfl

theorem Spoiled.behind {body : List Char} {ts : List Token}
    (h : Spoiled written columns (k + 1) body ts) (hne : columns ≠ [])
    (hname : '\x00' ∉ name.toList) : ∃ body ts, Spoiled written (name :: columns) k body ts := by
  obtain ⟨⟨more, htext⟩, ⟨j, hlexes⟩, hfails⟩ := h
  have hrest := (lexes_comma (k + 1)).append hlexes fun rest _ c hc => by
    obtain rfl := Option.some.inj hc
    decide
  have hall := (lexes_columnText hname k).append hrest fun rest _ c hc => by
    obtain rfl := Option.some.inj hc
    decide
  have hjoined : (", ".intercalate ((name :: columns).map columnText)).toList =
      '?' :: (" as ".toList ++ (quotedName name).toList ++ (", ".toList ++ '?' :: body)) ++
        '\x00' :: more := by
    obtain ⟨other, others, rfl⟩ := List.exists_cons_of_ne_nil hne
    rw [List.map_cons, List.map_cons, toList_joined_cons_cons, ← List.map_cons, htext,
      toList_columnText]
    simp only [List.cons_append, List.append_assoc]
  rw [toList_columnText, List.cons_append] at hall
  refine ⟨_, _, ⟨more, hjoined⟩, ⟨j, hall⟩, fun ls hls count hcount => ?_⟩
  obtain ⟨first, others, rfl, hfirst, hothers⟩ := List.map_eq_append_iff.1
    (show ls.map Lexeme.token = columnTokens k name ++ _ from hls)
  obtain ⟨c, others, rfl, hc, hothers⟩ := List.map_eq_cons_iff.1 hothers
  obtain ⟨o, ho, -⟩ := readOutput_of_tokens written k name hfirst (c :: others)
  rw [List.length_append, List.length_cons] at hcount
  cases count with
  | zero => omega
  | succ count =>
      obtain ⟨token, position, hfail⟩ := hfails others hothers count (by omega)
      refine ⟨token, position, ?_⟩
      simp only [readSeparated, ho, ok_bind, takeMark_cons hc, if_true, hfail]
      rfl

theorem exists_spoiled (h : ∃ name ∈ columns, '\x00' ∈ name.toList) :
    ∃ body ts, Spoiled written columns k body ts := by
  induction columns generalizing k with
  | nil =>
      obtain ⟨name, hmem, -⟩ := h
      cases hmem
  | cons name columns ih =>
      by_cases hname : '\x00' ∈ name.toList
      · exact exists_spoiled_here hname
      · obtain ⟨spoiled, hspoiled, hzero⟩ := h
        have hmem : spoiled ∈ columns := by
          rcases List.mem_cons.1 hspoiled with rfl | hmem
          · exact absurd hzero hname
          · exact hmem
        obtain ⟨body, ts, hrest⟩ := ih (k := k + 1) ⟨spoiled, hmem, hzero⟩
        exact hrest.behind (List.ne_nil_of_mem hmem) hname

theorem next_text_of_spoiled {g : Grid} (h : ∃ name ∈ g.columns, '\x00' ∈ name.toList) :
    ∃ token position, Prepared.next g.text.toList = .error (.unrecognized token position) := by
  obtain ⟨body, ts, ⟨more, htext⟩, ⟨j, hlexes⟩, hfails⟩ := @exists_spoiled g.text.toList _ 0 h
  obtain ⟨ls, hls, -, hlex⟩ := lexemes_of_lexes (lexes_select.append hlexes fun _ _ => rfl)
    ('\x00' :: more ++ g.endText.toList) rfl
  have hbody : g.text.toList =
      "select ".toList ++ '?' :: body ++ ('\x00' :: more ++ g.endText.toList) := by
    have hparts : g.text.toList = "select ".toList ++
        ((", ".intercalate (g.columns.map columnText)).toList ++ g.endText.toList) :=
      toList_append_append _ _ _
    rw [hparts, htext]
    simp only [List.append_assoc, List.cons_append]
  have hend (k p : Nat) : lexemesFrom k p [] = [] := by
    rw [lexemesFrom, lexFrom, numberSlots]
  have hnone : ('\x00' :: more ++ g.endText.toList).takeWhile (fun c => decide (c ≠ '\x00')) = [] :=
    rfl
  rw [← hbody, hnone, hend, List.append_nil] at hlex
  obtain ⟨w, ls, rfl, hw, hls⟩ := List.map_eq_cons_iff.1 hls
  obtain ⟨token, position, hfail⟩ := hfails ls hls ls.length (Nat.le_refl _)
  obtain ⟨q, ls, rfl, hq, -⟩ := List.map_eq_cons_iff.1 hls
  have hselect : "select".toLower = "select" := toLower_eq_self (by decide)
  have hread :
      readCommand g.text.toList (w :: q :: ls) = .error (.unrecognized token position) := by
    simp only [readCommand, takeWord_cons hw, hselect, if_true, readSelect, takeDistinct_slot hq,
      hfail]
    rfl
  have hmark : w.isMark .semicolon = false := by
    rw [Lexeme.isMark, hw]
  refine ⟨token, position, ?_⟩
  simp only [Prepared.next, Parsed.next, hlex, List.dropWhile_cons, hmark, Bool.false_eq_true,
    if_false, hread]
  rfl

end Grid

end Querysmith
