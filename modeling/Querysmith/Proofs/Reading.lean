import Mathlib.Data.List.Forall2
import Querysmith.Proofs.Shape

namespace Querysmith

def IsName (name : String) : Prop :=
  name ≠ "" ∧ ∀ c ∈ name.toList, isNameChar c = true

instance (name : String) : Decidable (IsName name) :=
  decidable_of_iff (name ≠ "" ∧ name.toList.all isNameChar = true)
    (by rw [List.all_eq_true, IsName])

def Ends (rest : List Char) : Prop :=
  ∀ c ∈ rest.head?, isNameChar c = false

theorem IsName.toList_ne_nil {name : String} (h : IsName name) : name.toList ≠ [] :=
  fun e => h.1 (String.toList_eq_nil_iff.1 e)

theorem safeName?_of_isName {name : String} (h : IsName name) : safeName? name = some name := by
  have ht : name.toList.takeWhile isNameChar = name.toList := by
    have hl : (name.toList ++ []).takeWhile isNameChar = name.toList ++ [].takeWhile isNameChar :=
      List.takeWhile_append_of_pos h.2
    simpa using hl
  rw [safeName?, ht]
  split
  · rename_i hn
    exact absurd hn h.toList_ne_nil
  · rw [String.ofList_toList]

theorem ends_nil : Ends [] := by
  intro c hc
  simp at hc

theorem ends_cons {c : Char} {rest : List Char} (h : isNameChar c = false) : Ends (c :: rest) := by
  intro d hd
  obtain rfl := Option.some.inj hd
  exact h

theorem Ends.not_name_append {rest a s : List Char} (h : Ends rest) (hne : a ≠ [])
    (ha : ∀ c ∈ a, isNameChar c = true) : rest ≠ a ++ s := by
  rintro rfl
  obtain ⟨c, a, rfl⟩ := List.exists_cons_of_ne_nil hne
  have hc : isNameChar c = false := h c rfl
  rw [ha c List.mem_cons_self] at hc
  exact Bool.noConfusion hc

theorem chars_append_inj {a b r r' : List Char} (ha : ∀ c ∈ a, isNameChar c = true)
    (hb : ∀ c ∈ b, isNameChar c = true) (hr : Ends r) (hr' : Ends r') (h : a ++ r = b ++ r') :
    a = b ∧ r = r' := by
  induction a generalizing b with
  | nil =>
      cases b with
      | nil => exact ⟨rfl, h⟩
      | cons d b => exact absurd h (hr.not_name_append (List.cons_ne_nil d b) hb)
  | cons c a ih =>
      cases b with
      | nil => exact absurd h.symm (hr'.not_name_append (List.cons_ne_nil c a) ha)
      | cons d b =>
          obtain ⟨rfl, ht⟩ := List.cons.inj h
          obtain ⟨rfl, hrest⟩ := ih (fun x hx => ha x (List.mem_cons_of_mem c hx))
            (fun x hx => hb x (List.mem_cons_of_mem c hx)) ht
          exact ⟨rfl, hrest⟩

theorem name_append_inj {a b : String} {r r' : List Char} (ha : IsName a) (hb : IsName b)
    (hr : Ends r) (hr' : Ends r') (h : a.toList ++ r = b.toList ++ r') : a = b ∧ r = r' := by
  obtain ⟨hab, hrest⟩ := chars_append_inj ha.2 hb.2 hr hr' h
  exact ⟨String.toList_inj.1 hab, hrest⟩

/-- Entries that can be told apart one after the other. `More` holds of what may follow an entry,
and `Last` of what may follow the whole list, which is neither an entry nor a separator. -/
structure Readable {α : Type} (separator : List Char) (entry : α → List Char) (Good : α → Prop)
    (Same : α → α → Prop) (More Last : List Char → Prop) : Prop where
  entry_inj : ∀ {x y r r'}, Good x → Good y → More r → More r' → entry x ++ r = entry y ++ r' →
    Same x y ∧ r = r'
  more : ∀ r, More (separator ++ r)
  last : ∀ r, Last r → More r
  not_separator : ∀ {r} s, Last r → r ≠ separator ++ s
  not_entry : ∀ {x r} s, Good x → Last r → r ≠ entry x ++ s

namespace Readable

variable {α : Type} {separator : List Char} {entry : α → List Char} {Good : α → Prop}
  {Same : α → α → Prop} {More Last : List Char → Prop}

theorem intercalate_cons_append (separator : List Char) (entry : α → List Char) (x : α)
    (xs : List α) (r : List Char) :
    separator.intercalate ((x :: xs).map entry) ++ r = entry x ++
      if xs = [] then r else separator ++ (separator.intercalate (xs.map entry) ++ r) := by
  cases xs with
  | nil => simp
  | cons y ys => simp

theorem intercalate_append_inj (h : Readable separator entry Good Same More Last) {xs ys : List α}
    {r r' : List Char} (hx : ∀ x ∈ xs, Good x) (hy : ∀ y ∈ ys, Good y) (hr : Last r) (hr' : Last r')
    (he : separator.intercalate (xs.map entry) ++ r = separator.intercalate (ys.map entry) ++ r') :
    List.Forall₂ Same xs ys ∧ r = r' := by
  have hmore (zs : List α) {s : List Char} (hs : Last s) :
      More (if zs = [] then s else separator ++ (separator.intercalate (zs.map entry) ++ s)) := by
    split
    · exact h.last s hs
    · exact h.more _
  induction xs generalizing ys with
  | nil =>
      cases ys with
      | nil => exact ⟨.nil, he⟩
      | cons y ys =>
          rw [intercalate_cons_append] at he
          exact absurd he (h.not_entry _ (hy y List.mem_cons_self) hr)
  | cons x xs ih =>
      cases ys with
      | nil =>
          rw [intercalate_cons_append] at he
          exact absurd he.symm (h.not_entry _ (hx x List.mem_cons_self) hr')
      | cons y ys =>
          rw [intercalate_cons_append, intercalate_cons_append] at he
          obtain ⟨hxy, ht⟩ := h.entry_inj (hx x List.mem_cons_self) (hy y List.mem_cons_self)
            (hmore xs hr) (hmore ys hr') he
          by_cases hxs : xs = []
          · by_cases hys : ys = []
            · subst hxs hys
              exact ⟨.cons hxy .nil, ht⟩
            · rw [if_pos hxs, if_neg hys] at ht
              exact absurd ht (h.not_separator _ hr)
          · by_cases hys : ys = []
            · rw [if_neg hxs, if_pos hys] at ht
              exact absurd ht.symm (h.not_separator _ hr')
            · rw [if_neg hxs, if_neg hys] at ht
              obtain ⟨hrest, hend⟩ := ih (fun z hz => hx z (List.mem_cons_of_mem x hz))
                (fun z hz => hy z (List.mem_cons_of_mem y hz)) (List.append_cancel_left ht)
              exact ⟨.cons hxy hrest, hend⟩

end Readable

theorem names_readable : Readable ", ".toList String.toList IsName Eq Ends
    (fun r => Ends r ∧ ∀ s, r ≠ ',' :: s) where
  entry_inj := name_append_inj
  more := fun _ => ends_cons (by decide)
  last := fun _ h => h.1
  not_separator := by
    rintro r s ⟨-, hr⟩
    exact hr _
  not_entry := by
    rintro x r s hx ⟨hr, -⟩
    exact hr.not_name_append hx.toList_ne_nil hx.2

theorem names_append_inj {xs ys : List String} {r r' : List Char} (hx : ∀ x ∈ xs, IsName x)
    (hy : ∀ y ∈ ys, IsName y) (hr : Ends r) (hr' : Ends r') (hc : ∀ s, r ≠ ',' :: s)
    (hc' : ∀ s, r' ≠ ',' :: s)
    (h : (", ".intercalate xs).toList ++ r = (", ".intercalate ys).toList ++ r') :
    xs = ys ∧ r = r' := by
  rw [String.toList_intercalate, String.toList_intercalate] at h
  obtain ⟨hxy, hrest⟩ := names_readable.intercalate_append_inj hx hy ⟨hr, hc⟩ ⟨hr', hc'⟩ h
  rw [List.forall₂_eq_eq_eq] at hxy
  exact ⟨hxy, hrest⟩

theorem marks_append_inj {α β : Type} {separator : String} {t : List Char}
    (hs : separator.toList = ',' :: t) {xs : List α} {ys : List β} {r r' : List Char}
    (h : (marks separator xs.length).toList ++ ')' :: r =
      (marks separator ys.length).toList ++ ')' :: r') : xs.length = ys.length ∧ r = r' := by
  have hread : Readable separator.toList (fun _ : Unit => ['?']) (fun _ => True) (fun _ _ => True)
      (fun _ => True) (fun r => ∃ s, r = ')' :: s) :=
    { entry_inj := fun _ _ _ _ he => ⟨trivial, List.append_cancel_left he⟩
      more := fun _ => trivial
      last := fun _ _ => trivial
      not_separator := by
        rintro r s ⟨u, rfl⟩
        simp [hs]
      not_entry := by
        rintro x r s - ⟨u, rfl⟩
        simp }
  have hunits (zs : List Unit) : (marks separator zs.length).toList =
      separator.toList.intercalate (zs.map fun _ => ['?']) := toList_marks separator zs
  have he : separator.toList.intercalate ((List.replicate xs.length ()).map fun _ => ['?']) ++
      ')' :: r = separator.toList.intercalate ((List.replicate ys.length ()).map fun _ => ['?']) ++
      ')' :: r' := by
    simpa only [← hunits, List.length_replicate] using h
  obtain ⟨hlen, hr⟩ := hread.intercalate_append_inj (fun _ _ => trivial) (fun _ _ => trivial)
    ⟨r, rfl⟩ ⟨r', rfl⟩ he
  exact ⟨by simpa using hlen.length_eq, (List.cons.inj hr).2⟩

def Condition.test : Condition → List Char
  | equals _ => [' ', '=', ' ', '?']
  | oneOf vs => ' ' :: 'I' :: 'N' :: ' ' :: '(' :: ((marks "," vs.length).toList ++ [')'])

theorem Condition.toList_text (field : String) (c : Condition) :
    (c.text .parameterized field).toList = field.toList ++ c.test := by
  cases c with
  | equals v => simp [text, test]
  | oneOf vs => simp [text, test]

theorem Condition.ends_test (c : Condition) (r : List Char) : Ends (c.test ++ r) := by
  cases c with
  | equals v => exact ends_cons (by decide)
  | oneOf vs => exact ends_cons (by decide)

theorem Condition.test_append_inj {c d : Condition} {r r' : List Char}
    (h : c.test ++ r = d.test ++ r') : c.Alike .parameterized d ∧ r = r' := by
  cases c with
  | equals v =>
      cases d with
      | equals w => exact ⟨trivial, List.append_cancel_left h⟩
      | oneOf ws => simp [test] at h
  | oneOf vs =>
      cases d with
      | equals w => simp [test] at h
      | oneOf ws =>
          simp only [test, List.cons_append, List.append_assoc, List.cons.injEq, true_and] at h
          exact marks_append_inj rfl h

theorem Condition.eq_of_alike {c d : Condition} (h : c.Alike .parameterized d)
    (hp : c.params .parameterized = d.params .parameterized) : c = d := by
  cases c with
  | equals v =>
      cases d with
      | equals w => exact congrArg equals (List.cons.inj hp).1
      | oneOf ws => exact h.elim
  | oneOf vs =>
      cases d with
      | equals w => exact h.elim
      | oneOf ws => exact congrArg oneOf hp

def Closes (rest : List Char) : Prop :=
  rest = [] ∨ ∃ c s, rest = ' ' :: c :: s ∧ c ≠ 'a' ∧ c ≠ 'w'

theorem Closes.ends {rest : List Char} (h : Closes rest) : Ends rest := by
  rcases h with rfl | ⟨c, s, rfl, -⟩
  · exact ends_nil
  · exact ends_cons (by decide)

namespace Conditions

def entryText (e : String × Condition) : List Char :=
  (e.2.text .parameterized e.1).toList

theorem entryText_readable : Readable " and ".toList entryText (fun e => IsName e.1)
    (fun e f => e.1 = f.1 ∧ e.2.Alike .parameterized f.2) (fun _ => True) Closes where
  entry_inj := by
    rintro ⟨f, c⟩ ⟨g, d⟩ r r' hf hg - - h
    simp only [entryText, Condition.toList_text, List.append_assoc] at h
    obtain ⟨hfg, ht⟩ := name_append_inj hf hg (c.ends_test r) (d.ends_test r') h
    obtain ⟨hcd, hr⟩ := Condition.test_append_inj ht
    exact ⟨⟨hfg, hcd⟩, hr⟩
  more := fun _ => trivial
  last := fun _ _ => trivial
  not_separator := by
    rintro r s (rfl | ⟨c, u, rfl, hc, -⟩)
    · simp
    · simp [hc]
  not_entry := by
    rintro ⟨f, c⟩ r s hf hr
    rw [entryText, Condition.toList_text, List.append_assoc]
    exact hr.ends.not_name_append hf.toList_ne_nil hf.2

def whereText (es : List (String × Condition)) : List Char :=
  if es = [] then [] else " where ".toList ++ " and ".toList.intercalate (es.map entryText)

theorem toList_fragment (m : Conditions) :
    (fragment .parameterized m).text.toList = whereText m.entries := by
  rw [text_fragment, whereText]
  split
  · rfl
  · rw [String.toList_append, String.toList_intercalate, texts, List.map_map]
    rfl

theorem whereText_append_ends (es : List (String × Condition)) {r : List Char} (hr : Ends r) :
    Ends (whereText es ++ r) := by
  rw [whereText]
  split
  · exact hr
  · exact ends_cons (by decide)

theorem whereText_append_inj {es fs : List (String × Condition)} {r r' : List Char}
    (he : ∀ e ∈ es, IsName e.1) (hf : ∀ f ∈ fs, IsName f.1) (hr : Closes r) (hr' : Closes r')
    (h : whereText es ++ r = whereText fs ++ r') : Alike .parameterized es fs ∧ r = r' := by
  have hne {s u : List Char} (hs : Closes s) : s ≠ " where ".toList ++ u := by
    rcases hs with rfl | ⟨c, t, rfl, -, hc⟩
    · simp
    · simp [hc]
  by_cases hes : es = []
  · by_cases hfs : fs = []
    · subst hes hfs
      exact ⟨.nil, h⟩
    · rw [whereText, whereText, if_pos hes, if_neg hfs, List.append_assoc] at h
      exact absurd h (hne hr)
  · by_cases hfs : fs = []
    · rw [whereText, whereText, if_neg hes, if_pos hfs, List.append_assoc] at h
      exact absurd h.symm (hne hr')
    · rw [whereText, whereText, if_neg hes, if_neg hfs, List.append_assoc, List.append_assoc] at h
      exact entryText_readable.intercalate_append_inj he hf hr hr' (List.append_cancel_left h)

/-- The parameters fall to the conditions in order, to each as many as its shape takes. -/
theorem eq_of_alike {es fs : List (String × Condition)} (h : Alike .parameterized es fs)
    (hp : params .parameterized es = params .parameterized fs) : es = fs := by
  induction h with
  | nil => rfl
  | @cons e f es fs hef _ ih =>
      obtain ⟨hn, hc⟩ := hef
      simp only [params, List.flatMap_cons] at hp ih
      obtain ⟨hv, hrest⟩ := List.append_inj hp hc.length_params
      rw [ih hrest, Prod.ext hn (Condition.eq_of_alike hc hv)]

end Conditions

def PlainFilter (f : Option Filter) : Prop :=
  ∀ x, f = some x → ∃ m, x = .fields m ∧ ∀ field ∈ m.keys, IsName field

/-- An absent filter has no conditions, like an empty one. -/
def filterEntries : Option Filter → List (String × Condition)
  | some (.fields m) => m.entries
  | some (.clause _ _) | none => []

theorem PlainFilter.isName {f : Option Filter} (h : PlainFilter f) {e : String × Condition}
    (he : e ∈ filterEntries f) : IsName e.1 := by
  cases f with
  | none => simp [filterEntries] at he
  | some x =>
      obtain ⟨m, rfl, hm⟩ := h x rfl
      exact hm e.1 (List.mem_map_of_mem he)

theorem PlainFilter.toList_text {f : Option Filter} (h : PlainFilter f) :
    (filterFragment .parameterized f).text.toList = Conditions.whereText (filterEntries f) := by
  cases f with
  | none => rfl
  | some x =>
      obtain ⟨m, rfl, -⟩ := h x rfl
      exact Conditions.toList_fragment m

theorem PlainFilter.params_eq {f : Option Filter} (h : PlainFilter f) :
    (filterFragment .parameterized f).params =
      Conditions.params .parameterized (filterEntries f) := by
  cases f with
  | none => rfl
  | some x =>
      obtain ⟨m, rfl, -⟩ := h x rfl
      exact Conditions.params_fragment .parameterized m

def part (keyword said : List Char) : List Char :=
  if said = [] then [] else keyword ++ said

theorem ends_part {keyword said r : List Char} (hk : ∀ u, Ends (keyword ++ u)) (hr : Ends r) :
    Ends (part keyword said ++ r) := by
  rw [part]
  split
  · exact hr
  · rw [List.append_assoc]
    exact hk _

theorem part_append_ne {keyword other said r s : List Char}
    (hk : ∀ u v, keyword ++ u ≠ other ++ v) (hr : r ≠ other ++ s) :
    part keyword said ++ r ≠ other ++ s := by
  rw [part]
  split
  · exact hr
  · rw [List.append_assoc]
    exact hk _ _

theorem part_append_inj {keyword a b r r' : List Char} (ha : ∀ c ∈ a, isNameChar c = true)
    (hb : ∀ c ∈ b, isNameChar c = true) (hr : Ends r) (hr' : Ends r')
    (hk : ∀ s, r ≠ keyword ++ s) (hk' : ∀ s, r' ≠ keyword ++ s)
    (h : part keyword a ++ r = part keyword b ++ r') : a = b ∧ r = r' := by
  by_cases hae : a = []
  · by_cases hbe : b = []
    · subst hae hbe
      exact ⟨rfl, h⟩
    · rw [part, part, if_pos hae, if_neg hbe, List.append_assoc] at h
      exact absurd h (hk _)
  · by_cases hbe : b = []
    · rw [part, part, if_neg hae, if_pos hbe, List.append_assoc] at h
      exact absurd h.symm (hk' _)
    · rw [part, part, if_neg hae, if_neg hbe, List.append_assoc, List.append_assoc] at h
      exact chars_append_inj ha hb hr hr' (List.append_cancel_left h)

end Querysmith
