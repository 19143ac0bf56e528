namespace Querysmith

structure OrderedMap (κ α : Type) where
  entries : List (κ × α)
  nodup : (entries.map Prod.fst).Nodup := by simp

namespace OrderedMap

variable {κ α : Type}

@[ext]
theorem ext {m n : OrderedMap κ α} (h : m.entries = n.entries) : m = n := by
  cases m
  cases n
  cases h
  rfl

def empty : OrderedMap κ α := ⟨[], by simp⟩

def keys (m : OrderedMap κ α) : List κ :=
  m.entries.map Prod.fst

def values (m : OrderedMap κ α) : List α :=
  m.entries.map Prod.snd

def size (m : OrderedMap κ α) : Nat :=
  m.entries.length

def isEmpty (m : OrderedMap κ α) : Bool :=
  m.entries.isEmpty

@[simp]
theorem entries_empty : (empty : OrderedMap κ α).entries = [] := rfl

variable [DecidableEq κ]

/-- A pair whose key is there already takes that key's place; a new key goes to the end. -/
def put (k : κ) (a : α) : List (κ × α) → List (κ × α)
  | [] => [(k, a)]
  | (j, b) :: rest => if j = k then (j, a) :: rest else (j, b) :: put k a rest

theorem keys_put (k : κ) (a : α) (es : List (κ × α)) :
    (put k a es).map Prod.fst =
      if k ∈ es.map Prod.fst then es.map Prod.fst else es.map Prod.fst ++ [k] := by
  induction es with
  | nil => simp [put]
  | cons e rest ih =>
      obtain ⟨j, b⟩ := e
      by_cases h : j = k
      · simp [put, h]
      · have h' : ¬k = j := fun e => h e.symm
        simp only [put, h, if_false, List.map_cons, ih, List.mem_cons, h', false_or]
        split <;> simp

theorem nodup_put {k : κ} {a : α} {es : List (κ × α)} (h : (es.map Prod.fst).Nodup) :
    ((put k a es).map Prod.fst).Nodup := by
  rw [keys_put]
  split
  · exact h
  · rename_i hk
    refine List.nodup_append.2 ⟨h, by simp, ?_⟩
    intro x hx y hy
    obtain rfl := List.mem_singleton.1 hy
    exact fun e => hk (e ▸ hx)

def insert (m : OrderedMap κ α) (k : κ) (a : α) : OrderedMap κ α :=
  ⟨put k a m.entries, nodup_put m.nodup⟩

def insertAll (m : OrderedMap κ α) (ws : List (κ × α)) : OrderedMap κ α :=
  ws.foldl (fun m w => m.insert w.1 w.2) m

def ofList (es : List (κ × α)) : OrderedMap κ α :=
  es.foldl (fun m e => m.insert e.1 e.2) empty

def get? (m : OrderedMap κ α) (k : κ) : Option α :=
  (m.entries.find? fun e => e.1 = k).map Prod.snd

instance [DecidableEq α] : DecidableEq (OrderedMap κ α) := fun m n =>
  if h : m.entries = n.entries then isTrue (ext h) else isFalse fun e => h (e ▸ rfl)

@[simp]
theorem entries_insert (m : OrderedMap κ α) (k : κ) (a : α) :
    (m.insert k a).entries = put k a m.entries := rfl

theorem keys_insert (m : OrderedMap κ α) (k : κ) (a : α) :
    (m.insert k a).keys = if k ∈ m.keys then m.keys else m.keys ++ [k] :=
  keys_put k a m.entries

theorem put_of_not_mem {k : κ} {es : List (κ × α)} (h : k ∉ es.map Prod.fst) (a : α) :
    put k a es = es ++ [(k, a)] := by
  induction es with
  | nil => rfl
  | cons e rest ih =>
      obtain ⟨j, b⟩ := e
      simp only [List.map_cons, List.mem_cons, not_or] at h
      simp only [put, if_neg (Ne.symm h.1), ih h.2, List.cons_append]

theorem put_ne_nil (k : κ) (a : α) (es : List (κ × α)) : put k a es ≠ [] := by
  cases es with
  | nil => simp [put]
  | cons e rest =>
      simp only [put]
      split <;> simp

theorem map_put {β : Type} (f : α → β) (k : κ) (a : α) (es : List (κ × α)) :
    (put k a es).map (fun e => (e.1, f e.2)) = put k (f a) (es.map fun e => (e.1, f e.2)) := by
  induction es with
  | nil => rfl
  | cons e rest ih =>
      obtain ⟨j, b⟩ := e
      by_cases h : j = k
      · simp [put, h]
      · simp [put, h, ih]

theorem entries_insertAll (m : OrderedMap κ α) (ws : List (κ × α)) :
    (m.insertAll ws).entries = ws.foldl (fun entries w => put w.1 w.2 entries) m.entries := by
  induction ws generalizing m with
  | nil => rfl
  | cons w ws ih => exact ih (m.insert w.1 w.2)

theorem entries_ofList (es : List (κ × α)) :
    (ofList es).entries = es.foldl (fun entries e => put e.1 e.2 entries) [] :=
  entries_insertAll empty es

theorem foldl_put_of_nodup {before es : List (κ × α)} (h : ((before ++ es).map Prod.fst).Nodup) :
    es.foldl (fun entries e => put e.1 e.2 entries) before = before ++ es := by
  induction es generalizing before with
  | nil => exact (List.append_nil before).symm
  | cons e es ih =>
      have hk : e.1 ∉ before.map Prod.fst := by
        simp only [List.map_append, List.map_cons, List.nodup_append, List.mem_cons] at h
        exact fun hm => h.2.2 e.1 hm e.1 (.inl rfl) rfl
      rw [List.append_cons] at h ⊢
      rw [List.foldl_cons, put_of_not_mem hk]
      exact ih h

theorem entries_ofList_of_nodup {es : List (κ × α)} (h : (es.map Prod.fst).Nodup) :
    (ofList es).entries = es := by
  rw [entries_ofList]
  exact foldl_put_of_nodup h

theorem entries_insertAll_of_disjoint {m n : OrderedMap κ α} (h : ∀ k ∈ m.keys, k ∉ n.keys) :
    (m.insertAll n.entries).entries = m.entries ++ n.entries := by
  rw [entries_insertAll]
  refine foldl_put_of_nodup ?_
  rw [List.map_append, List.nodup_append]
  refine ⟨m.nodup, n.nodup, ?_⟩
  rintro k hm j hn rfl
  exact h k hm hn

theorem entries_ofList_eq_nil_iff {es : List (κ × α)} : (ofList es).entries = [] ↔ es = [] := by
  have hfold : ∀ (fs before : List (κ × α)), before ≠ [] →
      fs.foldl (fun entries e => put e.1 e.2 entries) before ≠ [] := by
    intro fs
    induction fs with
    | nil => exact fun _ h => h
    | cons f fs ih => exact fun before _ => ih _ (put_ne_nil f.1 f.2 before)
  rw [entries_ofList]
  cases es with
  | nil => simp
  | cons e es => simpa using hfold es _ (put_ne_nil e.1 e.2 [])

theorem entries_ofList_map {β : Type} (f : α → β) (es : List (κ × α)) :
    (ofList (es.map fun e => (e.1, f e.2))).entries =
      (ofList es).entries.map fun e => (e.1, f e.2) := by
  have hfold : ∀ before : List (κ × α),
      (es.map fun e => (e.1, f e.2)).foldl (fun entries e => put e.1 e.2 entries)
        (before.map fun e => (e.1, f e.2)) =
      (es.foldl (fun entries e => put e.1 e.2 entries) before).map fun e => (e.1, f e.2) := by
    induction es with
    | nil => exact fun _ => rfl
    | cons e es ih =>
        intro before
        rw [List.map_cons, List.foldl_cons, List.foldl_cons, ← ih (put e.1 e.2 before), map_put]
  rw [entries_ofList, entries_ofList]
  exact hfold []

theorem get?_eq_some_iff {m : OrderedMap κ α} {k : κ} {a : α} :
    m.get? k = some a ↔ (k, a) ∈ m.entries := by
  obtain ⟨es, h⟩ := m
  simp only [get?]
  induction es with
  | nil => simp
  | cons e es ih =>
      obtain ⟨j, b⟩ := e
      simp only [List.map_cons, List.nodup_cons] at h
      by_cases hj : j = k
      · subst hj
        have hmem : (j, a) ∉ es := fun hm => h.1 (List.mem_map_of_mem hm)
        simp [hmem, eq_comm]
      · have hne : ¬k = j := fun he => hj he.symm
        simp [hj, hne, ih h.2]

theorem get?_insert (m : OrderedMap κ α) (k : κ) (a : α) (j : κ) :
    (m.insert k a).get? j = if j = k then some a else m.get? j := by
  obtain ⟨es, h⟩ := m
  simp only [get?, insert]
  clear h
  induction es with
  | nil => by_cases hj : j = k <;> simp [put, hj, eq_comm]
  | cons e es ih =>
      obtain ⟨i, b⟩ := e
      by_cases hi : i = k
      · subst hi
        by_cases hj : j = i
        · simp [put, hj]
        · simp [put, hj, Ne.symm hj]
      · by_cases hij : i = j
        · subst hij
          simp [put, hi]
        · simp [put, hi, hij, ih]

/-- The pairs around the one that is overwritten stay where they are. -/
theorem exists_put_of_mem {k : κ} {es : List (κ × α)} (h : k ∈ es.map Prod.fst) :
    ∃ before old after, es = before ++ (k, old) :: after ∧ k ∉ before.map Prod.fst ∧
      ∀ a, put k a es = before ++ (k, a) :: after := by
  induction es with
  | nil => simp at h
  | cons e es ih =>
      obtain ⟨j, b⟩ := e
      by_cases hj : j = k
      · subst hj
        exact ⟨[], b, es, rfl, by simp, fun a => by rw [put, if_pos rfl, List.nil_append]⟩
      · have hk : k ∈ es.map Prod.fst := by simpa [Ne.symm hj] using h
        obtain ⟨before, old, after, rfl, hbefore, hput⟩ := ih hk
        refine ⟨(j, b) :: before, old, after, rfl, ?_, fun a => ?_⟩
        · simpa [Ne.symm hj] using hbefore
        · rw [put, if_neg hj, hput, List.cons_append]

end OrderedMap

end Querysmith
