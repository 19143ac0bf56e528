import Querysmith.Cell.Basic

namespace Querysmith

structure TableRow where
  key : Int64
  value : Cell
deriving DecidableEq

def TableRow.id (r : TableRow) : Int :=
  r.key.toInt

@[simp]
theorem TableRow.id_mk (key : Int64) (v : Cell) : (TableRow.mk key v).id = key.toInt := rfl

/-- Rows in the order of their identifiers, which are distinct. -/
structure Table where
  rows : List TableRow
  sorted : rows.Pairwise (·.id < ·.id) := by simp

namespace Table

@[ext]
theorem ext {s t : Table} (h : s.rows = t.rows) : s = t := by
  cases s
  cases t
  cases h
  rfl

theorem nodup_ids (t : Table) : (t.rows.map TableRow.id).Nodup :=
  List.pairwise_map.2 (t.sorted.imp Int.ne_of_lt)

def empty : Table := ⟨[], by simp⟩

/-- The number behind the greatest identifier, which may be too great for one itself. The first
identifier is 1. -/
def nextId (t : Table) : Int :=
  match t.rows.getLast? with
  | none => 1
  | some r => r.id + 1

theorem lt_nextId {t : Table} {r : TableRow} (h : r ∈ t.rows) : r.id < t.nextId := by
  have hs := t.sorted
  unfold nextId
  rcases List.eq_nil_or_concat t.rows with he | ⟨init, last, he⟩
  · simp [he] at h
  · rw [List.concat_eq_append] at he
    rw [he] at h hs ⊢
    simp only [List.getLast?_append, List.getLast?_singleton, Option.some_or]
    rcases List.mem_append.1 h with hm | hm
    · have := (List.pairwise_append.1 hs).2.2 r hm last (by simp)
      omega
    · obtain rfl := List.mem_singleton.1 hm
      omega

def below (t : Table) (key : Int64) : List TableRow :=
  t.rows.filter fun r => r.id < key.toInt

def above (t : Table) (key : Int64) : List TableRow :=
  t.rows.filter fun r => key.toInt < r.id

def has (t : Table) (key : Int64) : Bool :=
  t.rows.any fun r => r.key = key

def place (t : Table) (key : Int64) (v : Cell) : Table where
  rows := t.below key ++ ⟨key, v⟩ :: t.above key
  sorted := by
    refine List.pairwise_append.2 ⟨t.sorted.filter _, ?_, ?_⟩
    · refine List.pairwise_cons.2 ⟨?_, t.sorted.filter _⟩
      intro r hr
      simpa [above] using (List.mem_filter.1 hr).2
    · intro r hr s hs
      have hr : r.id < key.toInt := by simpa [below] using (List.mem_filter.1 hr).2
      rcases List.mem_cons.1 hs with rfl | hs
      · exact hr
      · have hs : key.toInt < s.id := by simpa [above] using (List.mem_filter.1 hs).2
        omega

/-- The identifier of a new row is the number behind the greatest one. When there is none left it is
the one that was drawn, unless a row has that. -/
def newKey? (t : Table) (drawn : Int64) : Option Int64 :=
  if t.nextId < 0x8000000000000000 then some (Int64.ofInt t.nextId)
  else if t.has drawn then none
  else some drawn

def append (t : Table) (v : Cell) : Table :=
  match t.newKey? 1 with
  | some key => t.place key v
  | none => t

def delete (t : Table) (p : TableRow → Bool) : Table where
  rows := t.rows.filter fun r => !p r
  sorted := t.sorted.filter _

end Table

end Querysmith
