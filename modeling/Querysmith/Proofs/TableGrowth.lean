import Mathlib.Data.List.Sort
import Querysmith.Database.Table

namespace Querysmith.Table

variable {t u w : Table} {r s : TableRow} {key drawn : Int64} {v : Cell} {vs : List Cell}

theorem eq_of_mem_iff {s t : Table} (h : ∀ r, r ∈ s.rows ↔ r ∈ t.rows) : s = t := by
  have : Std.Irrefl fun r s : TableRow => r.id < s.id := ⟨fun r => Int.lt_irrefl r.id⟩
  have : Std.Asymm fun r s : TableRow => r.id < s.id := ⟨fun _ _ => Int.lt_asymm⟩
  exact Table.ext (s.sorted.eq_of_mem_iff t.sorted h)

theorem has_iff : t.has key = true ↔ ∃ r ∈ t.rows, r.key = key := by
  simp [has]

theorem id_ne_iff : r.id ≠ key.toInt ↔ r.key ≠ key :=
  not_congr Int64.toInt_inj

/-- The number behind the greatest identifier, or 1. -/
def IsNextId (t : Table) (n : Int) : Prop :=
  (∀ r ∈ t.rows, r.id < n) ∧ (t.rows = [] ∧ n = 1 ∨ ∃ r ∈ t.rows, n = r.id + 1)

theorem isNextId_nextId (t : Table) : t.IsNextId t.nextId := by
  refine ⟨fun r hr => lt_nextId hr, ?_⟩
  rw [nextId]
  cases hlast : t.rows.getLast? with
  | none => exact .inl ⟨List.getLast?_eq_none_iff.1 hlast, rfl⟩
  | some r => exact .inr ⟨r, List.mem_of_getLast? hlast, rfl⟩

theorem IsNextId.eq_nextId {n : Int} (h : t.IsNextId n) : n = t.nextId := by
  obtain ⟨hbound, hreached⟩ := h
  obtain ⟨hbound', hreached'⟩ := t.isNextId_nextId
  rcases hreached with ⟨hrows, rfl⟩ | ⟨r, hr, rfl⟩
  · rcases hreached' with ⟨-, hn⟩ | ⟨s, hs, -⟩
    · exact hn.symm
    · rw [hrows] at hs
      cases hs
  · rcases hreached' with ⟨hrows, -⟩ | ⟨s, hs, he⟩
    · rw [hrows] at hr
      cases hr
    · have hrs := hbound' r hr
      have hsr := hbound s hs
      omega

theorem nextId_gt (t : Table) : -0x8000000000000000 < t.nextId := by
  rcases t.isNextId_nextId.2 with ⟨-, hn⟩ | ⟨r, -, hn⟩
  · omega
  · have hlow : -0x8000000000000000 ≤ r.id := Int64.le_toInt r.key
    omega

theorem toInt_ofInt_nextId (h : t.nextId < 0x8000000000000000) :
    (Int64.ofInt t.nextId).toInt = t.nextId :=
  Int64.toInt_ofInt_of_le (Int.le_of_lt t.nextId_gt) h

/-- A row is added under an identifier that no other row has, the next one as long as there is a
next one. -/
structure Adds (t : Table) (key : Int64) (v : Cell) (u : Table) : Prop where
  fresh : ∀ r ∈ t.rows, r.key ≠ key
  next : ∀ n, t.IsNextId n → n < 0x8000000000000000 → key.toInt = n
  mem_iff : ∀ r, r ∈ u.rows ↔ r ∈ t.rows ∨ r = ⟨key, v⟩

theorem mem_place (hfresh : ∀ r ∈ t.rows, r.key ≠ key) :
    r ∈ (t.place key v).rows ↔ r ∈ t.rows ∨ r = ⟨key, v⟩ := by
  simp only [place, below, above, List.mem_append, List.mem_cons, List.mem_filter,
    decide_eq_true_eq]
  constructor
  · rintro (⟨hr, -⟩ | rfl | ⟨hr, -⟩)
    · exact .inl hr
    · exact .inr rfl
    · exact .inl hr
  · rintro (hr | rfl)
    · rcases Int.lt_or_gt_of_ne (id_ne_iff.2 (hfresh r hr)) with hlt | hgt
      · exact .inl ⟨hr, hlt⟩
      · exact .inr (.inr ⟨hr, hgt⟩)
    · exact .inr (.inl rfl)

theorem adds_place (h : t.newKey? drawn = some key) (v : Cell) : t.Adds key v (t.place key v) := by
  have hfresh : ∀ r ∈ t.rows, r.key ≠ key := by
    rw [newKey?] at h
    split at h
    · rename_i hroom
      intro r hr he
      have hlt := lt_nextId hr
      rw [TableRow.id, he, ← Option.some.inj h, toInt_ofInt_nextId hroom] at hlt
      exact Int.lt_irrefl _ hlt
    · split at h
      · cases h
      · rename_i hfree
        obtain rfl := Option.some.inj h
        exact fun r hr he => hfree (has_iff.2 ⟨r, hr, he⟩)
  refine ⟨hfresh, fun n hn hroom => ?_, fun r => mem_place hfresh⟩
  obtain rfl := hn.eq_nextId
  rw [newKey?, if_pos hroom] at h
  rw [← Option.some.inj h, toInt_ofInt_nextId hroom]

theorem Adds.rows_eq (h : t.Adds key v u) (hroom : t.nextId < 0x8000000000000000) :
    u.rows = t.rows ++ [⟨key, v⟩] := by
  have hkey := h.next _ t.isNextId_nextId hroom
  have hsorted : (t.rows ++ [TableRow.mk key v]).Pairwise (·.id < ·.id) := by
    refine List.pairwise_append.2 ⟨t.sorted, by simp, fun r hr s hs => ?_⟩
    obtain rfl := List.mem_singleton.1 hs
    exact (lt_nextId hr).trans_eq hkey.symm
  have htable : u = ⟨t.rows ++ [⟨key, v⟩], hsorted⟩ := eq_of_mem_iff fun r => by
    rw [h.mem_iff, List.mem_append, List.mem_singleton]
  rw [htable]

theorem Adds.nextId_eq (h : t.Adds key v u) (hroom : t.nextId < 0x8000000000000000) :
    u.nextId = t.nextId + 1 := by
  rw [nextId, h.rows_eq hroom, List.getLast?_append]
  change key.toInt + 1 = t.nextId + 1
  rw [h.next _ t.isNextId_nextId hroom]

inductive Grows : Table → List Cell → Table → Prop where
  | nil (t : Table) : Grows t [] t
  | cons {t u w : Table} {key : Int64} {v : Cell} {vs : List Cell} (h : t.Adds key v u)
      (hs : Grows u vs w) : Grows t (v :: vs) w

def numbered : Int → List Cell → List TableRow
  | _, [] => []
  | n, v :: vs => ⟨Int64.ofInt n, v⟩ :: numbered (n + 1) vs

theorem Grows.rows_eq (h : t.Grows vs u) {n : Int} (hn : t.IsNextId n)
    (hroom : n + vs.length ≤ 0x8000000000000000) : u.rows = t.rows ++ numbered n vs := by
  obtain rfl := hn.eq_nextId
  induction h with
  | nil t => exact (List.append_nil t.rows).symm
  | @cons t u w key v vs h hs ih =>
      rw [List.length_cons] at hroom
      have hlt : t.nextId < 0x8000000000000000 := by omega
      have hnext := h.nextId_eq hlt
      have hkey : key = Int64.ofInt t.nextId := by
        rw [← h.next _ t.isNextId_nextId hlt, Int64.ofInt_toInt]
      have hrest := ih u.isNextId_nextId (by omega)
      rw [hrest, h.rows_eq hlt, hnext, numbered, hkey, List.append_assoc]
      rfl

/-- Rows are added, in order and under the numbers behind the greatest identifier as long as there
are such. -/
structure Gets (t : Table) (vs : List Cell) (u : Table) : Prop where
  grows : t.Grows vs u
  counted : ∀ n, t.IsNextId n → n + vs.length ≤ 0x8000000000000000 →
    u.rows = t.rows ++ numbered n vs

theorem Grows.gets (h : t.Grows vs u) : t.Gets vs u :=
  ⟨h, fun _ hn hroom => h.rows_eq hn hroom⟩

end Querysmith.Table
