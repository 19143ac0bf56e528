import Querysmith.Proofs.OrderedWrites
import Querysmith.ResultSet

namespace Querysmith

theorem getElem?_concat_eq_some_iff {α : Type} {xs : List α} {x y : α} {i : Nat} :
    (xs ++ [x])[i]? = some y ↔ xs[i]? = some y ∨ i = xs.length ∧ x = y := by
  rcases Nat.lt_trichotomy i xs.length with hi | rfl | hi
  · rw [List.getElem?_append_left hi]
    exact (or_iff_left fun h => Nat.ne_of_lt hi h.1).symm
  · simp
  · have hout : (xs ++ [x]).length ≤ i := by
      rw [List.length_append, List.length_singleton]
      exact hi
    rw [List.getElem?_eq_none hout, List.getElem?_eq_none (Nat.le_of_lt hi)]
    exact (or_iff_left fun h => Nat.ne_of_gt hi h.1).symm

/-- The last place of a name. -/
structure IsLast {κ : Type} (names : List κ) (name : κ) (i : Nat) : Prop where
  found : names[i]? = some name
  last : ∀ j, names[j]? = some name → j ≤ i

namespace IsLast

variable {κ : Type} {names : List κ} {n name : κ} {i j : Nat}

theorem lt_length (h : IsLast names name i) : i < names.length :=
  (List.getElem?_eq_some_iff.1 h.found).1

theorem unique (hi : IsLast names name i) (hj : IsLast names name j) : i = j :=
  Nat.le_antisymm (hj.last i hi.found) (hi.last j hj.found)

theorem concat_self (names : List κ) (name : κ) : IsLast (names ++ [name]) name names.length where
  found := List.getElem?_concat_length
  last := by
    intro j hj
    have hlt := (List.getElem?_eq_some_iff.1 hj).1
    rw [List.length_append, List.length_singleton] at hlt
    omega

theorem concat_iff (h : n ≠ name) : IsLast (names ++ [n]) name i ↔ IsLast names name i := by
  have hplace : ∀ j : Nat, (names ++ [n])[j]? = some name ↔ names[j]? = some name := fun j =>
    getElem?_concat_eq_some_iff.trans (or_iff_left fun hj => h hj.2)
  constructor
  · rintro ⟨hfound, hlast⟩
    exact ⟨(hplace i).1 hfound, fun j hj => hlast j ((hplace j).2 hj)⟩
  · rintro ⟨hfound, hlast⟩
    exact ⟨(hplace i).2 hfound, fun j hj => hlast j ((hplace j).1 hj)⟩

theorem exists_iff : (∃ i, IsLast names name i) ↔ name ∈ names := by
  constructor
  · rintro ⟨i, hi⟩
    exact List.mem_of_getElem? hi.found
  · intro h
    induction names using List.reverseRecOn with
    | nil => cases h
    | append_singleton names n ih =>
        by_cases hn : n = name
        · subst hn
          exact ⟨names.length, concat_self names n⟩
        · have hmem : name ∈ names := by simpa [Ne.symm hn] using h
          obtain ⟨i, hi⟩ := ih hmem
          exact ⟨i, (concat_iff hn).2 hi⟩

theorem of_nodup (hn : names.Nodup) (h : names[i]? = some name) : IsLast names name i where
  found := h
  last := by
    intro j hj
    have hlt := (List.getElem?_eq_some_iff.1 hj).1
    exact Nat.le_of_eq ((List.getElem?_inj hlt hn).1 (hj.trans h.symm))

theorem take_iff {count : Nat} (h : names.length ≤ count ∨ names.Nodup) :
    IsLast (names.take count) name i ↔ IsLast names name i ∧ i < count := by
  rcases h with hlength | hn
  · rw [List.take_of_length_le hlength]
    constructor
    · exact fun hi => ⟨hi, Nat.lt_of_lt_of_le hi.lt_length hlength⟩
    · exact And.left
  · have htake : (names.take count).Nodup := hn.sublist (List.take_sublist count names)
    constructor
    · intro hi
      have hfound := hi.found
      rw [List.getElem?_take] at hfound
      split at hfound
      · rename_i hlt
        exact ⟨of_nodup hn hfound, hlt⟩
      · cases hfound
    · rintro ⟨hi, hlt⟩
      refine of_nodup htake ?_
      rw [List.getElem?_take, if_pos hlt]
      exact hi.found

end IsLast

namespace OrderedMap

variable {κ α : Type} [DecidableEq κ] {es : List (κ × α)} {k : κ} {a : α}

theorem ofList_concat (es : List (κ × α)) (e : κ × α) :
    ofList (es ++ [e]) = (ofList es).insert e.1 e.2 :=
  List.foldl_concat _ _ _ _

theorem get?_ofList_eq_some_iff :
    (ofList es).get? k = some a ↔ ∃ i, IsLast (es.map Prod.fst) k i ∧ es[i]? = some (k, a) := by
  induction es using List.reverseRecOn with
  | nil =>
      constructor
      · intro h
        cases h
      · rintro ⟨i, -, hi⟩
        cases hi
  | append_singleton es e ih =>
      obtain ⟨j, b⟩ := e
      rw [ofList_concat, get?_insert, List.map_append]
      by_cases hk : k = j
      · subst hk
        have hlast : IsLast (es.map Prod.fst ++ [k]) k es.length := by
          have h := IsLast.concat_self (es.map Prod.fst) k
          rwa [List.length_map] at h
        rw [if_pos rfl]
        constructor
        · intro h
          obtain rfl := Option.some.inj h
          exact ⟨es.length, hlast, List.getElem?_concat_length⟩
        · rintro ⟨i, hi, he⟩
          obtain rfl := hi.unique hlast
          rw [List.getElem?_concat_length] at he
          cases he
          rfl
      · rw [if_neg hk, ih]
        refine exists_congr fun i => ?_
        rw [List.map_singleton, IsLast.concat_iff (Ne.symm hk)]
        refine and_congr_right fun hi => ?_
        have hlt : i < es.length := by
          have h := hi.lt_length
          rwa [List.length_map] at h
        rw [List.getElem?_append_left hlt]

theorem get?_ofList (es : List (κ × α)) (k : κ) : (ofList es).get? k = lastWrite? k es :=
  (get?_insertAll empty es k).trans (Option.or_none)

theorem keys_ofList (es : List (κ × α)) : (ofList es).keys = (es.map Prod.fst).eraseDups := by
  refine (keys_insertAll empty es).trans ?_
  rw [newKeys, List.filter_eq_self.2]
  · rfl
  · intro k _
    simp [keys]

theorem lookup_entries (m : OrderedMap κ α) (k : κ) : m.entries.lookup k = m.get? k := by
  rw [get?]
  induction m.entries with
  | nil => rfl
  | cons e es ih =>
      obtain ⟨j, b⟩ := e
      rw [List.lookup_cons, List.find?_cons, ih]
      by_cases h : j = k
      · simp [h]
      · simp [h, beq_false_of_ne (Ne.symm h)]

end OrderedMap

namespace Header

variable {names : List String} {name : String} {i : Nat}

theorem get?_places_eq_some_iff :
    (ofNames names).places.get? name = some i ↔ IsLast names name i := by
  have hplace : ∀ j : Nat, names.zipIdx[j]? = some (name, i) ↔ names[j]? = some name ∧ j = i := by
    intro j
    rw [List.getElem?_zipIdx, Nat.zero_add]
    simp
  have hget : (ofNames names).places.get? name = some i ↔
      ∃ j, IsLast (names.zipIdx.map Prod.fst) name j ∧ names.zipIdx[j]? = some (name, i) :=
    OrderedMap.get?_ofList_eq_some_iff
  rw [hget, List.zipIdx_map_fst]
  constructor
  · rintro ⟨j, hj, h⟩
    obtain ⟨-, rfl⟩ := (hplace j).1 h
    exact hj
  · exact fun h => ⟨i, h, (hplace i).2 ⟨h.found, rfl⟩⟩

theorem get?_places_eq_none_iff : (ofNames names).places.get? name = none ↔ name ∉ names := by
  rw [← IsLast.exists_iff, Option.eq_none_iff_forall_ne_some, not_exists]
  exact forall_congr' fun i => not_congr get?_places_eq_some_iff

theorem index?_ofNames (names : List String) (name : String) :
    (ofNames names).index? name = (ofNames names).places.get? name := by
  rw [index?]
  cases h : (ofNames names).places.get? name with
  | some i => rfl
  | none =>
      have hname : name ∉ names := get?_places_eq_none_iff.1 h
      refine List.findIdx?_eq_none_iff.2 fun n hn => ?_
      exact decide_eq_false fun he => hname (he ▸ hn)

end Header

theorem map_fst_zip_eq_take {α β : Type} (xs : List α) (ys : List β) :
    (xs.zip ys).map Prod.fst = xs.take ys.length := by
  induction xs generalizing ys with
  | nil => simp
  | cons x xs ih =>
      cases ys with
      | nil => rfl
      | cons y ys => exact congrArg (x :: ·) (ih ys)

namespace Row

variable {names : List String} {values : List Value} {name : String}

theorem index?_ofNames_eq_some_iff {i : Nat} :
    (ofNames names values).index? name = some i ↔ IsLast names name i := by
  change (Header.ofNames names).index? name = some i ↔ _
  rw [Header.index?_ofNames, Header.get?_places_eq_some_iff]

theorem get?_eq_some_iff {r : Row} {v : Value} :
    r.get? name = some v ↔ ∃ i, r.index? name = some i ∧ r.values[i]? = some v := by
  rw [get?]
  cases r.index? name with
  | none => simp
  | some i => simp

theorem map_toJson_get?_eq_some_iff {j : Json} :
    ((ofNames names values).get? name).map Value.toJson = some j ↔
      ∃ i, IsLast names name i ∧ (values.map Value.toJson)[i]? = some j := by
  rw [Option.map_eq_some_iff]
  constructor
  · rintro ⟨v, hv, rfl⟩
    obtain ⟨i, hi, hv⟩ := get?_eq_some_iff.1 hv
    have hv : values[i]? = some v := hv
    exact ⟨i, index?_ofNames_eq_some_iff.1 hi, by rw [List.getElem?_map, hv, Option.map_some]⟩
  · rintro ⟨i, hi, hj⟩
    rw [List.getElem?_map, Option.map_eq_some_iff] at hj
    obtain ⟨v, hv, rfl⟩ := hj
    exact ⟨v, get?_eq_some_iff.2 ⟨i, index?_ofNames_eq_some_iff.2 hi, hv⟩, rfl⟩

theorem get?_fields_eq_some_iff {j : Json} :
    (ofNames names values).fields.get? name = some j ↔
      ∃ i, IsLast (names.take values.length) name i ∧ (values.map Value.toJson)[i]? = some j := by
  have hget : (ofNames names values).fields.get? name = some j ↔
      ∃ i, IsLast ((names.zip (values.map Value.toJson)).map Prod.fst) name i ∧
        (names.zip (values.map Value.toJson))[i]? = some (name, j) :=
    OrderedMap.get?_ofList_eq_some_iff
  rw [hget, map_fst_zip_eq_take, List.length_map]
  refine exists_congr fun i => and_congr_right fun hi => ?_
  rw [List.getElem?_zip_eq_some]
  have hname : names[i]? = some name := by
    have hfound := hi.found
    rw [List.getElem?_take] at hfound
    split at hfound
    · exact hfound
    · cases hfound
  exact and_iff_right hname

theorem keys_fields : (ofNames names values).fields.keys =
    (names.take (min names.length values.length)).eraseDups := by
  have hkeys : (ofNames names values).fields.keys =
      ((names.zip (values.map Value.toJson)).map Prod.fst).eraseDups :=
    OrderedMap.keys_ofList _
  rw [hkeys, map_fst_zip_eq_take, List.length_map, List.take_eq_take_min, Nat.min_comm]

/-- Names that are told apart, or values for all of them, leave no place at which only one of the
row and its document has a value. -/
theorem map_toJson_get?_eq (h : names.length ≤ values.length ∨ names.Nodup) (name : String) :
    ((ofNames names values).get? name).map Value.toJson =
      (ofNames names values).fields.get? name := by
  refine Option.ext fun j => ?_
  rw [map_toJson_get?_eq_some_iff, get?_fields_eq_some_iff]
  refine exists_congr fun i => ?_
  rw [IsLast.take_iff h, and_assoc]
  refine and_congr_right fun _ => (and_iff_right_of_imp fun hj => ?_).symm
  have hlt := (List.getElem?_eq_some_iff.1 hj).1
  rwa [List.length_map] at hlt

/-- A name is looked up at its last place, as by a scan of all names, and is found nowhere else. The
document of the row has the names of its values once each, in the order in which they first come.
Where no value is missing or no name comes twice, the row and its document tell the same under every
name. -/
theorem lookup_agrees_with_document (names : List String) (values : List Value) :
    (∀ name i, (ofNames names values).index? name = some i ↔
      names[i]? = some name ∧ ∀ j : Nat, names[j]? = some name → j ≤ i) ∧
    (∀ name, (ofNames names values).index? name = none ↔ name ∉ names) ∧
    (∀ name, (ofNames names values).index? name =
        (ofNames names values).header.places.get? name ∧
      (ofNames names values).index? name = OrderedMap.lastWrite? name names.zipIdx) ∧
    ∃ fields, (ofNames names values).toJson = .object fields ∧
      fields.map Prod.fst = (names.take (min names.length values.length)).eraseDups ∧
      (names.length ≤ values.length ∨ names.Nodup → ∀ name,
        ((ofNames names values).get? name).map Value.toJson = fields.lookup name) := by
  refine ⟨?_, ?_, ?_, (ofNames names values).fields.entries, rfl, keys_fields, ?_⟩
  · intro name i
    rw [index?_ofNames_eq_some_iff]
    exact ⟨fun h => ⟨h.found, h.last⟩, fun h => ⟨h.1, h.2⟩⟩
  · intro name
    change (Header.ofNames names).index? name = none ↔ _
    rw [Header.index?_ofNames, Header.get?_places_eq_none_iff]
  · intro name
    have hindex := Header.index?_ofNames names name
    exact ⟨hindex, hindex.trans (OrderedMap.get?_ofList _ _)⟩
  · intro h name
    rw [OrderedMap.lookup_entries]
    exact map_toJson_get?_eq h name

/-- The value beyond the names has none, and the first value of the repeated name is not seen. -/
theorem lookup_agrees_of_repeated_name :
    let names := ["id", "v", "id"]
    let values : List Value := [.int 1, .text "a", .int 2, .bool true]
    names.length ≤ values.length ∧ ∃ fields,
      (ofNames names values).toJson = .object fields ∧ fields.map Prod.fst = ["id", "v"] ∧
        (ofNames names values).get? "id" = some (.int 2) ∧
        fields.lookup "id" = some (.number (.integer 2 (by decide) (by decide))) ∧
        ((ofNames names values).get? "no").map Value.toJson = fields.lookup "no" := by
  intro names values
  have h : names.length ≤ values.length := by decide
  obtain ⟨-, -, -, fields, hfields, hkeys, hget⟩ := lookup_agrees_with_document names values
  refine ⟨h, fields, hfields, hkeys, by decide, ?_, hget (.inl h) "no"⟩
  rw [← hget (.inl h) "id"]
  decide

example : (ofNames ["a", "a"] [.int 1]).get? "a" = none ∧
    (ofNames ["a", "a"] [.int 1]).fields.get? "a" ≠ none := by decide

end Row

end Querysmith
