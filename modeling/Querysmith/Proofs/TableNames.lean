import Querysmith.Proofs.FaithfulWrites

namespace Querysmith

/-- ASCII letters and digits, by their places among all characters, and the underscore. -/
def IsPlainChar (c : Char) : Prop :=
  'A' ≤ c ∧ c ≤ 'Z' ∨ 'a' ≤ c ∧ c ≤ 'z' ∨ '0' ≤ c ∧ c ≤ '9' ∨ c = '_'

/-- The longest run of plain characters at the start of a name. -/
structure LeadingRun (name run : String) : Prop where
  starts : run.toList <+: name.toList
  plain : ∀ c ∈ run.toList, IsPlainChar c
  longest : ∀ other : String, other.toList <+: name.toList →
    (∀ c ∈ other.toList, IsPlainChar c) → other.length ≤ run.length

namespace LeadingRun

variable {name run other : String}

theorem unique (h : LeadingRun name run) (h' : LeadingRun name other) : run = other := by
  have hle : run.length ≤ other.length := h'.longest run h.starts h.plain
  have hge : other.length ≤ run.length := h.longest other h'.starts h'.plain
  rw [← String.length_toList, ← String.length_toList] at hle hge
  have hstarts : run.toList <+: other.toList :=
    List.prefix_of_prefix_length_le h.starts h'.starts hle
  exact String.toList_inj.1 (hstarts.eq_of_length (Nat.le_antisymm hle hge))

end LeadingRun

namespace Request

/-- The table that a request names; a statement text names none by itself. -/
def table? : Request → Option String
  | select (.sql _) => none
  | select (.selection s) => some s.table
  | insert table _ | update table _ _ | delete table _ => some table

variable {r : Request} {table : String}

theorem compile_eq_error_iff (h : r.table? = some table) {mode : ListMode} {e : Error} :
    r.compile mode = .error e ↔
      r.operation ≠ .insert ∧ safeName? table = none ∧ e = .missingTable r.operation.name ∨
        r.IsIdle ∧ safeName? table ≠ none ∧ e = .noFieldsToUpdate := by
  cases r with
  | select query =>
      cases query with
      | sql text => cases h
      | selection s =>
          obtain rfl := Option.some.inj h
          simp only [compile, Query.compile, Selection.compile_eq_error_iff, operation, IsIdle]
          simp
  | insert name record => simp [compile, operation, IsIdle]
  | update name changes filter =>
      obtain rfl := Option.some.inj h
      simp only [compile, Statement.update_eq_error_iff, operation, IsIdle]
      constructor
      · rintro (⟨ht, he⟩ | ⟨ht, hc, he⟩)
        · exact .inl ⟨by rintro ⟨⟩, ht, he⟩
        · exact .inr ⟨hc, ht, he⟩
      · rintro (⟨-, ht, he⟩ | ⟨hc, ht, he⟩)
        · exact .inl ⟨ht, he⟩
        · exact .inr ⟨ht, hc, he⟩
  | delete name filter =>
      obtain rfl := Option.some.inj h
      simp only [compile, Statement.delete_eq_error_iff, operation, IsIdle]
      simp

end Request

end Querysmith
