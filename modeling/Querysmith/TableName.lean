namespace Querysmith

def isNameChar (c : Char) : Bool :=
  c.isAlphanum || c = '_'

/-- Table names stand in the text of a statement, so they are cut at their first other character. -/
def safeName? (name : String) : Option String :=
  match name.toList.takeWhile isNameChar with
  | [] => none
  | cs => some (String.ofList cs)

theorem safeName?_eq_some {name safe : String} (h : safeName? name = some safe) :
    safe.toList = name.toList.takeWhile isNameChar ∧ safe ≠ "" := by
  rw [safeName?] at h
  split at h
  · simp at h
  · rename_i cs hne
    obtain rfl := Option.some.inj h
    refine ⟨String.toList_ofList, ?_⟩
    intro he
    exact hne (by simpa using congrArg String.toList he)

theorem isNameChar_of_safeName? {name safe : String} (h : safeName? name = some safe) {c : Char}
    (hc : c ∈ safe.toList) : isNameChar c = true := by
  rw [(safeName?_eq_some h).1] at hc
  exact (List.all_eq_true.1 (List.all_takeWhile (l := name.toList))) c hc

end Querysmith
