import Querysmith.Proofs.SelectionDocument
import Querysmith.Proofs.WordDoubles

namespace Querysmith

/-- The number alone, not one inside an array or an object. -/
def Json.IsBeyondWord : Json → Prop
  | .number (.integer n _ _) => 0x8000000000000000 ≤ n
  | _ => False

namespace Value

/-- What a value becomes when it is written as a document and read. -/
def reread (v : Value) : Value :=
  ofJson v.toJson

theorem toJson_ofNumber {n : Json.Number} (h : ¬ (Json.number n).IsBeyondWord) :
    (ofNumber n).toJson = .number n := by
  cases n with
  | double x hx =>
      change Json.ofFloat x = _
      rw [Json.ofFloat, dif_pos hx]
  | integer n lower upper =>
      have hn : n < 0x8000000000000000 := Int.not_le.1 h
      have hword : (Int64.ofInt n).toInt = n := Int64.toInt_ofInt_of_le lower hn
      rw [ofNumber, if_pos hn]
      change Json.number (.integer (Int64.ofInt n).toInt _ _) = _
      simp only [hword]

theorem toJson_ofNumber_ne {n : Json.Number} (h : (Json.number n).IsBeyondWord) :
    (ofNumber n).toJson ≠ .number n := by
  cases n with
  | double x hx => exact h.elim
  | integer n lower upper =>
      have hn : ¬ n < 0x8000000000000000 := Int.not_lt.2 h
      rw [ofNumber, if_neg hn]
      change Json.ofFloat _ ≠ _
      unfold Json.ofFloat
      split <;> simp

theorem toJson_ofJson_iff {j : Json} : (ofJson j).toJson = j ↔ ¬ j.IsBeyondWord := by
  cases j with
  | number n => exact ⟨fun h hn => toJson_ofNumber_ne hn h, toJson_ofNumber⟩
  | null | bool | string | array | object => exact iff_of_true rfl id

theorem isPlain_ofJson (j : Json) : (ofJson j).IsPlain := by
  cases j with
  | null | bool | string => trivial
  | array items => exact .inl ⟨items, rfl⟩
  | object fields => exact .inr ⟨fields, rfl⟩
  | number n =>
      cases n with
      | double x hx => exact hx
      | integer n lower upper =>
          change (ofNumber (.integer n lower upper)).IsPlain
          unfold ofNumber
          dsimp only
          split
          · trivial
          · exact Word.isFinite_toFloat _

theorem reread_eq_self_iff {v : Value} : v.reread = v ↔ v.IsPlain := by
  constructor
  · intro h
    rw [← h]
    exact isPlain_ofJson v.toJson
  · exact ofJson_toJson

theorem reread_reread (v : Value) : v.reread.reread = v.reread :=
  reread_eq_self_iff.2 (isPlain_ofJson v.toJson)

/-- Documents and values tell the same but for integers beyond a signed word, which turn into
doubles, and for the values that no document has: times, bytes, doubles that are not finite and
scalars kept as documents. All of them are settled after the first time. -/
theorem documents_and_values_settle :
    (∀ j : Json, (ofJson j).toJson = j ↔ ¬ j.IsBeyondWord) ∧
      (∀ v : Value, v.reread = v ↔ v.IsPlain) ∧
      ∀ v : Value, v.reread.reread = v.reread :=
  ⟨fun _ => toJson_ofJson_iff, fun _ => reread_eq_self_iff, reread_reread⟩

example : (json (.number (.integer 0xFFFFFFFFFFFFFFFF (by decide) (by decide)))).reread =
    float (.ofBits 0x43F0000000000000) := by decide

end Value

end Querysmith
