import Querysmith.Database.Execution
import Querysmith.Error

namespace Querysmith

structure Contents where
  table : Table
  saved : Option Table
  lastId : Int

def Contents.empty : Contents := ⟨.empty, none, 0⟩

/-- What a foreign statement does, with the table to go back to afterwards and the number of
characters that it has after its first. -/
structure Consequence where
  effect : Effect
  saved : Option Table
  length : Nat

def isWrite (text : List Char) : Bool :=
  ["insert", "update", "delete"].any fun w => w.toList.isPrefixOf text

/-- What a database adds to the statements that are read and run here. It may answer differently at
each moment, and moments are numbered. -/
structure Engine where
  /-- Why a statement is not run whatever it says: it may be too long or too deep, or memory or
  space for it may be missing. -/
  refuses : Nat → List Char → List Value → Option DatabaseFault
  draws : Nat → Int64
  /-- A statement that is not read here, with the fault found in it. When it fails nothing is
  changed. -/
  foreign : Nat → DatabaseFault → List Char → List Value → Contents →
    Except DatabaseFault Consequence
  /-- Writes neither begin nor end transactions. -/
  keeps_saved : ∀ moment fault text params contents found, isWrite text = true →
    foreign moment fault text params contents = .ok found → found.saved = contents.saved

namespace Engine

def plain : Engine where
  refuses _ _ _ := none
  draws _ := 1
  foreign _ fault _ _ _ := .error fault
  keeps_saved := by
    intro _ _ _ _ _ _ _ h
    cases h

/-- There is always enough of everything. -/
def Ample (e : Engine) : Prop :=
  ∀ moment text params, e.refuses moment text params = none

theorem ample_plain : plain.Ample :=
  fun _ _ _ => rfl

end Engine

end Querysmith
