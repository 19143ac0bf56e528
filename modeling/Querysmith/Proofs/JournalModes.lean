import Mathlib.Data.List.Infix
import Querysmith.Database.Journal

namespace Querysmith

theorem occursIn_iff {word cs : List Char} : occursIn word cs = true ↔ word <:+: cs := by
  induction cs with
  | nil => rw [occursIn, List.isEmpty_iff, List.infix_nil]
  | cons c cs ih =>
      rw [occursIn, Bool.or_eq_true, List.isPrefixOf_iff_prefix, ih, List.infix_cons_iff]

theorem contains_iff {word s : String} : contains word s = true ↔ word.toList <:+: s.toList :=
  occursIn_iff

theorem startsWith_iff {word s : String} :
    startsWith word s = true ↔ word.toList <+: s.toList :=
  List.isPrefixOf_iff_prefix

/-- Neither a name of a database that is no file nor a URI. No file has a zero in its name. -/
structure NamesFile (path : String) : Prop where
  ne_empty : path ≠ ""
  ne_memory : path ≠ ":memory:"
  not_uri : ¬"file:".toList <+: path.toList
  zero_not_mem : '\x00' ∉ path.toList

/-- What a URI says of a database in memory. In the name of a file it has no meaning. -/
def IsMarked (path : String) : Prop :=
  "mode=memory".toList <:+: path.toList

theorem isMemoryPath_iff {path : String} :
    isMemoryPath path = true ↔ path = ":memory:" ∨ path = "" ∨
      "file::memory:".toList <+: path.toList ∨ IsMarked path := by
  rw [isMemoryPath, Bool.or_eq_true, Bool.or_eq_true, Bool.or_eq_true, decide_eq_true_iff,
    decide_eq_true_iff, startsWith_iff, contains_iff, or_assoc, or_assoc]
  rfl

namespace NamesFile

variable {path : String}

theorem isMemoryPath_iff_isMarked (h : NamesFile path) :
    isMemoryPath path = true ↔ IsMarked path := by
  have hmemory : ¬"file::memory:".toList <+: path.toList :=
    fun hp => h.not_uri (List.IsPrefix.trans ⟨":memory:".toList, by decide⟩ hp)
  rw [isMemoryPath_iff, or_iff_right h.ne_memory, or_iff_right h.ne_empty,
    or_iff_right hmemory]

theorem ofPath_eq (h : NamesFile path) : Medium.ofPath path = .ok .file := by
  have hplain : startsWith "file:" path = false :=
    Bool.eq_false_iff.2 fun hp => h.not_uri (startsWith_iff.1 hp)
  have hempty : path.toList ≠ [] := fun he => h.ne_empty (String.toList_inj.1 he)
  have hmedium : (Location.ofName path.toList).medium = .file := by
    rw [Location.medium, if_neg, if_neg]
    · exact hempty
    · rintro (he | he | he)
      · cases he
      · have hunix : "unix" = "memdb" := he
        exact absurd hunix (by decide)
      · exact h.ne_memory (String.toList_inj.1 he)
  rw [Medium.ofPath_of_plain h.zero_not_mem hplain, hmedium]

end NamesFile

namespace Medium

def createdJournal : Medium → String
  | memory => "memory"
  | temporary | file => "delete"

theorem journalMode_of_isMemoryPath {path : String} (h : isMemoryPath path = true) (m : Medium) :
    m.journalMode path = m.createdJournal := by
  cases m with
  | memory | temporary => rfl
  | file => exact if_pos h

theorem journalMode_file_eq_wal_iff {path : String} :
    file.journalMode path = "wal" ↔ isMemoryPath path = false := by
  rw [journalMode]
  cases isMemoryPath path <;> decide

/-- Every path that names a file opens that file, and its journal is switched if and only if the
path does not have the mark of a database in memory anywhere; with the mark the file keeps the
journal it was created with. The paths of databases that are no files keep theirs as well, and no
path with a zero is opened. -/
theorem wal_iff_not_marked (path : String) :
    (NamesFile path → ofPath path = .ok .file ∧ (isMemoryPath path = false ↔ ¬IsMarked path) ∧
      (file.journalMode path = "wal" ↔ ¬IsMarked path) ∧
      (IsMarked path → file.journalMode path = file.createdJournal)) ∧
    (path = ":memory:" ∨ path = "" → isMemoryPath path = true ∧
      ∃ m, ofPath path = .ok m ∧ m.journalMode path = m.createdJournal) ∧
    ('\x00' ∈ path.toList → ofPath path = .error (.zeroInPath path)) := by
  refine ⟨fun h => ?_, fun h => ?_, ofPath_of_zero⟩
  · have hmark : isMemoryPath path = false ↔ ¬IsMarked path := by
      rw [Bool.eq_false_iff, Ne, h.isMemoryPath_iff_isMarked]
    refine ⟨h.ofPath_eq, hmark, journalMode_file_eq_wal_iff.trans hmark, fun hm => ?_⟩
    exact journalMode_of_isMemoryPath (h.isMemoryPath_iff_isMarked.2 hm) .file
  · have hmemory : isMemoryPath path = true :=
      isMemoryPath_iff.2 (h.imp_right .inl)
    have hopened : ∃ m, ofPath path = .ok m := by
      rcases h with rfl | rfl
      · exact ⟨_, ofPath_of_plain (by decide) (by decide)⟩
      · exact ⟨_, ofPath_of_plain (by decide) (by decide)⟩
    obtain ⟨m, hm⟩ := hopened
    exact ⟨hmemory, m, hm, journalMode_of_isMemoryPath hmemory m⟩

theorem wal_of_strange_name :
    let path := "a dir/mode=Memory?file::memory:&é#%00.db"
    NamesFile path ∧ ofPath path = .ok .file ∧ file.journalMode path = "wal" ∧
      isMemoryPath ":memory:" = true := by
  intro path
  have h : NamesFile path := ⟨by decide, by decide, by decide, by decide⟩
  obtain ⟨hopened, -, hwal, -⟩ := (wal_iff_not_marked path).1 h
  have hmark : ¬IsMarked path := by unfold IsMarked; decide
  exact ⟨h, hopened, hwal.2 hmark, ((wal_iff_not_marked ":memory:").2.1 (.inl rfl)).1⟩

/-- An ordinary file whose name has the mark in it is not switched. -/
theorem not_wal_of_marked_name :
    let path := "dir/mode=memory.db"
    NamesFile path ∧ ofPath path = .ok .file ∧ isMemoryPath path = true ∧
      file.journalMode path = "delete" := by
  intro path
  have h : NamesFile path := ⟨by decide, by decide, by decide, by decide⟩
  exact ⟨h, h.ofPath_eq, by decide, by decide⟩

end Medium

end Querysmith
