import Querysmith.Proofs.Statements
import Querysmith.Proofs.TableGrowth
import Querysmith.Store

namespace Querysmith

open Sql

namespace Text

theorem trim_append {a b : List Char} (h : Unpadded a) (hne : a ≠ []) :
    trim (a ++ b) = a ++ (b.reverse.dropWhile isWhiteSpace).reverse := by
  have hfirst : ∀ c ∈ (a ++ b).head?, isWhiteSpace c = false := by
    obtain ⟨c, cs, rfl⟩ := List.exists_cons_of_ne_nil hne
    exact h.1
  have hlast : a.reverse.dropWhile isWhiteSpace = a.reverse := dropWhile_of_head? (by
    rw [List.head?_reverse]
    exact h.2)
  rw [trim, dropWhile_of_head? hfirst, List.reverse_append, List.dropWhile_append]
  split
  · rename_i hb
    rw [List.isEmpty_iff.1 hb, hlast]
    simp
  · simp

end Text

theorem isWrite_trim {w : String} (hw : w ∈ ["insert", "update", "delete"]) (rest : List Char) :
    isWrite (Text.trim (w.toList ++ rest)) = true := by
  have hbounds : Text.Unpadded w.toList ∧ w.toList ≠ [] := by
    simp only [List.mem_cons, List.not_mem_nil, or_false] at hw
    obtain rfl | rfl | rfl := hw
    · exact ⟨.of_ends (c := 'i') (d := 't') (by decide) (by decide) (by decide) (by decide),
        by decide⟩
    · exact ⟨.of_ends (c := 'u') (d := 'e') (by decide) (by decide) (by decide) (by decide),
        by decide⟩
    · exact ⟨.of_ends (c := 'd') (d := 'e') (by decide) (by decide) (by decide) (by decide),
        by decide⟩
  rw [Text.trim_append hbounds.1 hbounds.2, isWrite, List.any_eq_true]
  exact ⟨w, hw, by simp⟩

namespace Store

theorem toList_insertionText (column : String) (i : Int64) :
    (insertionText column i).toList = (insertionOf column (.written i)).toList ++ [';'] := by
  have hend : ");".toList = ")".toList ++ [';'] := by decide
  change ("insert into t (" ++ column ++ ") values (" ++ toString i.toInt ++ ");").toList =
    ("insert into t (" ++ column ++ ") values (" ++ toString i.toInt ++ ")").toList ++ [';']
  simp only [String.toList_append, hend, List.append_assoc]

theorem toList_insertionsText_cons (i : Int64) (ids : List Int64) :
    (insertionsText (i :: ids)).toList =
      (insertionOf "v" (.written i)).toList ++ ';' :: (insertionsText ids).toList := by
  have hjoin : insertionsText (i :: ids) = insertionText "v" i ++ insertionsText ids :=
    String.join_cons
  rw [hjoin, String.toList_append, toList_insertionText, List.append_assoc]
  rfl

theorem length_le_length_insertionsText (ids : List Int64) :
    ids.length ≤ (insertionsText ids).toList.length := by
  induction ids with
  | nil => exact Nat.zero_le _
  | cons i ids ih =>
      rw [toList_insertionsText_cons, List.length_append, List.length_cons, List.length_cons]
      omega

end Store

namespace Database

variable {d e : Database} {text rest : List Char} {v : Cell} {vs : List Cell} {key : Int64}

/-- One row was added and nothing else was done. -/
structure Inserts (d : Database) (key : Int64) (v : Cell) (e : Database) : Prop where
  adds : d.table.Adds key v e.table
  saved : e.saved = d.saved
  engine : e.engine = d.engine
  lastId : e.lastId = key.toInt

theorem insertion_value (t : Table) (drawn : Int64) (v : Cell) :
    Plan.insertion t drawn [(.value, v)] = (t.newKey? drawn).elim (.error .full) fun key =>
      .ok ⟨t.place key v, 1, some key.toInt, .empty⟩ := by
  cases hkey : t.newKey? drawn <;>
    simp [Plan.insertion, Plan.firstFor?, Plan.lastFor?, hkey]

theorem run_insert (d : Database) (a : Expr Empty) (params : List Cell) :
    (∃ effect key after, d.run (.insert [.value] [a]) params = (.ok effect, after) ∧
      effect.changed = 1 ∧ effect.rows = .empty ∧
      d.Inserts key (a.eval (Plan.constantEnvironment (params.map Cell.kept))) after) ∨
    0x8000000000000000 ≤ d.table.nextId ∧
      d.run (.insert [.value] [a]) params = (.error .full, d.later) := by
  have hrun := insertion_value d.table (d.engine.draws d.moment)
    (a.eval (Plan.constantEnvironment (params.map Cell.kept)))
  rw [run, Plan.run, List.map_singleton, List.zip_cons_cons, List.zip_nil_left, hrun]
  cases hkey : d.table.newKey? (d.engine.draws d.moment) with
  | none =>
      refine .inr ⟨?_, rfl⟩
      rw [Table.newKey?] at hkey
      split at hkey
      · cases hkey
      · rename_i hroom
        exact Int.not_lt.1 hroom
  | some key =>
      refine .inl ⟨_, key, _, rfl, rfl, rfl, ?_⟩
      exact ⟨Table.adds_place hkey _, rfl, rfl, rfl⟩

theorem run_of_error {plan : Plan} {params : List Cell} {fault : DatabaseFault}
    (h : (d.run plan params).1 = .error fault) : d.run plan params = (.error fault, d.later) := by
  rw [run] at h ⊢
  cases hplan : plan.run (params.map Cell.kept) d.table (d.engine.draws d.moment) with
  | error found =>
      rw [hplan] at h
      obtain rfl := Except.error.inj h
      rfl
  | ok e =>
      rw [hplan] at h
      cases h

theorem pass_of_error {found fault : DatabaseFault} {params : List Value}
    (h : (d.pass found text params).1 = .error fault) :
    d.pass found text params = (.error fault, d.later) := by
  rw [pass] at h ⊢
  split
  · rename_i hforeign
    rw [if_pos hforeign] at h
    cases hengine : d.engine.foreign d.moment found text params d.toContents with
    | error other =>
        rw [hengine] at h
        obtain rfl := Except.error.inj h
        rfl
    | ok consequence =>
        rw [hengine] at h
        cases h
  · rename_i hforeign
    rw [if_neg hforeign] at h
    obtain rfl := Except.error.inj h
    rfl

theorem map_of_error {α β : Type} {r : Except DatabaseFault α × Database} {f : α → β}
    {fault : DatabaseFault} (hr : r.1 = .error fault → r = (.error fault, d.later))
    (h : r.1.map f = .error fault) : (r.1.map f, r.2) = (.error fault, d.later) := by
  obtain ⟨_ | a, after⟩ := r
  · obtain rfl := Except.error.inj h
    rw [hr rfl]
    rfl
  · cases h

theorem runFirst_of_error {fault : DatabaseFault} (h : (runFirst text d).1 = .error fault) :
    runFirst text d = (.error fault, d.later) := by
  rw [runFirst] at h ⊢
  split
  · rename_i hempty
    rw [if_pos hempty] at h
    cases h
  · rename_i hempty
    rw [if_neg hempty] at h
    cases hrefused : d.engine.refuses d.moment text [] with
    | some refused =>
        simp only [hrefused] at h ⊢
        rw [h]
    | none =>
        simp only [hrefused] at h ⊢
        cases hnext : Prepared.next text with
        | error refused =>
            simp only [hnext] at h ⊢
            exact map_of_error pass_of_error h
        | ok found =>
            obtain ⟨_ | p, rest⟩ := found
            · simp only [hnext] at h
              cases h
            · simp only [hnext] at h ⊢
              exact map_of_error run_of_error h

theorem runFirst_insertion (d : Database) (i : Int64) (more : List Char) :
    (∃ key e, runFirst ((insertionOf "v" (.written i)).toList ++ ';' :: more) d =
      (.ok (some more), e) ∧ d.Inserts key (.integer i) e) ∨
    ∃ fault, (runFirst ((insertionOf "v" (.written i)).toList ++ ';' :: more) d).1 = .error fault ∧
      (d.engine.Ample → fault = .full ∧ 0x8000000000000000 ≤ d.table.nextId) := by
  have hempty : ((insertionOf "v" (.written i)).toList ++ ';' :: more).isEmpty = false := by
    simp
  have hnext := Prepared.next_insertion (.written i (.nil 0)) more
  rw [runFirst, hempty, if_neg Bool.false_ne_true]
  cases hrefused : d.engine.refuses d.moment
      ((insertionOf "v" (.written i)).toList ++ ';' :: more) [] with
  | some refused =>
      refine .inr ⟨refused, rfl, fun hample => ?_⟩
      rw [hample] at hrefused
      cases hrefused
  | none =>
      rcases d.run_insert (Argument.expr (.written i)) [] with
        ⟨effect, key, after, hrun, -, -, hinserts⟩ | ⟨hroom, hrun⟩
      · exact .inl ⟨key, after, by simp only [hnext, hrun]; rfl, hinserts⟩
      · exact .inr ⟨.full, by simp only [hnext, hrun]; rfl, fun _ => ⟨rfl, hroom⟩⟩

/-- The statements in front of what is left of a text succeeded one after the other. -/
inductive Runs : List Char → Database → List Char → Database → Prop where
  | refl (text : List Char) (d : Database) : Runs text d text d
  | step {text rest left : List Char} {d e f : Database}
      (h : runFirst text d = (.ok (some rest), e)) (hs : Runs rest e left f) :
      Runs text d left f

/-- Rows were added and nothing else was done. -/
structure Gains (d : Database) (vs : List Cell) (e : Database) : Prop where
  grows : d.table.Grows vs e.table
  saved : e.saved = d.saved
  engine : e.engine = d.engine

theorem Inserts.gains {f : Database} (h : d.Inserts key v e) (hs : e.Gains vs f) :
    d.Gains (v :: vs) f :=
  ⟨.cons h.adds hs.grows, hs.saved.trans h.saved, hs.engine.trans h.engine⟩

def left (ids : List Int64) (last : List Char) (k : Nat) : List Char :=
  (Store.insertionsText (ids.drop k)).toList ++ last

theorem left_cons_zero (i : Int64) (ids : List Int64) (last : List Char) :
    left (i :: ids) last 0 = (insertionOf "v" (.written i)).toList ++ ';' :: left ids last 0 := by
  rw [left, List.drop_zero, Store.toList_insertionsText_cons, List.append_assoc]
  rfl

theorem left_length (ids : List Int64) (last : List Char) : left ids last ids.length = last := by
  rw [left, List.drop_length]
  rfl

theorem runText_insertions (n : Nat) (ids : List Int64) (last : List Char) (d : Database) :
    ∃ k e, k ≤ ids.length ∧ Runs (left ids last 0) d (left ids last k) e ∧
      d.Gains ((ids.take k).map Cell.integer) e ∧
      (k = ids.length ∧ runText (n + ids.length) (left ids last 0) d = runText n last e ∨
        ∃ fault, (runFirst (left ids last k) e).1 = .error fault ∧
          runText (n + ids.length) (left ids last 0) d = (.error fault, e.later) ∧
          (d.engine.Ample →
            fault = .full ∧ 0x8000000000000000 < d.table.nextId + ids.length)) := by
  induction ids generalizing d with
  | nil => exact ⟨0, d, Nat.le_refl 0, .refl _ d, ⟨.nil _, rfl, rfl⟩, .inl ⟨rfl, rfl⟩⟩
  | cons i ids ih =>
      rcases d.runFirst_insertion i (left ids last 0) with
        ⟨key, e, hfirst, hinserts⟩ | ⟨fault, hfault, hroom⟩
      · obtain ⟨k, f, hk, hruns, hgains, hend⟩ := ih e
        rw [← left_cons_zero] at hfirst
        have hrun : runText (n + (i :: ids).length) (left (i :: ids) last 0) d =
            runText (n + ids.length) (left ids last 0) e := by
          rw [List.length_cons, ← Nat.add_assoc, runText, hfirst]
        refine ⟨k + 1, f, Nat.succ_le_succ hk, .step hfirst hruns, hinserts.gains hgains, ?_⟩
        rw [hrun]
        rcases hend with ⟨rfl, hend⟩ | ⟨fault, hfault, hend, hroom⟩
        · exact .inl ⟨rfl, hend⟩
        · refine .inr ⟨fault, hfault, hend, fun hample => ?_⟩
          obtain ⟨hfull, hlate⟩ := hroom (hinserts.engine ▸ hample)
          refine ⟨hfull, ?_⟩
          rw [List.length_cons]
          by_cases hnext : d.table.nextId < 0x8000000000000000
          · rw [hinserts.adds.nextId_eq hnext] at hlate
            omega
          · omega
      · rw [← left_cons_zero] at hfault
        refine ⟨0, d, Nat.zero_le _, .refl _ d, ⟨.nil _, rfl, rfl⟩, .inr ⟨fault, hfault, ?_, ?_⟩⟩
        · rw [List.length_cons, ← Nat.add_assoc, runText, runFirst_of_error hfault]
        · intro hample
          obtain ⟨hfull, hlate⟩ := hroom hample
          refine ⟨hfull, ?_⟩
          rw [List.length_cons]
          omega

/-- The database in which a script runs: a transaction is begun unless one is open. -/
def opened (d : Database) : Database :=
  match d.saved with
  | none => d.begin.2
  | some _ => d

/-- Behind some inserts there is nothing more, or a statement that fails when its turn comes. -/
def IsBatch (d : Database) (ids : List Int64) (last : String) : Prop :=
  last = "" ∨ ∀ e, Runs (left ids last.toList 0) d.opened last.toList e →
    ∃ fault, (runFirst last.toList e).1 = .error fault

theorem runText_empty (n : Nat) (d : Database) : runText (n + 1) "".toList d = (.ok (), d) := rfl

theorem table_opened (d : Database) : d.opened.table = d.table := by
  rw [opened, begin]
  cases d.saved <;> rfl

theorem engine_opened (d : Database) : d.opened.engine = d.engine := by
  rw [opened, begin]
  cases d.saved <;> rfl

theorem runText_batch {ids : List Int64} {last : String} (h : d.IsBatch ids last) :
    ∃ k e, k ≤ ids.length ∧ Runs (left ids last.toList 0) d.opened (left ids last.toList k) e ∧
      d.opened.Gains ((ids.take k).map Cell.integer) e ∧
      (k = ids.length ∧ last = "" ∧
          runText ((Store.insertionsText ids ++ last).length + 1)
            (Store.insertionsText ids ++ last).toList d.opened = (.ok (), e) ∨
        ∃ fault, (runFirst (left ids last.toList k) e).1 = .error fault ∧
          runText ((Store.insertionsText ids ++ last).length + 1)
            (Store.insertionsText ids ++ last).toList d.opened = (.error fault, e.later) ∧
          (d.engine.Ample → k = ids.length ∧ last ≠ "" ∨
            fault = .full ∧ 0x8000000000000000 < d.table.nextId + ids.length)) := by
  have hlength := Store.length_le_length_insertionsText ids
  obtain ⟨n, hn⟩ : ∃ n, (Store.insertionsText ids ++ last).length + 1 = n + 1 + ids.length := by
    refine ⟨(Store.insertionsText ids ++ last).length - ids.length, ?_⟩
    rw [← String.length_toList, String.toList_append, List.length_append]
    omega
  have htext : (Store.insertionsText ids ++ last).toList = left ids last.toList 0 :=
    String.toList_append
  obtain ⟨k, e, hk, hruns, hgains, hend⟩ :=
    runText_insertions (n + 1) ids last.toList d.opened
  rw [engine_opened, table_opened] at hend
  rw [hn, htext]
  refine ⟨k, e, hk, hruns, hgains, ?_⟩
  rcases hend with ⟨rfl, hend⟩ | ⟨fault, hfault, hend, hroom⟩
  · rw [left_length] at hruns
    rw [hend]
    by_cases hlast : last = ""
    · subst hlast
      exact .inl ⟨rfl, rfl, runText_empty n e⟩
    · obtain ⟨fault, hfault⟩ := h.resolve_left hlast e hruns
      refine .inr ⟨fault, ?_, ?_, fun _ => .inl ⟨rfl, hlast⟩⟩
      · rwa [left_length]
      · rw [runText, runFirst_of_error hfault]
  · exact .inr ⟨fault, hfault, hend, fun hample => .inr (hroom hample)⟩

theorem opened_of_open {t : Table} (h : d.saved = some t) : d.opened = d := by
  rw [opened, h]

theorem opened_of_closed (h : d.saved = none) :
    d.opened = { d with saved := some d.table } := by
  rw [opened, h, begin, h]

/-- The same for a script, which ends what it began: a failing one without a transaction around it
leaves the table as it was. -/
theorem script_batch {ids : List Int64} {last : String} (h : d.IsBatch ids last) :
    ∃ k e, k ≤ ids.length ∧ Runs (left ids last.toList 0) d.opened (left ids last.toList k) e ∧
      d.table.Grows ((ids.take k).map Cell.integer) e.table ∧ e.engine = d.engine ∧
      ((k = ids.length ∧ last = "" ∧ ∃ after, d.script (Store.insertionsText ids ++ last) =
          (.ok (), after) ∧ after.table = e.table ∧ after.saved = d.saved) ∨
        ∃ fault after, (runFirst (left ids last.toList k) e).1 = .error fault ∧
          d.script (Store.insertionsText ids ++ last) = (.error (.database fault), after) ∧
          after.table = (if d.saved = none then d.table else e.table) ∧ after.saved = d.saved ∧
          (d.engine.Ample → k = ids.length ∧ last ≠ "" ∨
            fault = .full ∧ 0x8000000000000000 < d.table.nextId + ids.length)) := by
  obtain ⟨k, e, hk, hruns, hgains, hend⟩ := runText_batch h
  have hgrows := hgains.grows
  have hsaved := hgains.saved
  rw [table_opened] at hgrows
  refine ⟨k, e, hk, hruns, hgrows, hgains.engine.trans d.engine_opened, ?_⟩
  cases hd : d.saved with
  | some t =>
      rw [opened_of_open hd] at hend hsaved
      rw [hd] at hsaved
      rcases hend with ⟨rfl, rfl, hend⟩ | ⟨fault, hfault, hend, hroom⟩
      · exact .inl ⟨rfl, rfl, e, by simp only [script, inTransaction, hd, hend]; rfl, rfl, hsaved⟩
      · exact .inr ⟨fault, e.later, hfault, by simp only [script, inTransaction, hd, hend]; rfl,
          rfl, hsaved, hroom⟩
  | none =>
      have hbegin : d.begin.2 = d.opened := by rw [opened, hd]
      rw [opened_of_closed hd] at hsaved
      rcases hend with ⟨rfl, rfl, hend⟩ | ⟨fault, hfault, hend, hroom⟩
      · exact .inl ⟨rfl, rfl, { e with saved := none },
          by simp only [script, inTransaction, hd, hbegin, hend, commit, hsaved]; rfl, rfl, rfl⟩
      · have hlater : e.later.saved = some d.table := hsaved
        exact .inr ⟨fault, { e.later with table := d.table, saved := none }, hfault,
          by simp only [script, inTransaction, hd, hbegin, hend, rollback, hlater]; rfl,
          (if_pos rfl).symm, rfl, hroom⟩

theorem saved_script {ids : List Int64} {last : String} (h : d.IsBatch ids last) :
    (d.script (Store.insertionsText ids ++ last)).2.saved = d.saved := by
  obtain ⟨k, e, -, -, -, -, ⟨-, -, after, hscript, -, hsaved⟩ |
    ⟨fault, after, -, hscript, -, hsaved, -⟩⟩ := script_batch h
  · rw [hscript, hsaved]
  · rw [hscript, hsaved]

theorem saved_run (d : Database) (plan : Plan) (params : List Cell) :
    (d.run plan params).2.saved = d.saved := by
  rw [run]
  split <;> rfl

theorem saved_pass (d : Database) (fault : DatabaseFault) {text : List Char}
    (h : isWrite text = true) (params : List Value) :
    (d.pass fault text params).2.saved = d.saved := by
  rw [pass]
  split
  · split
    · rfl
    · rename_i found hfound
      exact d.engine.keeps_saved _ _ _ _ _ _ h hfound
  · rfl

theorem saved_perform (d : Database) {text : List Char} (h : isWrite text = true)
    (params : List Value) : (d.perform text params).2.saved = d.saved := by
  rw [perform]
  split
  · rfl
  · split
    · exact d.saved_pass _ h params
    · split
      · rfl
      · rfl
      · exact d.saved_run _ _

theorem saved_write (d : Database) {s : Statement} {w : String}
    (hw : w ∈ ["insert", "update", "delete"]) {rest : List Char}
    (hs : s.sql.toList = w.toList ++ rest) : (d.write s).2.saved = d.saved := by
  have hwrite := isWrite_trim hw rest
  rw [← hs] at hwrite
  exact d.saved_perform hwrite s.params

end Database

/-- What can be asked for within a transaction: requests that write, whatever they hold, and batches
of inserts with something behind them. -/
inductive Work where
  | insert (table : String) (record : Record)
  | update (table : String) (changes : Record) (filter : Option Filter)
  | delete (table : String) (filter : Option Filter)
  | batch (ids : List Int64) (last : String)

namespace Work

variable {c : Client Database} {t : Table}

def after (c : Client Database) : Work → Client Database
  | insert table record => (c.insert Database.executor table record).client
  | update table changes filter => (c.update Database.executor table changes filter).client
  | delete table filter => (c.delete Database.executor table filter).client
  | batch ids last => (c.batch Database.executor (Store.insertionsText ids ++ last)).client

def afterAll (c : Client Database) (works : List Work) : Client Database :=
  works.foldl after c

def IsProper (c : Client Database) : Work → Prop
  | batch ids last => c.state.IsBatch ids last
  | _ => True

def AreProper : Client Database → List Work → Prop
  | _, [] => True
  | c, w :: works => w.IsProper c ∧ AreProper (w.after c) works

theorem saved_perform {r : Request} {w : String} (hw : w ∈ ["insert", "update", "delete"])
    (hs : ∀ s, r.compile c.options.listMode = .ok s → ∃ rest, s.sql.toList = w.toList ++ rest) :
    (c.perform Database.executor.write r).client.state.saved = c.state.saved := by
  cases h : r.compile c.options.listMode with
  | error e => rw [Client.perform_error h]
  | ok s =>
      obtain ⟨rest, hrest⟩ := hs s h
      rw [Client.perform_ok h]
      exact c.state.saved_write hw hrest

theorem exists_toList_append (a b : String) {w : String} {cs : List Char}
    (h : a.toList = w.toList ++ cs) : ∃ rest, (a ++ b).toList = w.toList ++ rest :=
  ⟨cs ++ b.toList, by rw [String.toList_append, h, List.append_assoc]⟩

theorem saved_after (h : c.state.saved = some t) {w : Work} (hw : w.IsProper c) :
    (w.after c).state.saved = some t := by
  cases w with
  | insert table record =>
      refine (saved_perform (r := .insert table record) (w := "insert") (by simp)
        fun s hs => ?_).trans h
      obtain rfl := Except.ok.inj hs
      rw [Statement.sql_insert]
      simp only [String.append_assoc]
      exact exists_toList_append _ _ rfl
  | update table changes filter =>
      refine (saved_perform (r := .update table changes filter) (w := "update") (by simp)
        fun s hs => ?_).trans h
      obtain ⟨name, -, -, rfl⟩ := Statement.update_eq_ok_iff.1 hs
      simp only [String.append_assoc]
      exact exists_toList_append _ _ rfl
  | delete table filter =>
      refine (saved_perform (r := .delete table filter) (w := "delete") (by simp)
        fun s hs => ?_).trans h
      obtain ⟨name, -, rfl⟩ := Statement.delete_eq_ok_iff.1 hs
      simp only [String.append_assoc]
      exact exists_toList_append _ _ rfl
  | batch ids last => exact (Database.saved_script hw).trans h

theorem saved_afterAll (h : c.state.saved = some t) {works : List Work}
    (hworks : AreProper c works) : (afterAll c works).state.saved = some t := by
  induction works generalizing c with
  | nil => exact h
  | cons w works ih => exact ih (saved_after h hworks.1) hworks.2

end Work

namespace Database

variable {d : Database}

theorem rollback_of_open {t : Table} (h : d.saved = some t) :
    ∃ back, d.rollback = (.ok (), back) ∧ back.table = t ∧ back.saved = none := by
  refine ⟨{ d with table := t, saved := none }, ?_, rfl, rfl⟩
  rw [rollback, h]

theorem commit_of_open {t : Table} (h : d.saved = some t) :
    ∃ kept, d.commit = (.ok (), kept) ∧ kept.table = d.table ∧ kept.saved = none := by
  refine ⟨{ d with saved := none }, ?_, rfl, rfl⟩
  rw [commit, h]

theorem ne_empty_of_nope : Store.insertionText "nope" 0 ≠ "" := by
  intro h
  have hlist := congrArg String.toList h
  rw [Store.toList_insertionText] at hlist
  cases (List.append_eq_nil_iff.1 hlist).2

/-- What is found in the statement that ends a failing batch. -/
def nopeFault : DatabaseFault :=
  .refused (.columnNotInTable "t" "nope") (Store.insertionText "nope" 0)

theorem runFirst_nope (d : Database) :
    ∃ fault, (runFirst (Store.insertionText "nope" 0).toList d).1 = .error fault ∧
      (d.engine.Ample → fault = nopeFault) := by
  have hempty : (Store.insertionText "nope" 0).toList.isEmpty = false := by
    rw [Store.toList_insertionText]
    simp
  have hnext := Prepared.next_insertion_nope (.written 0 (.nil 0)) []
  rw [← Store.toList_insertionText] at hnext
  rw [runFirst, hempty, if_neg Bool.false_ne_true, hnext]
  cases hrefused : d.engine.refuses d.moment (Store.insertionText "nope" 0).toList [] with
  | some fault =>
      refine ⟨fault, rfl, fun hample => ?_⟩
      rw [hample] at hrefused
      cases hrefused
  | none =>
      refine ⟨nopeFault, ?_, fun _ => rfl⟩
      rw [nopeFault, ← String.ofList_toList (s := Store.insertionText "nope" 0)]
      rfl

theorem isBatch_nope (d : Database) (ids : List Int64) :
    d.IsBatch ids (Store.insertionText "nope" 0) :=
  .inr fun e _ => e.runFirst_nope.imp fun _ => And.left

/-- A batch of inserts adds its rows under the next identifiers, or the statement behind the first
`k` of them fails. That fault is answered then; a batch with a transaction of its own leaves the
table as it was, and one inside an open transaction leaves the rows of the inserts before. It is the
statement behind all inserts that fails where there is enough of everything and an identifier for
every row. A transaction stays open through whatever is done in it, and it ends with the table of
its beginning or with the table as it is. -/
theorem batches_in_transactions (c : Client Database) :
    (∀ ids last, c.state.IsBatch ids last →
      let reply := c.batch executor (Store.insertionsText ids ++ last)
      let after := reply.client.state
      after.saved = c.state.saved ∧ reply.client.options = c.options ∧
      ((reply.result = .ok () ∧ last = "" ∧
          c.state.table.Gets (ids.map Cell.integer) after.table) ∨
        ∃ k e fault, k ≤ ids.length ∧
          Runs (left ids last.toList 0) c.state.opened (left ids last.toList k) e ∧
          (runFirst (left ids last.toList k) e).1 = .error fault ∧
          reply.result = .error (.database fault) ∧
          c.state.table.Gets ((ids.take k).map Cell.integer) e.table ∧
          after.table = (if c.state.saved = none then c.state.table else e.table) ∧
          (c.state.engine.Ample → ∀ n, c.state.table.IsNextId n →
            n + ids.length ≤ 0x8000000000000000 → k = ids.length ∧ last ≠ ""))) ∧
    (c.state.saved = none →
      c.state.begin.1 = .ok () ∧ ∀ works,
        Work.AreProper { c with state := c.state.begin.2 } works →
          let after := (Work.afterAll { c with state := c.state.begin.2 } works).state
          after.saved = some c.state.table ∧
            (∃ back, after.rollback = (.ok (), back) ∧ back.table = c.state.table ∧
              back.saved = none) ∧
            ∃ kept, after.commit = (.ok (), kept) ∧ kept.table = after.table ∧
              kept.saved = none) := by
  constructor
  · intro ids last hbatch
    obtain ⟨k, e, hk, hruns, hgrows, -, ⟨rfl, rfl, after, hscript, htable, hsaved⟩ |
      ⟨fault, after, hfault, hscript, htable, hsaved, hroom⟩⟩ := script_batch hbatch
    · have hresult : (c.batch executor (Store.insertionsText ids ++ "")).result = .ok () :=
        congrArg Prod.fst hscript
      have hstate : (c.batch executor (Store.insertionsText ids ++ "")).client.state = after :=
        congrArg Prod.snd hscript
      rw [List.take_length] at hgrows
      refine ⟨hstate ▸ hsaved, rfl, .inl ⟨hresult, rfl, ?_⟩⟩
      rw [hstate, htable]
      exact hgrows.gets
    · have hresult : (c.batch executor (Store.insertionsText ids ++ last)).result =
          .error (.database fault) := congrArg Prod.fst hscript
      have hstate : (c.batch executor (Store.insertionsText ids ++ last)).client.state = after :=
        congrArg Prod.snd hscript
      refine ⟨hstate ▸ hsaved, rfl, .inr ⟨k, e, fault, hk, hruns, hfault, hresult, hgrows.gets,
        hstate ▸ htable, fun hample n hn hfits => ?_⟩⟩
      obtain rfl := hn.eq_nextId
      refine (hroom hample).resolve_right fun hlate => ?_
      omega
  · intro hclosed
    have hopened : c.state.begin.2 = { c.state with saved := some c.state.table } := by
      rw [begin, hclosed]
    refine ⟨by rw [begin, hclosed], fun works hworks => ?_⟩
    have hsaved := Work.saved_afterAll (c := { c with state := c.state.begin.2 })
      (by rw [hopened]) hworks
    exact ⟨hsaved, rollback_of_open hsaved, commit_of_open hsaved⟩

/-- The same failing batch, by itself and within a transaction that is rolled back at last. -/
theorem batches_in_transactions_of_nope :
    let c := Store.start .inline
    let begun : Client Database := { c with state := c.state.begin.2 }
    let nope := Store.insertionText "nope" 0
    let works : List Work :=
      [.insert "t" (Store.valueRecord (.text "one")), .batch [5, -7] nope, .delete "t" none]
    c.state.IsBatch [5, -7] nope ∧ c.state.saved = none ∧ Work.AreProper begun works ∧
      (c.batch executor (Store.insertionsText [5, -7] ++ nope)).client.state.table.rows = [] ∧
      (begun.batch executor (Store.insertionsText [5, -7] ++ nope)).client.state.table.rows =
        [⟨1, .integer 5⟩, ⟨2, .integer (-7)⟩] ∧
      (Work.afterAll begun works).state.rollback.2.table = .empty := by
  intro c begun nope works
  have hnext : Table.IsNextId .empty 1 := ⟨by simp [Table.empty], .inl ⟨rfl, rfl⟩⟩
  have hproper : Work.AreProper begun works :=
    ⟨trivial, isBatch_nope _ _, trivial, trivial⟩
  obtain ⟨hbatches, hends⟩ := batches_in_transactions c
  obtain ⟨-, -, ⟨-, hempty, -⟩ | ⟨k, e, -, -, -, -, -, -, hclosed, -⟩⟩ :=
    hbatches [5, -7] nope (isBatch_nope _ _)
  · exact absurd hempty ne_empty_of_nope
  obtain ⟨-, -, ⟨-, hempty, -⟩ | ⟨k, f, -, -, -, -, -, hgets, hopen, hroom⟩⟩ :=
    (batches_in_transactions begun).1 [5, -7] nope (isBatch_nope _ _)
  · exact absurd hempty ne_empty_of_nope
  obtain ⟨rfl, -⟩ := hroom Engine.ample_plain 1 hnext (by decide)
  obtain ⟨-, ⟨back, hback, htable, -⟩, -⟩ := (hends rfl).2 works hproper
  refine ⟨isBatch_nope _ _, rfl, hproper, ?_, ?_, ?_⟩
  · rw [hclosed]
    rfl
  · rw [hopen]
    exact (hgets.counted 1 hnext (by decide)).trans (by decide)
  · rw [hback, htable]
    rfl

end Database

end Querysmith
