import Querysmith.Proofs.StoreSteps

namespace Querysmith

open Sql

namespace Database

variable (d : Database)

theorem engine_run (plan : Plan) (params : List Cell) :
    (d.run plan params).2.engine = d.engine := by
  rw [run]
  split <;> rfl

theorem engine_pass (fault : DatabaseFault) (text : List Char) (params : List Value) :
    (d.pass fault text params).2.engine = d.engine := by
  rw [pass]
  split
  · split <;> rfl
  · rfl

theorem engine_perform (text : List Char) (params : List Value) :
    (d.perform text params).2.engine = d.engine := by
  rw [perform]
  split
  · rfl
  · split
    · exact d.engine_pass _ _ _
    · split
      · rfl
      · rfl
      · exact d.engine_run _ _

theorem engine_runFirst (text : List Char) : (runFirst text d).2.engine = d.engine := by
  rw [runFirst]
  split
  · rfl
  · split
    · rfl
    · split
      · exact d.engine_pass _ _ _
      · rfl
      · exact d.engine_run _ _

theorem engine_runText (n : Nat) (text : List Char) : (runText n text d).2.engine = d.engine := by
  induction n generalizing text d with
  | zero => rfl
  | succ n ih =>
      have hfirst := d.engine_runFirst text
      rw [runText]
      split
      · rename_i hrun
        rw [← hfirst, hrun]
      · rename_i hrun
        rw [← hfirst, hrun]
      · rename_i hrun
        rw [← hfirst, hrun]
        exact ih _ _

theorem engine_begin : d.begin.2.engine = d.engine := by
  rw [begin]
  split <;> rfl

theorem engine_commit : d.commit.2.engine = d.engine := by
  rw [commit]
  split <;> rfl

theorem engine_rollback : d.rollback.2.engine = d.engine := by
  rw [rollback]
  split <;> rfl

theorem engine_script (sql : String) : (d.script sql).2.engine = d.engine := by
  change (d.inTransaction (runText (sql.length + 1) sql.toList)).2.engine = d.engine
  have hrun := d.begin.2.engine_runText (sql.length + 1) sql.toList
  rw [engine_begin] at hrun
  rw [inTransaction]
  split
  · exact d.engine_runText _ _
  · split
    · rename_i after hafter
      rw [engine_commit, ← hrun, hafter]
    · rename_i fault after hafter
      rw [hafter] at hrun
      exact after.engine_rollback.trans hrun

end Database

namespace Store

variable (medium : Medium)

theorem engine_perform (c : State) (r : Request) :
    (c.perform Database.executor.write r).client.state.engine = c.state.engine := by
  cases h : r.compile c.options.listMode with
  | error e => rw [Client.perform_error h]
  | ok s =>
      rw [Client.perform_ok h]
      exact c.state.engine_perform _ _

theorem options_perform (c : State) (r : Request) :
    (c.perform Database.executor.write r).client.options = c.options := by
  cases h : r.compile c.options.listMode with
  | error e => rw [Client.perform_error h]
  | ok s => rw [Client.perform_ok h]

/-- What no step changes. -/
structure Keeps (c after : State) : Prop where
  engine : after.state.engine = c.state.engine
  options : after.options = c.options

theorem keeps_step (c : State) (s : Step) : Keeps c (step medium c s).2 := by
  cases s with
  | insert v =>
      cases v with
      | error failure => exact ⟨rfl, rfl⟩
      | ok v => exact ⟨engine_perform c _, options_perform c _⟩
  | update v target =>
      cases v with
      | error failure => exact ⟨rfl, rfl⟩
      | ok v => exact ⟨engine_perform c _, options_perform c _⟩
  | delete target => exact ⟨engine_perform c _, options_perform c _⟩
  | batch values fails => exact ⟨c.state.engine_script _, rfl⟩
  | begin => exact ⟨c.state.engine_begin, rfl⟩
  | commit => exact ⟨c.state.engine_commit, rfl⟩
  | rollback => exact ⟨c.state.engine_rollback, rfl⟩
  | reopen =>
      refine ⟨?_, rfl⟩
      cases medium with
      | file =>
          change c.state.close.engine = c.state.engine
          rw [Database.close]
          split
          · rfl
          · exact c.state.engine_rollback
      | memory | temporary => rfl

theorem keeps_final (c : State) (steps : List Step) : Keeps c (final medium c steps) := by
  refine Machine.final_induction (P := Keeps c) (fun reached s h => ?_) ⟨rfl, rfl⟩ steps
  have hstep := keeps_step medium reached s
  exact ⟨hstep.engine.trans h.engine, hstep.options.trans h.options⟩

/-- What comes of a statement on some rows, with some places for parameters: there may not be more
than 32766 of them. -/
def Changes (d : Database) (places count : Nat) (rows : List TableRow) (answer : Operand Answer)
    (after : Database) : Prop :=
  if places ≤ 32766 then answer = .ok (.changed count) ∧ after.table.rows = rows
  else
    (∃ position text,
      answer = .error (.rejected (.database (.refused (.tooManySlots position) text)))) ∧
      after.table = d.table

/-- What a step answers and makes of the table. Steps that write no rows are not spoken of. -/
def Follows (mode : ListMode) (d : Database) (answer : Operand Answer) (after : Database) :
    Step → Prop
  | .insert (.ok v) =>
      (∃ key, answer = .ok (.inserted key.toInt) ∧
        d.table.Adds key v.bindable.stored after.table) ∨
      (∀ n, d.table.IsNextId n → 0x8000000000000000 ≤ n) ∧
        answer = .error (.rejected (.database .full)) ∧ after.table = d.table
  | .update (.ok v) target =>
      Changes d (1 + (target.bound mode).length) (d.table.rows.countP target.selects)
        (d.table.rows.map fun r => if target.selects r then ⟨r.key, v.bindable.stored⟩ else r)
        answer after
  | .delete target =>
      Changes d (target.bound mode).length (d.table.rows.countP target.selects)
        (d.table.rows.filter fun r => !target.selects r) answer after
  | .batch values fails =>
      ∃ k t, d.table.Gets ((values.take k).map Cell.integer) t ∧
        (answer = .ok .done ∧ fails = false ∧ k = values.length ∧ after.table = t ∨
          after.table = (if d.saved = none then d.table else t) ∧
            (answer = .error (.rejected (.database Database.nopeFault)) ∧ fails = true ∧
                k = values.length ∨
              answer = .error (.rejected (.database .full)) ∧ k ≤ values.length ∧
                ∀ n, d.table.IsNextId n → 0x8000000000000000 < n + values.length))
  | .insert (.error failure) | .update (.error failure) _ => answer = .error failure ∧ after = d
  | .begin | .commit | .rollback | .reopen => True

theorem changes_of_comes {c : State} {places : Nat} {e : Effect}
    {after : Operand Answer × State} (h : Comes c places e after) :
    Changes c.state places e.changed e.table.rows after.1 after.2.state := by
  rw [Changes]
  split
  · rename_i hfits
    rw [h.of_fits hfits]
    exact ⟨rfl, rfl⟩
  · rename_i hbeyond
    obtain ⟨position, text, h⟩ := h.of_beyond (Nat.not_le.1 hbeyond)
    rw [h]
    exact ⟨⟨position, text, rfl⟩, rfl⟩

theorem isBatch_batchText (d : Database) (values : List Int64) (fails : Bool) :
    d.IsBatch values (if fails then insertionText "nope" 0 else "") := by
  cases fails with
  | false => exact .inl rfl
  | true => exact d.isBatch_nope values

theorem follows_batch {c : State} (hample : c.state.engine.Ample) (values : List Int64)
    (fails : Bool) :
    Follows c.options.listMode c.state (step medium c (.batch values fails)).1
      (step medium c (.batch values fails)).2.state (.batch values fails) := by
  have hstep : step medium c (.batch values fails) =
      ((Operand.ofResult (c.state.script (batchText values fails)).1).map fun _ => .done,
        { c with state := (c.state.script (batchText values fails)).2 }) := rfl
  rw [hstep]
  obtain ⟨k, e, hk, -, hgrows, hengine, ⟨rfl, hlast, after, hscript, htable, -⟩ |
    ⟨fault, after, hfault, hscript, htable, -, hend⟩⟩ :=
    Database.script_batch (isBatch_batchText c.state values fails)
  · refine ⟨values.length, e.table, hgrows.gets, .inl ?_⟩
    cases fails with
    | true => exact absurd hlast Database.ne_empty_of_nope
    | false =>
        rw [batchText, hscript]
        exact ⟨rfl, rfl, rfl, htable⟩
  · refine ⟨k, e.table, hgrows.gets, .inr ?_⟩
    rw [batchText, hscript]
    refine ⟨htable, ?_⟩
    rcases hend hample with ⟨rfl, hlast⟩ | ⟨rfl, hlate⟩
    · cases fails with
      | false => exact absurd rfl hlast
      | true =>
          obtain ⟨other, hother, hnope⟩ := e.runFirst_nope
          rw [Database.left_length, if_pos rfl, hother] at hfault
          obtain rfl := Except.error.inj hfault
          rw [hnope (hengine ▸ hample)]
          exact .inl ⟨rfl, rfl, rfl⟩
    · refine .inr ⟨rfl, hk, fun n hn => ?_⟩
      rw [hn.eq_nextId]
      exact hlate

theorem step_follows {c : State} (hample : c.state.engine.Ample) (s : Step) :
    Follows c.options.listMode c.state (step medium c s).1 (step medium c s).2.state s := by
  cases s with
  | insert v =>
      cases v with
      | error failure => exact ⟨rfl, rfl⟩
      | ok v =>
          rcases step_insert medium c hample v with ⟨key, after, hstep, hinserts⟩ | ⟨hroom, hstep⟩
          · rw [hstep]
            exact .inl ⟨key, rfl, hinserts.adds⟩
          · rw [hstep]
            exact .inr ⟨fun n hn => hn.eq_nextId ▸ hroom, rfl, rfl⟩
  | update v target =>
      cases v with
      | error failure => exact ⟨rfl, rfl⟩
      | ok v => exact changes_of_comes (step_update medium c hample v target)
  | delete target => exact changes_of_comes (step_delete medium c hample target)
  | batch values fails => exact follows_batch medium hample values fails
  | begin | commit | rollback | reopen => trivial

def trace (c : State) (steps : List Step) : List (Operand Answer × Database) :=
  (run medium c steps).map fun after => (after.1, after.2.state)

/-- The number of places for parameters in the statement of a step, if it is one statement. -/
def Step.places (mode : ListMode) : Step → Nat
  | update _ target => 1 + (target.bound mode).length
  | delete target => (target.bound mode).length
  | _ => 1

theorem length_bound_inline_le (target : Target) :
    (target.bound .inline).length ≤ (target.bound .parameterized).length := by
  cases target with
  | all | one => exact Nat.le_refl _
  | among ids => exact Nat.zero_le _

theorem trace_cons (c : State) (s : Step) (steps : List Step) :
    trace medium c (s :: steps) =
      ((step medium c s).1, (step medium c s).2.state) ::
        trace medium (step medium c s).2 steps := rfl

def client (log : Bool) (mode : ListMode) (d : Database) : State := ⟨⟨log, mode⟩, d⟩

theorem eq_client {c : State} {log : Bool} {mode : ListMode} (h : c.options = ⟨log, mode⟩) :
    c = client log mode c.state := by
  cases c
  cases h
  rfl

theorem comes_client {log : Bool} {mode : ListMode} {d : Database} {places more : Nat} {e : Effect}
    {after other : Operand Answer × State} (hle : places ≤ more) (hfits : more ≤ 32766)
    (hinline : Comes (client log .inline d) places e after)
    (hmode : Comes (client log mode d) more e other) :
    other = (after.1, client log mode after.2.state) := by
  rw [hinline.of_fits (Nat.le_trans hle hfits), hmode.of_fits hfits]
  rfl

theorem step_modes (log : Bool) {d : Database} (hample : d.engine.Ample) {s : Step}
    (hfits : s.places .parameterized ≤ 32766) :
    step medium (client log .parameterized d) s = ((step medium (client log .inline d) s).1,
      client log .parameterized (step medium (client log .inline d) s).2.state) := by
  cases s with
  | insert v =>
      cases v with
      | error failure => rfl
      | ok v =>
          have hstep (mode : ListMode) : step medium (client log mode d) (.insert (.ok v)) = _ :=
            answered_perform (client log mode d) (r := .insert "t" (valueRecord v)) rfl
              WriteOutcome.lastInsertId Answer.inserted
          rw [hstep, hstep]
          rfl
  | update v target =>
      cases v with
      | error failure => rfl
      | ok v =>
          exact comes_client (Nat.add_le_add_left (length_bound_inline_le target) 1) hfits
            (step_update medium (client log .inline d) hample v target)
            (step_update medium (client log .parameterized d) hample v target)
  | delete target =>
      exact comes_client (length_bound_inline_le target) hfits
        (step_delete medium (client log .inline d) hample target)
        (step_delete medium (client log .parameterized d) hample target)
  | batch | begin | commit | rollback | reopen => rfl

theorem trace_modes (log : Bool) {d : Database} (hample : d.engine.Ample) {steps : List Step}
    (hfits : ∀ s ∈ steps, s.places .parameterized ≤ 32766) :
    trace medium (client log .inline d) steps =
      trace medium (client log .parameterized d) steps := by
  induction steps generalizing d with
  | nil => rfl
  | cons s steps ih =>
      obtain ⟨hs, hsteps⟩ := List.forall_mem_cons.1 hfits
      have hkeeps := keeps_step medium (client log .inline d) s
      have hrest := ih (d := (step medium (client log .inline d) s).2.state)
        (hkeeps.engine ▸ hample) hsteps
      rw [← eq_client hkeeps.options] at hrest
      rw [trace_cons, trace_cons, step_modes medium log hample hs, hrest]
      rfl

/-- Each report of a run is the one its step is due at its place, identifiers never repeat, and as
long as there are places for all identifiers it does not matter how they reach the statements. -/
theorem steps_of_run (c : State) (hample : c.state.engine.Ample) :
    (∀ before s rest,
      let reached := final medium c before
      (run medium c (before ++ s :: rest))[before.length]? = some (step medium reached s) ∧
        Follows c.options.listMode reached.state (step medium reached s).1
          (step medium reached s).2.state s) ∧
      (∀ steps, ((final medium c steps).state.table.rows.map TableRow.id).Nodup) ∧
      ∀ steps, (∀ s ∈ steps, s.places .parameterized ≤ 32766) →
        trace medium ⟨⟨c.options.logQueries, .inline⟩, c.state⟩ steps =
          trace medium ⟨⟨c.options.logQueries, .parameterized⟩, c.state⟩ steps := by
  refine ⟨fun before s rest => ?_, fun steps => ?_, fun steps hfits => ?_⟩
  · have hkeeps := keeps_final medium c before
    refine ⟨Machine.getElem?_run (step medium) c before s rest, ?_⟩
    rw [← hkeeps.options]
    exact step_follows medium (hkeeps.engine ▸ hample) s
  · exact (final medium c steps).state.table.nodup_ids
  · exact trace_modes medium c.options.logQueries hample hfits

/-- Identifiers that are named twice, or that no row has, and no identifiers at all. -/
theorem traces_of_repeated :
    let steps : List Step :=
      [.insert (.ok (.text "one")), .insert (.ok (.bool true)),
        .update (.ok .null) (.among [2, 2, 7]), .delete (.among []), .delete (.among [1, 1])]
    (start .inline).state.engine.Ample ∧
      trace .memory (start .inline) steps = trace .memory (start .parameterized) steps ∧
      (trace .memory (start .parameterized) steps).map
          (fun after => (after.1, after.2.table.rows)) =
        [(.ok (.inserted 1), [⟨1, .text "one"⟩]),
          (.ok (.inserted 2), [⟨1, .text "one"⟩, ⟨2, .integer 1⟩]),
          (.ok (.changed 1), [⟨1, .text "one"⟩, ⟨2, .null⟩]),
          (.ok (.changed 0), [⟨1, .text "one"⟩, ⟨2, .null⟩]),
          (.ok (.changed 1), [⟨2, .null⟩])] := by
  intro steps
  obtain ⟨-, -, hmodes⟩ := steps_of_run .memory (start .inline) Engine.ample_plain
  exact ⟨Engine.ample_plain, hmodes steps (by decide), by decide +kernel⟩

theorem answers_of_long {ids : List Int64} (h : 32766 < ids.length) :
    (trace .memory (start .inline) [.delete (.among ids)]).map Prod.fst = [.ok (.changed 0)] ∧
      ∃ position text,
        (trace .memory (start .parameterized) [.delete (.among ids)]).map Prod.fst =
          [.error (.rejected (.database (.refused (.tooManySlots position) text)))] := by
  have hinline := step_delete .memory (start .inline) Engine.ample_plain (.among ids)
  have hbound := step_delete .memory (start .parameterized) Engine.ample_plain (.among ids)
  obtain ⟨position, text, hbeyond⟩ := hbound.of_beyond h
  simp only [trace_cons, List.map_cons, hinline.of_fits (Nat.zero_le _), hbeyond]
  exact ⟨rfl, position, text, rfl⟩

theorem answers_differ_of_32767 :
    (trace .memory (start .inline) [.delete (.among (List.replicate 32767 0))]).map Prod.fst ≠
      (trace .memory (start .parameterized) [.delete (.among (List.replicate 32767 0))]).map
        Prod.fst := by
  have hlong : 32766 < (List.replicate 32767 (0 : Int64)).length := by
    rw [List.length_replicate]
    decide
  obtain ⟨hinline, position, text, hbound⟩ := answers_of_long hlong
  rw [hinline, hbound]
  intro heq
  cases heq

end Store

end Querysmith
