import Querysmith.Proofs.Targets
import Querysmith.Proofs.Transactions

namespace Querysmith

open Sql

namespace Sql.Selector

theorem unpadded_append_text {head : String} (h : Text.Unpadded head.toList)
    (hne : head.toList ≠ []) (s : Selector) : Text.Unpadded (head ++ s.text).toList := by
  rw [String.toList_append]
  refine h.append hne ?_
  cases s with
  | all => rintro _ ⟨⟩
  | one n =>
      have hlast : " where id = ?".toList.getLast? = some '?' := by decide
      change ∀ c ∈ " where id = ?".toList.getLast?, _
      rw [hlast]
      rintro _ ⟨⟩
      decide
  | among as =>
      rw [toList_text_among, List.getLast?_append, List.getLast?_append]
      rintro _ ⟨⟩
      decide

end Sql.Selector

namespace Database

variable {d : Database} {s : Statement} {plan : Plan} {e : Effect}

theorem write_of_prepared (hample : d.engine.Ample) (htrim : Text.Unpadded s.sql.toList)
    (hprepared : Prepared.IsPrepared s.sql.toList plan s.params.length)
    (hfits : s.params.length ≤ maxSlot) :
    d.write s = (((d.run plan (s.params.map Value.cell)).1.bind
      (outcome (d.run plan (s.params.map Value.cell)).2)).mapError .database,
      (d.run plan (s.params.map Value.cell)).2) := by
  rw [Prepared.IsPrepared, if_pos hfits] at hprepared
  rw [write, htrim.trim, perform_of_next hample hprepared, if_pos rfl]

theorem write_of_effect (hample : d.engine.Ample) (htrim : Text.Unpadded s.sql.toList)
    (hprepared : Prepared.IsPrepared s.sql.toList plan s.params.length)
    (hfits : s.params.length ≤ maxSlot)
    (hrun : ∀ drawn, plan.run (s.params.map Value.stored) d.table drawn = .ok e)
    (hrows : e.rows = .empty) :
    d.write s = (.ok ⟨e.changed, (d.take e).lastId⟩, d.take e) := by
  have htaken : d.run plan (s.params.map Value.cell) = (.ok e, d.take e) := by
    simp only [run, map_kept_cell, hrun]
  have houtcome : outcome (d.take e) e = .ok ⟨e.changed, (d.take e).lastId⟩ := by
    rw [outcome, hrows]
    rfl
  rw [write_of_prepared hample htrim hprepared hfits, htaken, Except.bind, houtcome]
  rfl

theorem write_of_beyond (hample : d.engine.Ample) (htrim : Text.Unpadded s.sql.toList)
    (hprepared : Prepared.IsPrepared s.sql.toList plan s.params.length)
    (hbeyond : ¬ s.params.length ≤ maxSlot) :
    ∃ position, d.write s = (.error (.database (.refused (.tooManySlots position) s.sql)),
      d.later) := by
  rw [Prepared.IsPrepared, if_neg hbeyond] at hprepared
  obtain ⟨position, hnext⟩ := hprepared
  refine ⟨position, ?_⟩
  rw [write, htrim.trim, perform_of_refused hample rfl hnext, String.ofList_toList]
  rfl

end Database

namespace Store

variable (medium : Medium) (c : State)

theorem answered_perform {α : Type} {r : Request} {s : Statement}
    (hcompile : r.compile c.options.listMode = .ok s) (g : WriteOutcome → α) (k : α → Answer) :
    answered k { c.perform Database.executor.write r with
      result := (c.perform Database.executor.write r).result.map g } =
      ((Operand.ofResult ((c.state.write s).1.map g)).map k,
        { c with state := (c.state.write s).2 }) := by
  rw [Client.perform_ok hcompile]
  rfl

theorem sql_insertion (v : Value) :
    (Statement.insert "t" (valueRecord v)).sql = insertionOf "v" (.bound 1) := by
  have h : "insert into " ++ (safeName? "t").getD "" ++ " (" ++ ", ".intercalate ["v"] ++
      ") values (" ++ marks ", " 1 ++ ")" = insertionOf "v" (.bound 1) := by decide +kernel
  exact h

theorem unpadded_change : Text.Unpadded "update t set v = ?".toList :=
  .of_ends (c := 'u') (d := '?') (by decide) (by decide) (by decide) (by decide)

theorem unpadded_deletion : Text.Unpadded "delete from t".toList :=
  .of_ends (c := 'd') (d := 't') (by decide) (by decide) (by decide) (by decide)

theorem unpadded_insertion : Text.Unpadded (insertionOf "v" (.bound 1)).toList :=
  .of_ends (c := 'i') (d := ')') (by decide +kernel) (by decide +kernel) (by decide) (by decide)

theorem write_insertion (hample : c.state.engine.Ample) (v : Value) :
    (∃ key after, c.state.write (Statement.insert "t" (valueRecord v)) =
        (.ok ⟨1, key.toInt⟩, after) ∧ c.state.Inserts key v.bindable.stored after) ∨
      0x8000000000000000 ≤ c.state.table.nextId ∧
        c.state.write (Statement.insert "t" (valueRecord v)) =
          (.error (.database .full), c.state.later) := by
  have hsql := sql_insertion v
  have htrim : Text.Unpadded (Statement.insert "t" (valueRecord v)).sql.toList := by
    rw [hsql]
    exact unpadded_insertion
  have hprepared : Prepared.IsPrepared (Statement.insert "t" (valueRecord v)).sql.toList
      (.insert [.value] [.slot 1]) (Statement.insert "t" (valueRecord v)).params.length := by
    have hnext := Prepared.next_insertion_whole (.bound (.nil 1))
    rw [hsql, Prepared.IsPrepared, if_pos (by change 1 ≤ maxSlot; decide)]
    exact hnext
  have hwrite := Database.write_of_prepared hample htrim hprepared (by change 1 ≤ maxSlot; decide)
  rcases c.state.run_insert (.slot 1) ((Statement.insert "t" (valueRecord v)).params.map
    Value.cell) with ⟨e, key, after, hrun, hchanged, hrows, hinserts⟩ | ⟨hroom, hrun⟩
  · refine .inl ⟨key, after, ?_, hinserts⟩
    have houtcome : Database.outcome after e = .ok ⟨1, key.toInt⟩ := by
      rw [Database.outcome, hrows, hchanged, hinserts.lastId]
      rfl
    rw [hwrite, hrun, Except.bind, houtcome]
    rfl
  · refine .inr ⟨hroom, ?_⟩
    rw [hwrite, hrun]
    rfl

theorem step_insert (hample : c.state.engine.Ample) (v : Value) :
    (∃ key after, step medium c (.insert (.ok v)) =
        (.ok (.inserted key.toInt), { c with state := after }) ∧
        c.state.Inserts key v.bindable.stored after) ∨
      0x8000000000000000 ≤ c.state.table.nextId ∧
        step medium c (.insert (.ok v)) =
          (.error (.rejected (.database .full)), { c with state := c.state.later }) := by
  have hstep : step medium c (.insert (.ok v)) = _ :=
    answered_perform c (r := .insert "t" (valueRecord v)) rfl WriteOutcome.lastInsertId
      Answer.inserted
  rcases write_insertion c hample v with ⟨key, after, hwrite, hinserts⟩ | ⟨hroom, hwrite⟩
  · refine .inl ⟨key, after, ?_, hinserts⟩
    rw [hstep, hwrite]
    rfl
  · refine .inr ⟨hroom, ?_⟩
    rw [hstep, hwrite]
    rfl

/-- What a statement with so many places for parameters comes to, given the effect of its plan. -/
def Comes (c : State) (places : Nat) (e : Effect) (after : Operand Answer × State) : Prop :=
  if places ≤ 32766 then after = (.ok (.changed e.changed), { c with state := c.state.take e })
  else ∃ position text,
    after = (.error (.rejected (.database (.refused (.tooManySlots position) text))),
      { c with state := c.state.later })

namespace Comes

variable {c : State} {places : Nat} {e : Effect} {after : Operand Answer × State}

theorem of_fits (h : Comes c places e after) (hfits : places ≤ 32766) :
    after = (.ok (.changed e.changed), { c with state := c.state.take e }) := by
  rw [Comes, if_pos hfits] at h
  exact h

theorem of_beyond (h : Comes c places e after) (hbeyond : 32766 < places) :
    ∃ position text,
      after = (.error (.rejected (.database (.refused (.tooManySlots position) text))),
        { c with state := c.state.later }) := by
  rw [Comes, if_neg (Nat.not_le.2 hbeyond)] at h
  exact h

end Comes

theorem comes_of_prepared {r : Request} {s : Statement} {plan : Plan} {e : Effect}
    (hample : c.state.engine.Ample) (hcompile : r.compile c.options.listMode = .ok s)
    (htrim : Text.Unpadded s.sql.toList)
    (hprepared : Prepared.IsPrepared s.sql.toList plan s.params.length)
    (hrun : ∀ drawn, plan.run (s.params.map Value.stored) c.state.table drawn = .ok e)
    (hrows : e.rows = .empty) :
    Comes c s.params.length e (answered .changed { c.perform Database.executor.write r with
      result := (c.perform Database.executor.write r).result.map WriteOutcome.rowsAffected }) := by
  rw [answered_perform c hcompile, Comes]
  split
  · rename_i hfits
    rw [Database.write_of_effect hample htrim hprepared hfits hrun hrows]
    rfl
  · rename_i hbeyond
    obtain ⟨position, hwrite⟩ := Database.write_of_beyond hample htrim hprepared hbeyond
    refine ⟨position, s.sql, ?_⟩
    rw [hwrite]
    rfl

theorem stored_params (ids : List Int64) :
    (ids.map Value.int).map Value.stored = ids.map Cell.integer := by
  rw [List.map_map]
  rfl

theorem compile_update (mode : ListMode) (v : Value) (target : Target) :
    Statement.update mode "t" (valueRecord v) target.filter =
      .ok ⟨"update t set v = ?" ++ (target.selector mode 1).text,
        v.bindable :: (target.bound mode).map Value.int⟩ := by
  have hname : safeName? "t" = some "t" := by decide
  have hhead : "update " ++ "t" ++ " set " ++ (valueRecord v).assignments =
      "update t set v = ?" := by
    have h : "update " ++ "t" ++ " set " ++ ", ".intercalate ["v" ++ " = ?"] =
      "update t set v = ?" := by decide +kernel
    exact h
  have hkeys : (valueRecord v).isEmpty = false := rfl
  refine Statement.update_eq_ok_iff.2 ⟨"t", hname, hkeys, ?_⟩
  rw [hhead, target.text_filter mode 1, target.params_filter]
  rfl

theorem length_updateParams (mode : ListMode) (v : Value) (target : Target) :
    (v.bindable :: (target.bound mode).map Value.int).length = 1 + (target.bound mode).length := by
  rw [List.length_cons, List.length_map, Nat.add_comm]

theorem step_update (hample : c.state.engine.Ample) (v : Value) (target : Target) :
    Comes c (1 + (target.bound c.options.listMode).length)
      ⟨c.state.table.write target.selects v.bindable.stored,
        c.state.table.rows.countP target.selects, none, .empty⟩
      (step medium c (.update (.ok v) target)) := by
  have hprepared := Prepared.isPrepared_change _ (target.numbered c.options.listMode 1)
  have hlength := length_updateParams c.options.listMode v target
  rw [← hlength] at hprepared ⊢
  have hparams : (v.bindable :: (target.bound c.options.listMode).map Value.int).map Value.stored =
      [v.bindable.stored] ++ (target.bound c.options.listMode).map Cell.integer := by
    rw [List.map_cons, stored_params]
    rfl
  refine comes_of_prepared c (r := .update "t" (valueRecord v) target.filter) hample
    (compile_update c.options.listMode v target)
    ((target.selector c.options.listMode 1).unpadded_append_text unpadded_change (by decide))
    hprepared (fun drawn => ?_) rfl
  rw [hparams]
  exact Plan.updating_eq_write (fun r => rfl) c.state.table
    (target.passes_selector c.options.listMode [v.bindable.stored])

theorem compile_delete (mode : ListMode) (target : Target) :
    Statement.delete mode "t" target.filter =
      .ok ⟨"delete from t" ++ (target.selector mode 0).text,
        (target.bound mode).map Value.int⟩ := by
  have hname : safeName? "t" = some "t" := by decide
  have hhead : "delete from " ++ "t" = "delete from t" := by decide +kernel
  refine Statement.delete_eq_ok_iff.2 ⟨"t", hname, ?_⟩
  rw [hhead, target.text_filter mode 0, target.params_filter]

theorem step_delete (hample : c.state.engine.Ample) (target : Target) :
    Comes c (target.bound c.options.listMode).length
      ⟨c.state.table.delete target.selects, c.state.table.rows.countP target.selects, none, .empty⟩
      (step medium c (.delete target)) := by
  have hprepared := Prepared.isPrepared_deletion _ (target.numbered c.options.listMode 0)
  have hlength : ((target.bound c.options.listMode).map Value.int).length =
      0 + (target.bound c.options.listMode).length := by
    rw [List.length_map, Nat.zero_add]
  rw [← hlength] at hprepared
  rw [← Nat.zero_add (target.bound _).length, ← hlength]
  refine comes_of_prepared c (r := .delete "t" target.filter) hample
    (compile_delete c.options.listMode target)
    ((target.selector c.options.listMode 0).unpadded_append_text unpadded_deletion (by decide))
    hprepared (fun drawn => ?_) rfl
  have hchosen : (fun r => Plan.passes
      (Plan.rowEnvironment ((target.bound c.options.listMode).map .integer) r)
      ((target.selector c.options.listMode 0).expr (.name .id))) = target.selects :=
    funext (target.passes_selector c.options.listMode [])
  rw [stored_params]
  simp only [Plan.run, Plan.deletion, hchosen]

end Store

end Querysmith
