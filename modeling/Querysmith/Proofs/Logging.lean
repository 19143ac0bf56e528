import Mathlib.Data.List.Forall2
import Querysmith.Proofs.Exchange

namespace Querysmith

def Event.isRejected : Event → Bool
  | .rejected _ _ => true
  | .compiled _ _ => false

theorem filter_isRejected_events {o o' : CompileOptions} (h : o.listMode = o'.listMode)
    (r : Request) :
    (r.events o).filter Event.isRejected = (r.events o').filter Event.isRejected := by
  have htold (on : Bool) (op : Operation) (sql : String) :
      (if on then [Event.compiled op sql] else []).filter Event.isRejected = [] := by
    cases on <;> rfl
  simp only [Request.events, h]
  cases r.compile o'.listMode with
  | error e => rfl
  | ok s => exact (htold _ _ _).trans (htold _ _ _).symm

namespace Exchange

open Session (Answer Report)

variable {σ α : Type}

inductive Step.Alike : Step σ → Step σ → Prop where
  | refl (s : Step σ) : Alike s s
  | logging (on on' : Bool) : Alike (.setLogQueries on) (.setLogQueries on')

def Agree (c c' : State σ) : Prop :=
  c.state = c'.state ∧ c.options.listMode = c'.options.listMode

def observed (after : Report × State σ) : Operand Answer × List Event × Recorded σ :=
  (after.1.result, after.1.events.filter Event.isRejected, after.2.state)

def Similar (a b : Report × State σ) : Prop :=
  observed a = observed b ∧ Agree a.2 b.2

variable {c c' : State σ}

theorem Agree.similar (h : Agree c c') (report : Report) : Similar (report, c) (report, c') :=
  ⟨by simp only [observed, h.1], h⟩

theorem Agree.with_state (h : Agree c c') (state : Recorded σ) :
    Agree { c with state := state } { c' with state := state } :=
  ⟨rfl, h.2⟩

theorem similar_perform (h : Agree c c')
    (run : Recorded σ → Statement → Except Error α × Recorded σ) (r : Request) (f : α → Answer) :
    Similar (answered f (c.perform run r)) (answered f (c'.perform run r)) := by
  have hevents := filter_isRejected_events h.2 r
  cases hc : r.compile c.options.listMode with
  | error e =>
      have hc' : r.compile c'.options.listMode = .error e := h.2 ▸ hc
      rw [Client.perform_error hc, Client.perform_error hc']
      refine ⟨?_, h⟩
      simp only [observed, answered, hevents, h.1]
  | ok s =>
      have hc' : r.compile c'.options.listMode = .ok s := h.2 ▸ hc
      rw [Client.perform_ok hc, Client.perform_ok hc', h.1]
      refine ⟨?_, h.with_state _⟩
      simp only [observed, answered, hevents]

theorem similar_reading (h : Agree c c') (operand : Operand α) {act act' : α → Report × State σ}
    (hact : ∀ a, Similar (act a) (act' a)) :
    Similar (reading c operand act) (reading c' operand act') := by
  cases operand with
  | error failure => exact h.similar _
  | ok a => exact hact a

theorem similar_step (ex : Executor σ) (h : Agree c c') {s s' : Step σ} (hs : s.Alike s') :
    Similar (step ex c s) (step ex c' s') := by
  cases hs with
  | logging on on' => exact ⟨by simp only [observed, step, Client.setLogQueries, h.1], h⟩
  | refl =>
      cases s with
      | select query =>
          apply similar_reading h
          intro q
          exact similar_perform h _ (.select q) _
      | selectJson document =>
          apply similar_reading h
          intro j
          simp only [Client.selectJson]
          cases Query.ofJson j with
          | error e => exact h.similar _
          | ok q => exact similar_perform h _ (.select q) _
      | insert table record =>
          apply similar_reading h
          intro r
          simp only [Client.insert, answered_map]
          exact similar_perform h _ _ _
      | update table changes filter =>
          apply similar_reading h
          intro r
          apply similar_reading h
          intro f
          simp only [Client.update, answered_map]
          exact similar_perform h _ _ _
      | delete table filter =>
          apply similar_reading h
          intro f
          simp only [Client.delete, answered_map]
          exact similar_perform h _ _ _
      | batch sql =>
          simp only [step, Client.batch, answered, h.1]
          exact ⟨rfl, h.with_state _⟩
      | compile query =>
          apply similar_reading h
          intro q
          refine ⟨?_, h⟩
          simp only [observed, answered, Client.compile, h.1, h.2, filter_isRejected_events h.2]
      | setLogQueries on => exact ⟨by simp only [observed, step, Client.setLogQueries, h.1], h⟩
      | elsewhere change =>
          simp only [step, h.1]
          exact ⟨rfl, h.with_state _⟩

theorem observed_run (ex : Executor σ) (h : Agree c c') {steps steps' : List (Step σ)}
    (hs : List.Forall₂ Step.Alike steps steps') :
    (run ex c steps).map observed = (run ex c' steps').map observed := by
  induction hs generalizing c c' with
  | nil => rfl
  | cons hs _ ih =>
      obtain ⟨hobserved, hagree⟩ := similar_step ex h hs
      have hrest := ih hagree
      simp only [run, Machine.run, List.map_cons, hobserved] at hrest ⊢
      rw [hrest]

def Step.switch? : Step σ → Option Bool
  | setLogQueries on => some on
  | _ => none

/-- Where the switch is after some steps: where the last of them that moves it left it. -/
def switchAfter (on : Bool) (steps : List (Step σ)) : Bool :=
  (steps.filterMap Step.switch?).getLast?.getD on

theorem switchAfter_cons (on : Bool) (s : Step σ) (steps : List (Step σ)) :
    switchAfter on (s :: steps) = switchAfter (s.switch?.getD on) steps := by
  cases h : s.switch? with
  | none => simp only [switchAfter, List.filterMap_cons, h, Option.getD_none]
  | some on' =>
      simp only [switchAfter, List.filterMap_cons, h, List.getLast?_cons, Option.getD_some]

theorem Step.switch?_of_compilation? {mode : ListMode} {s : Step σ}
    {found : Operation × Except Error Statement} (h : s.compilation? mode = some found) :
    s.switch? = none := by
  cases s with
  | setLogQueries on => cases h
  | _ => rfl

theorem Step.switch?_of_unread? {s : Step σ} {failure : ReadFailure}
    (h : s.unread? = some failure) : s.switch? = none := by
  cases s with
  | setLogQueries on => cases h
  | _ => rfl

theorem Ends.logQueries {ex : Executor σ} {s : Step σ} {after : Report × State σ}
    (h : Ends ex c s after) : after.2.options.logQueries = s.switch?.getD c.options.logQueries := by
  cases h with
  | unread h => rw [Step.switch?_of_unread? h, Option.getD_none]
  | refused h | compiled h | called _ h => rw [Step.switch?_of_compilation? h, Option.getD_none]
  | batch _ h | logging h | elsewhere h => rw [h]; rfl

theorem final_logQueries (ex : Executor σ) (c : State σ) (steps : List (Step σ)) :
    (final ex c steps).options.logQueries = switchAfter c.options.logQueries steps := by
  induction steps generalizing c with
  | nil => rfl
  | cons s steps ih =>
      rw [switchAfter_cons, ← (ends_step ex c s).logQueries]
      exact ih (step ex c s).2

/-- What a step has to tell. A rejection is told with the error that is returned; a statement is
told if the switch is on, whatever comes of it. -/
structure Tells (mode : ListMode) (on : Bool) (s : Step σ) (report : Report) : Prop where
  once : report.events.length ≤ 1
  rejected : ∀ op e, .rejected op e ∈ report.events ↔ s.compilation? mode = some (op, .error e)
  returned : ∀ op e, .rejected op e ∈ report.events → report.result = .error (.rejected e)
  compiled : ∀ op sql, .compiled op sql ∈ report.events ↔
    on = true ∧ ∃ st, s.compilation? mode = some (op, .ok st) ∧ st.sql = sql

theorem mem_told {op : Operation} {st : Statement} {event : Event} :
    event ∈ told c op st ↔ c.options.logQueries = true ∧ event = .compiled op st.sql := by
  rw [told]
  cases c.options.logQueries <;> simp

theorem length_told (op : Operation) (st : Statement) : (told c op st).length ≤ 1 := by
  rw [told]
  split <;> simp

theorem tells_of_compiled {mode : ListMode} {s : Step σ} {op : Operation} {st : Statement}
    (h : s.compilation? mode = some (op, .ok st)) (result : Operand Answer) :
    Tells mode c.options.logQueries s ⟨result, told c op st⟩ where
  once := length_told op st
  rejected := by simp [mem_told, h]
  returned := by simp [mem_told]
  compiled := by
    intro op' sql
    rw [mem_told, h]
    constructor
    · rintro ⟨hon, ⟨⟩⟩
      exact ⟨hon, st, rfl, rfl⟩
    · rintro ⟨hon, st', ⟨⟩, rfl⟩
      exact ⟨hon, rfl⟩

theorem tells_nothing {mode : ListMode} {on : Bool} {s : Step σ}
    (h : s.compilation? mode = none) (result : Operand Answer) :
    Tells mode on s ⟨result, []⟩ where
  once := Nat.zero_le 1
  rejected := by simp [h]
  returned := by simp
  compiled := by simp [h]

theorem Step.compilation?_of_unread? {s : Step σ} {failure : ReadFailure}
    (h : s.unread? = some failure) (mode : ListMode) : s.compilation? mode = none := by
  cases s with
  | select o | compile o | selectJson o | insert _ o | delete _ o =>
      cases o with
      | error => rfl
      | ok a => cases h
  | update table changes filter =>
      cases changes with
      | error => rfl
      | ok r =>
          cases filter with
          | error => rfl
          | ok f => cases h
  | batch | setLogQueries | elsewhere => rfl

theorem Ends.tells {ex : Executor σ} {s : Step σ} {after : Report × State σ}
    (h : Ends ex c s after) : Tells c.options.listMode c.options.logQueries s after.1 := by
  cases h with
  | unread h => exact tells_nothing (Step.compilation?_of_unread? h _) _
  | refused h =>
      refine ⟨Nat.le_refl 1, ?_, ?_, ?_⟩
      · intro op e
        simp [h, eq_comm]
      · intro op e he
        obtain ⟨rfl, rfl⟩ := Event.rejected.inj (List.mem_singleton.1 he)
        rfl
      · simp [h]
  | compiled h => exact tells_of_compiled h _
  | called _ h => exact tells_of_compiled h _
  | batch _ h | logging h | elsewhere h =>
      subst h
      exact tells_nothing rfl _

/-- Two runs that differ in the switch alone, at the start or at any step that moves it, have the
same answers, calls and rejections. Within a run each step tells what it has to, with the switch
where it was left last. -/
theorem logging_transparent_and_exact (ex : Executor σ) (c : State σ) :
    (∀ c' steps steps', Agree c c' → List.Forall₂ Step.Alike steps steps' →
      (run ex c steps).map observed = (run ex c' steps').map observed) ∧
    ∀ before s rest, ∃ after,
      (run ex c (before ++ s :: rest))[before.length]? = some after ∧
        Tells c.options.listMode (switchAfter c.options.logQueries before) s after.1 := by
  constructor
  · intro c' steps steps' hc hs
    exact observed_run ex hc hs
  · intro before s rest
    refine ⟨_, Machine.getElem?_run (step ex) c before s rest, ?_⟩
    have h := (ends_step ex (final ex c before) s).tells
    rwa [final_listMode, final_logQueries] at h

/-- The executor fails, and with the switch on the statement is told all the same. -/
theorem logging_of_failing_executor :
    let quiet : State Recorder := ⟨⟨false, .inline⟩, ⟨{ Recorder.fresh with
      failure := some (.execution "down") }, []⟩⟩
    let loud : State Recorder := { quiet with options := ⟨true, .inline⟩ }
    let select : Step Recorder := .select (.ok (.selection ⟨"t", none, none, none, none, none⟩))
    let delete : Step Recorder := .delete "-" (.ok none)
    (run Recorder.executor quiet [.setLogQueries true, select, delete]).map observed =
        (run Recorder.executor loud [.setLogQueries false, select, delete]).map observed ∧
      ∃ after,
        (run Recorder.executor quiet [.setLogQueries true, select, delete])[1]? = some after ∧
          .compiled .select "select * from t" ∈ after.1.events := by
  intro quiet loud select delete
  obtain ⟨hsame, htells⟩ := logging_transparent_and_exact Recorder.executor quiet
  constructor
  · refine hsame loud _ _ ⟨rfl, rfl⟩ (.cons (.logging true false) ?_)
    exact .cons (.refl select) (.cons (.refl delete) .nil)
  · obtain ⟨after, hafter, h⟩ := htells [.setLogQueries true] select [delete]
    exact ⟨after, hafter, (h.compiled .select _).2 ⟨rfl, _, rfl, by decide⟩⟩

end Exchange

end Querysmith
