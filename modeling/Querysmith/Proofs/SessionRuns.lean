import Querysmith.Session

namespace Querysmith.Session

inductive Verdict where
  | refused (failure : ReadFailure)
  | called (call : Call)
  | compiled (s : Statement)
  | adjusted
deriving DecidableEq

namespace Verdict

def ofStatement (f : Statement → Verdict) : Operand Statement → Verdict
  | .ok s => f s
  | .error failure => refused failure

def calls : Verdict → List Call
  | called call => [call]
  | refused _ | compiled _ | adjusted => []

end Verdict

namespace Step

def verdict (mode : ListMode) : Step → Verdict
  | select query | selectOrEmpty query =>
      .ofStatement (.called ∘ .query) (query.bind fun q => Operand.ofResult (q.compile mode))
  | selectJson document =>
      .ofStatement (.called ∘ .query)
        (document.bind fun j => Operand.ofResult ((Query.ofJson j).bind (Query.compile mode)))
  | insert table record =>
      .ofStatement (.called ∘ .write) (record.bind fun r => .ok (Statement.insert table r))
  | update table changes filter =>
      .ofStatement (.called ∘ .write)
        (changes.bind fun r => filter.bind fun f =>
          Operand.ofResult (Statement.update mode table r f))
  | delete table filter =>
      .ofStatement (.called ∘ .write)
        (filter.bind fun f => Operand.ofResult (Statement.delete mode table f))
  | batch sql => .called (.batch sql)
  | compile query => .ofStatement .compiled (query.bind fun q => Operand.ofResult (q.compile mode))
  | setLogQueries _ | fail _ | respond _ _ => .adjusted

def shown : Step → ReadFailure → Operand Answer
  | selectOrEmpty (.ok _), _ => .ok (.rows .empty)
  | _, failure => .error failure

def answer (r : Recorder) : Step → Answer
  | insert _ _ => .inserted r.outcome.lastInsertId
  | update _ _ _ | delete _ _ => .changed r.outcome.rowsAffected
  | select _ | selectOrEmpty _ | selectJson _ => .rows r.rows
  | batch _ | compile _ | setLogQueries _ | fail _ | respond _ _ => .done

end Step

/-- The report and the state after a step with a given verdict. A refused request leaves everything
as it was; a call is recorded once, whether or not it fails. New answers whose rows could not be
read have no other effect than their outcome. -/
def Follows (c : State) (shown : ReadFailure → Operand Answer) (answer : Answer)
    (after : Report × State) : Verdict → Prop
  | .refused failure => after.1.result = shown failure ∧ after.2 = c
  | .called call =>
      after.1.result =
        (match c.state.failure with
          | some e => shown (.rejected e)
          | none => .ok answer) ∧
      after.2 = { c with state := { c.state with calls := c.state.calls ++ [call] } }
  | .compiled s => after.1.result = .ok (.statement s) ∧ after.2 = c
  | .adjusted =>
      after.2.state.calls = c.state.calls ∧ after.2.options.listMode = c.options.listMode ∧
        ∀ failure, after.1.result = .error failure →
          after.2 = { c with state := { c.state with outcome := after.2.state.outcome } }

variable {α β : Type} {c : State} {shown : ReadFailure → Operand Answer} {answer : Answer}

theorem Follows.calls {after : Report × State} {v : Verdict}
    (h : Follows c shown answer after v) : after.2.state.calls = c.state.calls ++ v.calls := by
  cases v with
  | refused failure => rw [h.2, Verdict.calls, List.append_nil]
  | called call => rw [h.2, Verdict.calls]
  | compiled s => rw [h.2, Verdict.calls, List.append_nil]
  | adjusted => rw [h.1, Verdict.calls, List.append_nil]

theorem Follows.listMode {after : Report × State} {v : Verdict}
    (h : Follows c shown answer after v) : after.2.options.listMode = c.options.listMode := by
  cases v with
  | refused failure => rw [h.2]
  | called call => rw [h.2]
  | compiled s => rw [h.2]
  | adjusted => exact h.2.1

theorem follows_reading {operand : Operand α} {act : α → Report × State}
    {f : Statement → Verdict} {statement : α → Operand Statement}
    (refuses : ∀ failure, operand = .error failure → shown failure = .error failure)
    (acts : ∀ a, operand = .ok a → Follows c shown answer (act a) (.ofStatement f (statement a))) :
    Follows c shown answer (reading c operand act)
      (.ofStatement f (operand.bind statement)) := by
  cases operand with
  | error failure => exact ⟨(refuses failure rfl).symm, rfl⟩
  | ok a => exact acts a rfl

theorem follows_perform (call : Statement → Call) (a : Recorder → α) (f : α → Answer)
    (r : Request) :
    Follows c .error (f (a c.state))
      (answered f (c.perform (fun state s => state.answer (call s) (a state)) r))
      (.ofStatement (.called ∘ call) (Operand.ofResult (r.compile c.options.listMode))) := by
  cases h : r.compile c.options.listMode with
  | error e =>
      rw [Client.perform_error h]
      exact ⟨rfl, rfl⟩
  | ok s =>
      rw [Client.perform_ok h]
      refine ⟨?_, rfl⟩
      cases hf : c.state.failure with
      | none => simp [Recorder.answer, hf]
      | some e => simp [Recorder.answer, hf]

theorem answered_map (f : β → Answer) (g : α → β) (reply : Reply Recorder α) :
    answered f { reply with result := reply.result.map g } = answered (f ∘ g) reply := by
  obtain ⟨result, events, client⟩ := reply
  cases result <;> rfl

theorem follows_orEmpty {reply : Reply Recorder ResultSet} {v : Verdict}
    (h : Follows c .error answer (answered .rows reply) v) :
    Follows c (fun _ => .ok (.rows .empty)) answer (answered .rows (orEmpty reply)) v := by
  obtain ⟨result, events, client⟩ := reply
  cases result with
  | ok rows =>
      cases v with
      | refused failure => exact absurd h.1 (by simp)
      | called call =>
          refine ⟨h.1.trans ?_, h.2⟩
          cases hf : c.state.failure with
          | none => rfl
          | some e =>
              have hr := h.1
              simp [hf] at hr
      | compiled s => exact h
      | adjusted => exact h
  | error e =>
      cases v with
      | refused failure => exact ⟨rfl, h.2⟩
      | called call =>
          refine ⟨?_, h.2⟩
          cases hf : c.state.failure with
          | none =>
              have hr := h.1
              simp [hf] at hr
          | some e => rfl
      | compiled s =>
          have hr := h.1
          simp at hr
      | adjusted => exact ⟨h.1, h.2.1, by rintro _ ⟨⟩⟩

theorem step_follows (c : State) (s : Step) :
    Follows c s.shown (s.answer c.state) (step c s) (s.verdict c.options.listMode) := by
  cases s with
  | select query =>
      refine follows_reading (fun _ _ => rfl) fun q _ => ?_
      exact follows_perform .query Recorder.rows .rows (.select q)
  | selectOrEmpty query =>
      refine follows_reading (fun _ h => by rw [h]; rfl) fun q h => ?_
      rw [h]
      exact follows_orEmpty (follows_perform .query Recorder.rows .rows (.select q))
  | selectJson document =>
      refine follows_reading (fun _ _ => rfl) fun j _ => ?_
      cases h : Query.ofJson j with
      | error e =>
          simp only [Client.selectJson, h]
          exact ⟨rfl, rfl⟩
      | ok q =>
          simp only [Client.selectJson, h]
          exact follows_perform .query Recorder.rows .rows (.select q)
  | insert table record =>
      refine follows_reading (fun _ _ => rfl) fun r _ => ?_
      rw [Client.insert, answered_map]
      exact follows_perform .write Recorder.outcome _ (.insert table r)
  | update table changes filter =>
      refine follows_reading (fun _ _ => rfl) fun r _ => ?_
      refine follows_reading (fun _ _ => rfl) fun f _ => ?_
      rw [Client.update, answered_map]
      exact follows_perform .write Recorder.outcome _ (.update table r f)
  | delete table filter =>
      refine follows_reading (fun _ _ => rfl) fun f _ => ?_
      rw [Client.delete, answered_map]
      exact follows_perform .write Recorder.outcome _ (.delete table f)
  | batch sql =>
      refine ⟨?_, rfl⟩
      simp only [step, Client.batch, Recorder.executor, Recorder.answer, answered]
      cases c.state.failure <;> rfl
  | compile query =>
      refine follows_reading (fun _ _ => rfl) fun q _ => ?_
      simp only [Client.compile, answered, Request.compile]
      cases q.compile c.options.listMode with
      | error e => exact ⟨rfl, rfl⟩
      | ok s => exact ⟨rfl, rfl⟩
  | setLogQueries on => exact ⟨rfl, rfl, by rintro _ ⟨⟩⟩
  | fail error => exact ⟨rfl, rfl, by rintro _ ⟨⟩⟩
  | respond outcome rows =>
      cases rows with
      | error failure => exact ⟨rfl, rfl, fun _ _ => rfl⟩
      | ok rows => exact ⟨rfl, rfl, by rintro _ ⟨⟩⟩

theorem final_listMode (c : State) (steps : List Step) :
    (final c steps).options.listMode = c.options.listMode :=
  Machine.final_induction (P := fun reached => reached.options.listMode = c.options.listMode)
    (fun reached s h => (step_follows reached s).listMode.trans h) rfl steps

theorem final_calls (c : State) (steps : List Step) :
    (final c steps).state.calls =
      c.state.calls ++ steps.flatMap fun s => (s.verdict c.options.listMode).calls := by
  induction steps generalizing c with
  | nil => exact (List.append_nil _).symm
  | cons s steps ih =>
      have hs := step_follows c s
      calc (final c (s :: steps)).state.calls
          = (step c s).2.state.calls ++
              steps.flatMap fun s' => (s'.verdict (step c s).2.options.listMode).calls := ih _
        _ = (c.state.calls ++ (s.verdict c.options.listMode).calls) ++
              steps.flatMap fun s' => (s'.verdict c.options.listMode).calls := by
            rw [hs.calls, hs.listMode]
        _ = _ := by rw [List.flatMap_cons, List.append_assoc]

/-- After any steps the record holds, in their order, one call for each batch and for each statement
that could be compiled in the list mode of the start. Each report is the one its step is due at its
place. -/
theorem calls_of_steps (c : State) :
    (∀ steps,
      (final c steps).state.calls =
          c.state.calls ++ steps.flatMap (fun s => (s.verdict c.options.listMode).calls) ∧
        (final c steps).options.listMode = c.options.listMode) ∧
      ∀ before s rest,
        (run c (before ++ s :: rest))[before.length]? = some (step (final c before) s) ∧
          Follows (final c before) s.shown (s.answer (final c before).state)
            (step (final c before) s) (s.verdict c.options.listMode) := by
  refine ⟨fun steps => ⟨final_calls c steps, final_listMode c steps⟩, ?_⟩
  intro before s rest
  refine ⟨Machine.getElem?_run step c before s rest, ?_⟩
  have h := step_follows (final c before) s
  rwa [final_listMode] at h

end Querysmith.Session
