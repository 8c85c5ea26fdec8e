import SqlQuery.Proofs.Coherence

/-!
What executing the statement of a builder comes to.

A coherent builder sends the statement that compiling its draft anew gives, and sends it once: an
executor with a state is left in the one that this statement brings it to, and in the one it was in
if there is no statement (`Builder.IsCoherent.run_query`).  With a log for the state, this says what
was sent.  `Builder.Execution.ComesTo` lists the four ways an execution can go, by the text of the
statement, the shape expected of its result and the answer of whoever executes it.  The statement is
kept stored, so an execution that failed can be repeated as it was
(`Builder.IsCoherent.executesOnce`).  Since every call keeps builders coherent, this is so after any
calls (`Session.executesOnce_runUnder`).
-/

namespace SqlQuery

namespace Builder

/-- The ways an execution can go.  An empty statement is not sent.  Any other is sent once, and the
answer decides about the result: an error is passed on as it is, and an output only if it has the
shape that was expected. -/
inductive Execution.ComesTo (sql : String) (shape : Shape) (answer : Except ExecuteError Output) :
    Execution → Prop
  | unsent : sql = "" → ComesTo sql shape answer ⟨[], .error .emptyStatement⟩
  | failed {e : ExecuteError} : sql ≠ "" → answer = .error e →
    ComesTo sql shape answer ⟨[(sql, shape)], .error (.execute e)⟩
  | misshapen {output : Output} : sql ≠ "" → answer = .ok output → output.shape ≠ shape →
    ComesTo sql shape answer
      ⟨[(sql, shape)], .error (.execute (.shapeMismatch shape output.kind))⟩
  | answered {output : Output} : sql ≠ "" → answer = .ok output → output.shape = shape →
    ComesTo sql shape answer ⟨[(sql, shape)], .ok output⟩

namespace Execution.ComesTo

variable {sql : String} {shape : Shape} {answer : Except ExecuteError Output} {e : Execution}

/-- What is sent depends on the statement alone. -/
theorem sent_eq (comes : e.ComesTo sql shape answer) :
    e.sent = if sql = "" then [] else [(sql, shape)] := by
  cases comes with
  | unsent empty => rw [if_pos empty]
  | failed written _ => rw [if_neg written]
  | misshapen written _ _ => rw [if_neg written]
  | answered written _ _ => rw [if_neg written]

/-- An output is handed on if and only if it was answered and has the expected shape. -/
theorem result_eq_ok_iff (comes : e.ComesTo sql shape answer) (output : Output) :
    e.result = .ok output ↔ sql ≠ "" ∧ answer = .ok output ∧ output.shape = shape := by
  cases comes with
  | unsent empty => simp [empty]
  | failed _ isError => simp [isError]
  | misshapen _ isOutput other =>
    simp only [reduceCtorEq, isOutput, Except.ok.injEq, false_iff, not_and]
    rintro - rfl
    exact other
  | answered written isOutput same =>
    simp only [isOutput, Except.ok.injEq]
    constructor
    · rintro rfl
      exact ⟨written, rfl, same⟩
    · exact fun both => both.2.1

end Execution.ComesTo

/-! ## One execution -/

/-- Executing sends the statement that compiling the draft anew gives, at most once, and changes
nothing but that this statement is stored afterwards. -/
structure ExecutesOnce (b : Builder) (executor : Executor) (single : Bool) : Prop where
  replies : ((Reading.execute executor single).run b).2 = .execution (b.execute executor single)
  comesTo : (b.execute executor single).ComesTo (b.draft.compile b.escaper).sql
    (b.draft.resultShape single)
    (executor (b.draft.compile b.escaper).sql (b.draft.resultShape single))
  sent : (b.execute executor single).sent =
    if (b.draft.compile b.escaper).sql = "" then []
    else [((b.draft.compile b.escaper).sql, b.draft.resultShape single)]
  /-- An executor with a state sees one statement too, and its answer is checked alike. -/
  stateful : ∀ (σ : Type) (other : StatefulExecutor σ) (state : σ),
    (b.query other single).run.run state =
      if (b.draft.compile b.escaper).sql = "" then (.error .emptyStatement, state)
      else
        let after := (other (b.draft.compile b.escaper).sql (b.draft.resultShape single)).run.run
          state
        ((after.1.bind (·.checked (b.draft.resultShape single))).mapError .execute, after.2)
  ok : ∀ output, (b.execute executor single).result = .ok output ↔
    (b.draft.compile b.escaper).sql ≠ "" ∧
      executor (b.draft.compile b.escaper).sql (b.draft.resultShape single) = .ok output ∧
      output.shape = b.draft.resultShape single
  draft : ((Reading.execute executor single).run b).1.draft = b.draft
  escaper : ((Reading.execute executor single).run b).1.escaper = b.escaper
  stored : ((Reading.execute executor single).run b).1.stored? =
    some (b.draft.compile b.escaper).sql

variable {b : Builder}

/-- The statement of a coherent builder is the one that compiling anew gives, unless it is empty. -/
theorem IsCoherent.sql?_eq (coherent : b.IsCoherent) :
    b.sql? = if (b.draft.compile b.escaper).sql = "" then .error .emptyStatement
      else .ok (b.draft.compile b.escaper).sql := by
  unfold sql?
  rw [coherent.compilation_eq]
  simp only [String.isEmpty_iff]

/-- An executor with a state is asked about the statement once, if there is one, and about nothing
else; its answer is the result unless it has another shape than the expected one. -/
theorem IsCoherent.run_query (coherent : b.IsCoherent) {σ : Type} (executor : StatefulExecutor σ)
    (single : Bool) (state : σ) :
    (b.query executor single).run.run state =
      if (b.draft.compile b.escaper).sql = "" then (.error .emptyStatement, state)
      else
        let after := (executor (b.draft.compile b.escaper).sql
          (b.draft.resultShape single)).run.run state
        ((after.1.bind (·.checked (b.draft.resultShape single))).mapError .execute, after.2) := by
  unfold query resultShape
  rw [coherent.sql?_eq]
  generalize (b.draft.compile b.escaper).sql = sql
  generalize b.draft.resultShape single = shape
  by_cases empty : sql = ""
  · rw [if_pos empty, if_pos empty]
    rfl
  · rw [if_neg empty, if_neg empty]
    change (ExceptT.adapt QueryError.execute
      (executor sql shape >>= fun output => liftExcept (output.checked shape))).run.run state = _
    rw [ExceptT.run_adapt, ExceptT.run_bind, StateT.run_map, StateT.run_bind]
    rcases (executor sql shape).run.run state with ⟨answer, after⟩
    cases answer with
    | error e => rfl
    | ok output =>
      have checking : (liftExcept (output.checked shape) :
          ExceptT ExecuteError (StateM σ) Output).run.run after =
          (output.checked shape, after) := by
        cases output.checked shape <;> rfl
      exact congrArg (fun p => (p.1.mapError QueryError.execute, p.2)) checking

/-- A log has one more entry with each statement, whatever the answer to it is. -/
theorem run_logged (executor : Executor) (sql : String) (shape : Shape)
    (log : List (String × Shape)) :
    (executor.logged sql shape).run.run log = (executor sql shape, log ++ [(sql, shape)]) := by
  unfold Executor.logged
  cases executor sql shape <;> rfl

theorem IsCoherent.execute_eq (coherent : b.IsCoherent) (executor : Executor) (single : Bool) :
    b.execute executor single =
      if (b.draft.compile b.escaper).sql = "" then ⟨[], .error .emptyStatement⟩
      else
        ⟨[((b.draft.compile b.escaper).sql, b.draft.resultShape single)],
          ((executor (b.draft.compile b.escaper).sql (b.draft.resultShape single)).bind
            (·.checked (b.draft.resultShape single))).mapError .execute⟩ := by
  unfold Builder.execute
  rw [coherent.run_query]
  split
  case isTrue => rfl
  case isFalse => rw [run_logged, List.nil_append]

theorem IsCoherent.comesTo (coherent : b.IsCoherent) (executor : Executor) (single : Bool) :
    (b.execute executor single).ComesTo (b.draft.compile b.escaper).sql
      (b.draft.resultShape single)
      (executor (b.draft.compile b.escaper).sql (b.draft.resultShape single)) := by
  rw [coherent.execute_eq]
  generalize (b.draft.compile b.escaper).sql = sql
  generalize b.draft.resultShape single = shape
  by_cases empty : sql = ""
  · rw [if_pos empty]
    exact .unsent empty
  · rw [if_neg empty]
    cases answer : executor sql shape with
    | error e => exact .failed empty rfl
    | ok output =>
      have fits : output.fits shape = true ↔ output.shape = shape := beq_iff_eq
      by_cases same : output.shape = shape
      · have checked : output.checked shape = .ok output := if_pos (fits.2 same)
        simp only [Except.bind, checked]
        exact .answered empty rfl same
      · have checked : output.checked shape = .error (.shapeMismatch shape output.kind) :=
          if_neg (mt fits.1 same)
        simp only [Except.bind, checked]
        exact .misshapen empty rfl same

/-- The executor is asked about the statement and the expected shape, and about nothing else. -/
theorem IsCoherent.execute_congr (coherent : b.IsCoherent) {executor other : Executor}
    {single : Bool}
    (sameAnswer : (b.draft.compile b.escaper).sql ≠ "" →
      other (b.draft.compile b.escaper).sql (b.draft.resultShape single) =
        executor (b.draft.compile b.escaper).sql (b.draft.resultShape single)) :
    b.execute other single = b.execute executor single := by
  rw [coherent.execute_eq, coherent.execute_eq]
  by_cases empty : (b.draft.compile b.escaper).sql = ""
  · rw [if_pos empty, if_pos empty]
  · rw [if_neg empty, if_neg empty, sameAnswer empty]

theorem IsCoherent.executesOnce (coherent : b.IsCoherent) (executor : Executor) (single : Bool) :
    b.ExecutesOnce executor single := by
  have comes := coherent.comesTo executor single
  constructor
  case replies => rfl
  case comesTo => exact comes
  case sent => exact comes.sent_eq
  case stateful => exact fun _ other state => coherent.run_query other single state
  case ok => exact comes.result_eq_ok_iff
  case draft => exact b.draft_compile
  case escaper => exact b.escaper_compile
  case stored =>
    change b.compile.compiled = _
    rw [compiled_compile, coherent.compilation_eq]

/-- A builder with a statement stored is not changed by reading it. -/
theorem compile_compile (b : Builder) : b.compile.compile = b.compile := by
  have stored := compiled_compile b
  generalize b.compile = after at stored
  unfold compile
  rw [stored]

end Builder

/-! ## Executions after any calls -/

namespace Session

/-- After any calls on a builder that starts from a draft, an execution sends the statement of the
draft and the escaper at hand, with the shape expected of its result, and nothing if that statement
is empty; what comes of it is decided by the answer to that statement alone.  Whatever comes of it,
the draft and the escaper are as before and the statement is stored, so the next execution sends the
same statement to whichever executor, and leaves the builder as it is. -/
theorem executesOnce_runUnder (d : Draft) (escaper : Escaper) (calls : List (AliasMode × Call))
    (executor : Executor) (single : Bool) :
    ∀ b ∈ (runUnder ⟨{ draft := d, escaper }, []⟩ calls).builders,
      b.ExecutesOnce executor single ∧
        (∀ other : Executor,
          ((b.draft.compile b.escaper).sql ≠ "" →
            other (b.draft.compile b.escaper).sql (b.draft.resultShape single) =
              executor (b.draft.compile b.escaper).sql (b.draft.resultShape single)) →
          b.execute other single = b.execute executor single) ∧
        ∀ other : Executor,
          ((Reading.execute executor single).run b).1.ExecutesOnce other single ∧
            (((Reading.execute executor single).run b).1.execute other single).sent =
              (b.execute executor single).sent ∧
            ((Reading.execute other single).run ((Reading.execute executor single).run b).1).1 =
              ((Reading.execute executor single).run b).1 := by
  intro b member
  have coherent := isCoherent_of_mem_builders d escaper calls b member
  have once := coherent.executesOnce executor single
  refine ⟨once, fun other sameAnswer => coherent.execute_congr sameAnswer, ?_⟩
  intro other
  have again := coherent.compile.executesOnce other single
  refine ⟨again, ?_, b.compile_compile⟩
  have sent := again.sent
  rw [Builder.draft_compile, Builder.escaper_compile, ← once.sent] at sent
  exact sent

/-- Calls that read the statement before it is changed for the last time. -/
def insertedLate : List (AliasMode × Call) :=
  [(.auto, .edit (.declareTables ["users"])),
    (.auto, .edit (.insertRows [.ofList [("id", .natural 1)]])), (.auto, .read .compile),
    (.auto, .edit (.insertRows [.ofList [("id", .natural 2)]]))]

/-- An executor that finds no row, whatever it is asked for. -/
def findsNoRow : Executor := fun _ _ => .ok (.row none)

theorem executesOnce_runUnder_insertedLate :
    let s := runUnder ⟨.empty .auto, []⟩ insertedLate
    s.current ∈ s.builders ∧ s.current.ExecutesOnce findsNoRow true ∧
      (s.current.execute findsNoRow true).sent =
        [("INSERT INTO users (id) VALUES ('1'), ('2')", .none)] ∧
      (s.current.execute findsNoRow true).result =
        .error (.execute (.shapeMismatch .none "Row")) :=
  ⟨List.mem_cons_self,
    (executesOnce_runUnder (.empty .auto) .mysql insertedLate findsNoRow true _
      List.mem_cons_self).1,
    by decide +kernel, by rfl⟩

end Session

end SqlQuery
