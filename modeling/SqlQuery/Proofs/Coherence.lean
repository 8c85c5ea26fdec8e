import SqlQuery.Session

/-!
What a builder has stored is what compiling its draft anew gives.

`Builder.IsCoherent` says so of the text that is stored and of the references beside it.  An edit
either drops the text or changes nothing at all (`Edit.forgets`), and a reading stores what it has
compiled, so every call of a session keeps all its builders coherent, the saved ones included.
A coherent builder answers every reading of the statement as one that has stored nothing
(`Builder.IsCoherent.answersAnew`), and so does every builder at every point of a run.
-/

namespace SqlQuery

namespace Builder

/-- A stored text is the one that the draft and the escaper at hand compile to, and the references
stored beside it are those of the same compilation. -/
structure IsCoherent (b : Builder) : Prop where
  text : ∀ sql, b.compiled = some sql → sql = (b.draft.compile b.escaper).sql
  references : ∀ sql, b.compiled = some sql → b.counted = (b.draft.compile b.escaper).aliases

/-- A builder of the same draft with the same escaper that has stored nothing. -/
def anew (b : Builder) : Builder := { draft := b.draft, escaper := b.escaper }

/-- Whatever is stored, every reading of the statement has the answer that compiling the draft
anew gives. -/
structure AnswersAnew (b : Builder) : Prop where
  compile : (Reading.compile.run b).2 = .text (b.draft.compile b.escaper).sql
  recompile : (Reading.recompile.run b).2 = .text (b.draft.compile b.escaper).sql
  sql : (Reading.sql.run b).2 =
    .sql (if (b.draft.compile b.escaper).sql = "" then .error .emptyStatement
      else .ok (b.draft.compile b.escaper).sql)
  referenceCount : ∀ table, ((Reading.referenceCount table).run b).2 =
    .count ((b.draft.compile b.escaper).aliases.referenceCount table)
  execute : ∀ executor single, ((Reading.execute executor single).run b).2 =
    ((Reading.execute executor single).run b.anew).2

/-! ## What keeps a builder coherent -/

variable {b : Builder}

/-- Where nothing is stored, nothing can be wrong. -/
theorem IsCoherent.of_forgotten (forgotten : b.compiled = none) : b.IsCoherent := by
  constructor <;> intro sql stored <;> rw [forgotten] at stored <;> cases stored

theorem IsCoherent.compile (coherent : b.IsCoherent) : b.compile.IsCoherent := by
  unfold Builder.compile
  cases stored : b.compiled with
  | some sql => exact coherent
  | none =>
    constructor
    · intro sql same
      exact (Option.some.inj same).symm
    · intro sql _
      rfl

theorem isCoherent_recompile (b : Builder) : b.recompile.IsCoherent :=
  IsCoherent.compile (.of_forgotten rfl)

/-- What a coherent builder takes for its statement is the statement of its draft. -/
theorem IsCoherent.compilation_eq (coherent : b.IsCoherent) :
    b.compilation = b.draft.compile b.escaper := by
  have stored := compiled_compile b
  have after := coherent.compile
  have text := after.text _ stored
  have references := after.references _ stored
  rw [draft_compile, escaper_compile] at text references
  have same : b.compilation = ⟨b.compilation.sql, b.compile.counted⟩ := rfl
  rw [same, text, references]

theorem IsCoherent.answersAnew (coherent : b.IsCoherent) : b.AnswersAnew := by
  have compilation := coherent.compilation_eq
  have anew : b.anew.compilation = b.draft.compile b.escaper :=
    IsCoherent.compilation_eq (b := b.anew) (.of_forgotten rfl)
  have recompilation := (isCoherent_recompile b).compilation_eq
  constructor
  case compile =>
    change Reply.text b.compilation.sql = _
    rw [compilation]
  case recompile =>
    change Reply.text b.recompile.compilation.sql = _
    rw [recompilation]
    rfl
  case sql =>
    change Reply.sql b.sql? = _
    unfold sql?
    rw [compilation]
    simp only [String.isEmpty_iff]
  case referenceCount =>
    intro table
    change Reply.count (b.compilation.aliases.referenceCount table) = _
    rw [compilation]
  case execute =>
    intro executor single
    change Reply.execution (b.execute executor single) = .execution (b.anew.execute executor single)
    have sql : b.sql? = b.anew.sql? := by
      unfold sql?
      rw [compilation, anew]
    have shape : b.resultShape single = b.anew.resultShape single := rfl
    unfold Builder.execute query
    rw [sql, shape]

end Builder

/-! ## Calls -/

/-- An edit drops the stored text, except that one without effect changes nothing at all. -/
theorem Edit.forgets (mode : AliasMode) (b : Builder) (e : Edit) :
    (e.apply mode b).compiled = none ∨ e.apply mode b = b := by
  have unlessEmpty (b : Builder) (conditions : List Condition) (options : GroupOptions) :
      (b.addWhere conditions options).compiled = none ∨ b.addWhere conditions options = b := by
    unfold Builder.addWhere
    split
    · exact .inr rfl
    · exact .inl rfl
  -- Where another edit comes first the text is gone, whether conditions follow or not.
  have afterEdit (b : Builder) (forgotten : b.compiled = none) (conditions : List Condition) :
      (b.addWhere conditions).compiled = none := by
    rcases unlessEmpty b conditions {} with dropped | same
    · exact dropped
    · rw [same, forgotten]
  cases e with
  | addWhere options conditions => exact unlessEmpty b conditions options
  | addHaving options conditions =>
    change (b.addHaving conditions options).compiled = none ∨ b.addHaving conditions options = b
    unfold Builder.addHaving
    split
    · exact .inr rfl
    · exact .inl rfl
  | update r conditions => exact .inl (afterEdit _ rfl conditions)
  | delete conditions table => exact .inl (afterEdit _ rfl conditions)
  | _ => exact .inl rfl

theorem Edit.isCoherent_apply (mode : AliasMode) {b : Builder} (coherent : b.IsCoherent)
    (e : Edit) : (e.apply mode b).IsCoherent := by
  rcases e.forgets mode b with forgotten | same
  · exact .of_forgotten forgotten
  · rw [same]
    exact coherent

theorem Reading.isCoherent_run {b : Builder} (coherent : b.IsCoherent) (r : Reading) :
    (r.run b).1.IsCoherent := by
  cases r with
  | aliasFor table =>
    change (b.aliasFor table).1.IsCoherent
    unfold Builder.aliasFor
    split
    · exact coherent
    · exact .of_forgotten rfl
  | recompile => exact b.isCoherent_recompile
  | referenceCount table => exact coherent.compile
  | compile => exact coherent.compile
  | sql => exact coherent.compile
  | execute executor single => exact coherent.compile
  | stored => exact coherent
  | resultShape single => exact coherent
  | draft => exact coherent

/-! ## Sessions -/

namespace Session

/-- The builders that the session can come back to, and the one it is at. -/
def builders (s : Session) : List Builder := s.current :: s.saved

theorem current_mem_builders (s : Session) : s.current ∈ s.builders := List.mem_cons_self

/-- A call keeps what its edit and all readings keep, of the saved builders too. -/
theorem forall_builders_step {P : Builder → Prop} {mode : AliasMode} {call : Call}
    (edit : ∀ e, call = .edit e → ∀ b, P b → P (e.apply mode b))
    (read : ∀ (r : Reading) b, P b → P (r.run b).1) {s : Session} (start : ∀ b ∈ s.builders, P b) :
    ∀ b ∈ (s.step mode call).1.builders, P b := by
  have current := start s.current List.mem_cons_self
  have saved : ∀ b ∈ s.saved, P b := fun b member => start b (List.mem_cons_of_mem _ member)
  cases call with
  | edit e => exact List.forall_mem_cons.2 ⟨edit e rfl _ current, saved⟩
  | read r => exact List.forall_mem_cons.2 ⟨read r _ current, saved⟩
  | save => exact List.forall_mem_cons.2 ⟨current, List.forall_mem_cons.2 ⟨current, saved⟩⟩
  | restore =>
    cases kept : s.saved with
    | nil =>
      have same : (s.step mode .restore).1 = s := by simp [step, kept]
      rw [same]
      exact start
    | cons b rest =>
      have back : (s.step mode .restore).1.builders = s.saved := by simp [step, kept, builders]
      rw [back]
      exact saved

/-- A run keeps what its edits and all readings keep. -/
theorem forall_builders_runUnder {P : Builder → Prop} {calls : List (AliasMode × Call)}
    (edit : ∀ mode e, (mode, .edit e) ∈ calls → ∀ b, P b → P (e.apply mode b))
    (read : ∀ (r : Reading) b, P b → P (r.run b).1) {s : Session} (start : ∀ b ∈ s.builders, P b) :
    ∀ b ∈ (s.runUnder calls).builders, P b := by
  induction calls generalizing s with
  | nil => exact start
  | cons call calls ih =>
    refine ih (fun mode e member => edit mode e (List.mem_cons_of_mem _ member)) ?_
    refine forall_builders_step ?_ read start
    rintro e isEdit
    exact edit call.1 e (by rw [← isEdit]; exact List.mem_cons_self)

/-- A run keeps all builders coherent. -/
theorem isCoherent_runUnder {s : Session} (calls : List (AliasMode × Call))
    (coherent : ∀ b ∈ s.builders, b.IsCoherent) :
    ∀ b ∈ (s.runUnder calls).builders, b.IsCoherent :=
  forall_builders_runUnder (fun mode e _ _ before => e.isCoherent_apply mode before)
    (fun r _ before => r.isCoherent_run before) coherent

/-- Nothing is stored in a builder that starts from a draft, so all builders of its run are
coherent. -/
theorem isCoherent_of_mem_builders (d : Draft) (escaper : Escaper)
    (calls : List (AliasMode × Call)) :
    ∀ b ∈ (runUnder ⟨{ draft := d, escaper }, []⟩ calls).builders, b.IsCoherent := by
  refine isCoherent_runUnder calls ?_
  intro start isStart
  obtain rfl := List.mem_singleton.1 isStart
  exact .of_forgotten rfl

/-- After any calls on a builder that starts from a draft, in any order, whatever is stored in it or
in a builder saved on the way is what compiling its draft anew gives, and every reading of the
statement has the answer of that. -/
theorem answers_runUnder (d : Draft) (escaper : Escaper) (calls : List (AliasMode × Call)) :
    ∀ b ∈ (runUnder ⟨{ draft := d, escaper }, []⟩ calls).builders,
      b.IsCoherent ∧ b.AnswersAnew := by
  intro b member
  have coherent := isCoherent_of_mem_builders d escaper calls b member
  exact ⟨coherent, coherent.answersAnew⟩

/-- Calls that read between edits, save a builder with a text stored, and come back to it. -/
def interleaved : List (AliasMode × Call) :=
  [(.auto, .edit (.declareTables ["users"])),
    (.always, .edit (.insertRows [.ofList [("id", .natural 1)]])), (.auto, .read .compile),
    (.auto, .save), (.auto, .read (.aliasFor "tags")),
    (.auto, .edit (.insertRows [.ofList [("id", .natural 2)]])),
    (.auto, .read (.referenceCount "users")), (.auto, .edit (.addWhere {} [])),
    (.auto, .read .sql), (.tableNames, .restore)]

theorem answers_runUnder_interleaved :
    let s := runUnder ⟨.empty .auto, []⟩ interleaved
    s.current ∈ s.builders ∧ s.current.stored? = some "INSERT INTO users (id) VALUES ('1')" ∧
      s.current.IsCoherent ∧ s.current.AnswersAnew :=
  ⟨List.mem_cons_self, by decide +kernel,
    answers_runUnder (.empty .auto) .mysql interleaved _ List.mem_cons_self⟩

end Session

end SqlQuery
