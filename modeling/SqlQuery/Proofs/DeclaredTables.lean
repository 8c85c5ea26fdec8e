import Mathlib.Data.List.DropRight
import SqlQuery.Proofs.TableEdits

/-!
The tables that the calls of a session declare.

A table is declared under its trimmed name, once, and registered with it, and a join declares the
table that it extends and registers the one that it brings in.  `Draft.TablesAreKnown` collects what
this comes to, and `Session.tablesAreKnown_runUnder` shows it of every draft that a new builder is
led to, whatever the calls are given.
-/

namespace SqlQuery

/-! ## Trimmed texts -/

namespace Text

theorem trimEnd_eq_rdropWhile (s : List Char) : trimEnd s = s.rdropWhile isBlank := rfl

/-- What is left of a text at its end starts as the text does, so nothing is left to be cut off at
the start. -/
theorem trimStart_trimChars (s : List Char) : trimStart (trimChars s) = trimChars s := by
  unfold trimChars
  rw [trimEnd_eq_rdropWhile]
  cases left : (trimStart s).rdropWhile isBlank with
  | nil => rfl
  | cons c rest =>
    rcases List.rdropWhile_prefix isBlank (trimStart s) with ⟨cutOff, parts⟩
    rw [left, List.cons_append] at parts
    have present := List.head?_dropWhile_not isBlank s
    rw [← trimStart, ← parts] at present
    exact trimStart_eq_self present

theorem trimEnd_trimEnd (s : List Char) : trimEnd (trimEnd s) = trimEnd s :=
  List.rdropWhile_idempotent isBlank s

/-- There is nothing left to be cut off a trimmed text. -/
theorem trimChars_trimChars (s : List Char) : trimChars (trimChars s) = trimChars s := by
  rw [trimChars, trimStart_trimChars]
  exact trimEnd_trimEnd (trimStart s)

/-- Trimming twice is trimming once. -/
theorem trim_trim (s : String) : trim (trim s) = trim s := by
  rw [trim, toList_trim, trimChars_trimChars]
  rfl

end Text

/-! ## Lists without repetitions -/

namespace Draft

/-- A text that is added is in the list, and so is what was there. -/
theorem mem_addNew {texts : List String} {text other : String} :
    other ∈ addNew texts text ↔ other ∈ texts ∨ other = text := by
  by_cases member : text ∈ texts
  · rw [addNew_of_mem member]
    constructor
    · exact .inl
    · rintro (listed | rfl)
      · exact listed
      · exact member
  · rw [addNew_of_not_mem member]
    simp

theorem mem_foldl_addNew {texts added : List String} {other : String} :
    other ∈ added.foldl addNew texts ↔ other ∈ texts ∨ other ∈ added := by
  induction added generalizing texts with
  | nil => simp
  | cons text added ih => rw [List.foldl_cons, ih, mem_addNew, or_assoc, List.mem_cons]

theorem nodup_foldl_addNew {texts : List String} (different : texts.Nodup) (added : List String) :
    (added.foldl addNew texts).Nodup := by
  induction added generalizing texts with
  | nil => exact different
  | cons text added ih => exact ih (nodup_addNew different text)

/-! ## Drafts whose tables are known -/

/-- The declared tables have trimmed names, each once, and are known to the alias table.  So are the
tables that joins bring in, and those that joins extend are declared. -/
structure TablesAreKnown (d : Draft) : Prop where
  sound : d.aliases.IsSound
  distinct : d.tables.Nodup
  trimmed : ∀ table ∈ d.tables, Text.trim table = table
  named : ∀ table ∈ d.tables, table ≠ ""
  known : ∀ table ∈ d.tables, table ∈ d.aliases.entries.map AliasEntry.name
  /-- The table that a join extends is declared, unless the join names it by blanks. -/
  left : ∀ j ∈ d.joins, Text.trim j.left = "" ∨ Text.trim j.left ∈ d.tables
  right : ∀ j ∈ d.joins, ∀ table, j.right? = some table →
    table ∈ d.aliases.entries.map AliasEntry.name

namespace TablesAreKnown

variable {d : Draft}

/-- Only the alias table, the declared tables and the joins matter. -/
theorem congr (tables : d.TablesAreKnown) {other : Draft} (same : d.SameTables other) :
    other.TablesAreKnown := by
  constructor <;> simp only [same.aliases, same.tables, same.joins]
  · exact tables.sound
  · exact tables.distinct
  · exact tables.trimmed
  · exact tables.named
  · exact tables.known
  · exact tables.left
  · exact tables.right

theorem empty (mode : AliasMode) : (Draft.empty mode).TablesAreKnown := by
  constructor <;> simp [Draft.empty]
  exact AliasTable.isSound_run []

/-- The tables stay known when the alias table gets to know more. -/
theorem of_names (tables : d.TablesAreKnown) {t : AliasTable} (sound : t.IsSound)
    (more : ∀ name ∈ d.aliases.entries.map AliasEntry.name, name ∈ t.entries.map AliasEntry.name) :
    TablesAreKnown { d with aliases := t } where
  sound := sound
  distinct := tables.distinct
  trimmed := tables.trimmed
  named := tables.named
  known table declared := more table (tables.known table declared)
  left := tables.left
  right j member table brings := more table (tables.right j member table brings)

/-- Registering a table leaves the declared ones known. -/
theorem register (tables : d.TablesAreKnown) (name : String) :
    TablesAreKnown { d with aliases := d.aliases.register name } := by
  refine tables.of_names (tables.sound.register name) ?_
  intro known listed
  rw [AliasTable.names_register]
  exact List.mem_append_left _ listed

/-- Choosing an alias leaves the declared tables known, since it takes no name away. -/
theorem setAlias (tables : d.TablesAreKnown) (name aliasName : String) :
    TablesAreKnown { d with aliases := d.aliases.setAlias name aliasName } := by
  refine tables.of_names (tables.sound.setAlias name aliasName) ?_
  intro known listed
  rw [tables.sound.names_setAlias]
  exact List.mem_append_left _ listed

/-- A declared table is registered under its trimmed name. -/
theorem declare (tables : d.TablesAreKnown) (table : String) :
    (d.declare table).TablesAreKnown := by
  rcases d.declare_eq table with ⟨same, -⟩ | ⟨named, declared⟩
  · rw [same]
    exact tables
  · have registered := tables.register (Text.trim table)
    rw [declared]
    refine ⟨registered.sound, nodup_addNew tables.distinct _, ?_, ?_, ?_, ?_, registered.right⟩
    · intro other member
      rcases mem_addNew.1 member with old | rfl
      · exact tables.trimmed other old
      · exact Text.trim_trim table
    · intro other member
      rcases mem_addNew.1 member with old | rfl
      · exact tables.named other old
      · exact named
    · intro other member
      rcases mem_addNew.1 member with old | rfl
      · exact registered.known other old
      · exact d.aliases.mem_names_register _
    · intro j member
      rcases tables.left j member with blank | declared
      · exact .inl blank
      · exact .inr (mem_addNew.2 (.inl declared))

/-- A join brings in a table that is registered then. -/
theorem addJoin (tables : d.TablesAreKnown) {j : Join}
    (left : Text.trim j.left = "" ∨ Text.trim j.left ∈ d.tables) :
    TablesAreKnown
      { d with
        aliases := j.right?.elim d.aliases d.aliases.register
        joins := d.joins ++ [j] } := by
  have registered :
      TablesAreKnown { d with aliases := j.right?.elim d.aliases d.aliases.register } := by
    cases j.right? with
    | none => exact tables
    | some right => exact tables.register right
  have known : ∀ table, j.right? = some table →
      table ∈ (j.right?.elim d.aliases d.aliases.register).entries.map AliasEntry.name := by
    intro table brings
    rw [brings]
    exact d.aliases.mem_names_register table
  refine ⟨registered.sound, tables.distinct, tables.trimmed, tables.named, registered.known, ?_, ?_⟩
  · intro i member
    rcases List.mem_append.1 member with old | new
    · exact registered.left i old
    · rw [List.mem_singleton.1 new]
      exact left
  · intro i member
    rcases List.mem_append.1 member with old | new
    · exact registered.right i old
    · rw [List.mem_singleton.1 new]
      exact known

/-- A join registers the table it brings in. -/
theorem join (tables : d.TablesAreKnown) (j : Join) :
    (TableStep.apply d (.join j)).TablesAreKnown := by
  have left : Text.trim j.left = "" ∨ Text.trim j.left ∈ (d.declare j.left).tables := by
    rcases d.declare_eq j.left with ⟨-, blank⟩ | ⟨-, declared⟩
    · exact .inl blank
    · rw [declared]
      exact .inr (mem_addNew.2 (.inr rfl))
  have added := (tables.declare j.left).addJoin left
  rw [joins_declare] at added
  exact added

/-- Each of the steps that edits tables keeps them known. -/
theorem apply (tables : d.TablesAreKnown) (step : TableStep) : (step.apply d).TablesAreKnown := by
  cases step with
  | declare table => exact tables.declare table
  | register table => exact tables.register table
  | join j => exact tables.join j
  | setAlias table aliasName => exact tables.setAlias table aliasName
  | clear mode => exact .empty mode

end TablesAreKnown

end Draft

/-! ## Sessions -/

/-- Whatever the calls on a new builder are, the tables of its draft are known. -/
theorem Session.tablesAreKnown_runUnder (mode : AliasMode) (escaper : Escaper)
    (calls : List (AliasMode × Call)) :
    ∀ b ∈ (runUnder ⟨{ draft := .empty mode, escaper }, []⟩ calls).builders,
      b.draft.TablesAreKnown := by
  refine forall_builders_of_tableSteps (P := Draft.TablesAreKnown) ?_ ?_ ?_ ?_
  · exact fun same tables => tables.congr same
  · exact fun _ _ _ step _ d tables => tables.apply step
  · exact fun table d tables => tables.register table
  · intro b isStart
    rw [List.mem_singleton.1 isStart]
    exact .empty mode

end SqlQuery
