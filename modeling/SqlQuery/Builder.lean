import SqlQuery.Outcome
import SqlQuery.Statement

/-!
The builder: a draft that is edited call by call, and the compiled statement of its last reading.

Every edit drops the text of the compiled statement, so one that is stored is always that of the
draft and the escaper at hand. The references counted with it are only overwritten, and mean nothing
while no text is stored.
-/

namespace SqlQuery

/-- A draft under way. -/
structure Builder where
  draft : Draft
  escaper : Escaper := .mysql
  /-- The text of the statement as it was last compiled, if nothing was edited since. -/
  compiled : Option String := none
  /-- The alias table with the references counted when the statement was last compiled. -/
  counted : AliasTable := {}

namespace Builder

/-- A builder of an empty draft. -/
def empty (mode : AliasMode) (escaper : Escaper := .mysql) : Builder :=
  { draft := .empty mode, escaper }

/-- Continues a draft, with the usual escaper. -/
def ofDraft (d : Draft) : Builder := { draft := d }

/-! ## Edits -/

/-- Edits the draft. -/
def edit (b : Builder) (f : Draft → Draft) : Builder :=
  { b with draft := f b.draft, compiled := none }

/-- Escapes values in another way. -/
def setEscaper (b : Builder) (escaper : Escaper) : Builder :=
  { b with escaper, compiled := none }

/-- Starts over with an empty draft, and keeps the escaper. -/
def reset (b : Builder) (mode : AliasMode) : Builder := .empty mode b.escaper

/-- Declares the tables of the given lists. -/
def declareTables (b : Builder) (names : List String) : Builder :=
  b.edit fun d => (Text.allItems names).foldl Draft.declare d

/-- Selects the columns of the given lists, for a table that is declared. -/
def select (b : Builder) (columns : List String) (table : String) : Builder :=
  b.edit fun d =>
    { d.declare table with
      action := some .select
      columns := Column.addAllTo [] (Column.parseAll (some table) columns) }

/-- Replaces the select list. -/
def setColumns (b : Builder) (columns : List String) : Builder :=
  b.edit fun d => { d with columns := Column.addAllTo [] (Column.parseAll none columns) }

/-- Adds to the select list. -/
def addColumns (b : Builder) (columns : List String) : Builder :=
  b.edit fun d => { d with columns := Column.addAllTo d.columns (Column.parseAll none columns) }

/-- Adds columns of a table, which is declared, to the select list. -/
def addColumnsOf (b : Builder) (table : String) (columns : List String) : Builder :=
  b.edit fun d =>
    { d.declare table with
      columns := Column.addAllTo d.columns (Column.parseAll (some table) columns) }

/-- Selects distinct rows, or all. -/
def distinct (b : Builder) (on : Bool) : Builder := b.edit fun d => { d with distinct := on }

/-- Adds a group of conditions on the rows. Without conditions this is no edit. -/
def addWhere (b : Builder) (conditions : List Condition) (options : GroupOptions := {}) :
    Builder :=
  if conditions.isEmpty then b
  else b.edit fun d => { d with wheres := d.wheres ++ [⟨conditions, options⟩] }

/-- Adds a group of conditions on the groups of rows. Without conditions this is no edit. -/
def addHaving (b : Builder) (conditions : List Condition) (options : GroupOptions := {}) :
    Builder :=
  if conditions.isEmpty then b
  else b.edit fun d => { d with having := d.having ++ [⟨conditions, options⟩] }

/-- Adds to the columns after `GROUP BY`, for a table where they name none. -/
def groupBy (b : Builder) (columns : List String) (table : Option String := none) : Builder :=
  b.edit fun d => { d with groupBy := d.groupBy ++ Column.parseAll table columns }

/-- Adds to the columns after `ORDER BY`, for a table where they name none. -/
def orderBy (b : Builder) (columns : List String) (table : Option String := none) : Builder :=
  b.edit fun d => { d with orderBy := d.orderBy ++ Column.parseAll table columns }

/-- Joins a table to one that is declared. -/
def join (b : Builder) (left right : String) (on : List (String × String))
    (kind : JoinKind := .inner) : Builder :=
  b.edit fun d =>
    let declared := d.declare left
    { declared with
      aliases := declared.aliases.register right
      joins := d.joins ++ [.structured kind left right on] }

/-- Adds a join clause, written as it stands, to a table that is declared. -/
def joinRaw (b : Builder) (left sql : String) : Builder :=
  b.edit fun d => { d.declare left with joins := d.joins ++ [.raw left sql] }

/-- Adds an equality between columns of two tables, neither of which is declared. -/
def equate (b : Builder) (e : Equality) : Builder :=
  b.edit fun d => { d with equalities := d.equalities ++ [e] }

/-- Chooses the alias of a table. -/
def setTableAlias (b : Builder) (table aliasName : String) : Builder :=
  b.edit fun d => { d with aliases := d.aliases.setAlias table aliasName }

/-- Chooses how columns are qualified. -/
def setMode (b : Builder) (mode : AliasMode) : Builder := b.edit fun d => { d with mode }

/-- Limits the number of rows. -/
def limit (b : Builder) (n : UInt64) : Builder := b.edit fun d => { d with limit := some n }

/-- Skips a number of rows, where they are limited. -/
def offset (b : Builder) (n : UInt64) : Builder := b.edit fun d => { d with offset := some n }

/-- Adds a row, or changes rows to it where there are conditions. -/
def upsert (b : Builder) (r : Row) : Builder :=
  b.edit fun d => { d with action := some .upsert }.addRow r

/-- Adds rows, whether there are conditions or not. -/
def insertRows (b : Builder) (rows : List Row) : Builder :=
  b.edit fun d => rows.foldl Draft.addRow { d with action := some .insert }

/-- Adds a row for each tuple of values, under the given columns. A value that has no column is
dropped, and a column that has no value gets its default. -/
def insertTuples (b : Builder) (columns : List String) (tuples : List (List Value)) : Builder :=
  let named := b.edit fun d =>
    { d with insertColumns := columns.foldl Draft.addNew d.insertColumns }
  named.insertRows (tuples.map fun values => Row.ofList (columns.zip values))

/-- Changes rows to the given values, beside those given before, under one more group of
conditions. -/
def update (b : Builder) (r : Row) (conditions : List Condition) : Builder :=
  (b.edit fun d =>
    { d with action := some .update, assignments := d.assignments.setAll r.entries }).addWhere
    conditions

/-- Deletes rows of a table, which is declared, under one more group of conditions. -/
def delete (b : Builder) (conditions : List Condition) (table : String) : Builder :=
  (b.edit fun d => { d.declare table with action := some .delete }).addWhere conditions

/-- Empties a table, which is declared. -/
def truncate (b : Builder) (table : String) : Builder :=
  b.edit fun d => { d.declare table with action := some .truncate }

/-- Chooses the kind of statement. -/
def setAction (b : Builder) (a : Action) : Builder := b.edit fun d => { d with action := some a }

/-- Chooses the kind of statement by its verb. An unknown verb leaves none. -/
def setVerb (b : Builder) (verb : String) : Builder :=
  b.edit fun d => { d with action := (Action.parse verb).toOption }

/-! ## Readings -/

/-- The alias of a table. A table that is not known yet is registered. -/
def aliasFor (b : Builder) (table : String) : Builder × String :=
  match b.draft.aliases.lookup? table with
  | some aliasName => (b, aliasName)
  | none =>
    let edited := b.edit fun d => { d with aliases := d.aliases.register table }
    (edited, (edited.draft.aliases.lookup? table).getD "")

/-- The builder with the statement stored, compiled now if it was edited. -/
def compile (b : Builder) : Builder :=
  match b.compiled with
  | some _ => b
  | none =>
    let c := b.draft.compile b.escaper
    { b with compiled := some c.sql, counted := c.aliases }

/-- The statement of the draft, compiled now if it was edited. -/
def compilation (b : Builder) : Compiled :=
  let after := b.compile
  ⟨after.compiled.getD "", after.counted⟩

/-- The builder with the statement stored, compiled now whether it was edited or not. -/
def recompile (b : Builder) : Builder := { b with compiled := none : Builder }.compile

/-- The text of the stored statement. -/
def stored? (b : Builder) : Option String := b.compiled

/-- The text of the statement, unless it is empty. -/
def sql? (b : Builder) : Except QueryError String :=
  if b.compilation.sql.isEmpty then .error .emptyStatement else .ok b.compilation.sql

/-- How often the qualifier of a table is written in the statement. -/
def referenceCount (b : Builder) (table : String) : Nat :=
  b.compilation.aliases.referenceCount table

/-- The shape of the result that the statement should have. -/
def resultShape (b : Builder) (single : Bool) : Shape := b.draft.resultShape single

/-! ## Execution -/

/-- What an execution came to: the statements sent, each with the shape expected, and the result. -/
structure Execution where
  sent : List (String × Shape)
  result : Except QueryError Output

/-- Sends the statement to an executor, unless it is empty, and checks the shape of the result. -/
def query {σ : Type} (b : Builder) (executor : StatefulExecutor σ) (single : Bool) :
    ExceptT QueryError (StateM σ) Output := do
  let shape := b.resultShape single
  let sql ← liftExcept b.sql?
  ExceptT.adapt .execute do
    let output ← executor sql shape
    liftExcept (output.checked shape)

/-- Executes the statement. What was sent is what the executor has logged in the end. -/
def execute (b : Builder) (executor : Executor) (single : Bool) : Execution :=
  let after := (b.query executor.logged single).run.run []
  ⟨after.2, after.1⟩

/-! ## Laws -/

@[simp] theorem draft_edit (b : Builder) (f : Draft → Draft) : (b.edit f).draft = f b.draft := rfl

theorem draft_addWhere (b : Builder) (conditions : List Condition)
    (options : GroupOptions) :
    (b.addWhere conditions options).draft =
      { b.draft with
        wheres :=
          b.draft.wheres ++ if conditions.isEmpty then [] else [⟨conditions, options⟩] } := by
  unfold addWhere
  split <;> simp

theorem draft_addHaving (b : Builder) (conditions : List Condition)
    (options : GroupOptions) :
    (b.addHaving conditions options).draft =
      { b.draft with
        having :=
          b.draft.having ++ if conditions.isEmpty then [] else [⟨conditions, options⟩] } := by
  unfold addHaving
  split <;> simp

@[simp] theorem draft_compile (b : Builder) : b.compile.draft = b.draft := by
  unfold compile
  split <;> rfl

@[simp] theorem escaper_compile (b : Builder) : b.compile.escaper = b.escaper := by
  unfold compile
  split <;> rfl

/-- Reading the statement stores what was read. -/
theorem compiled_compile (b : Builder) : b.compile.compiled = some b.compilation.sql := by
  unfold compilation compile
  cases stored : b.compiled <;> simp [stored]

end Builder

end SqlQuery
