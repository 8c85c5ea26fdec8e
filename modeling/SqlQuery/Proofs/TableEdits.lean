import SqlQuery.Proofs.Coherence
import SqlQuery.Proofs.DistinctAliases

/-!
What the calls of a session do to the tables and joins of a draft.

Of the many calls that a builder has only a few touch its alias table, its declared tables or its
joins, and those do it in five ways, the `Draft.TableStep`s.  `Edit.sameTables_apply` and
`Reading.sameTables_run` say which steps a call takes.  What these steps keep is therefore kept by
every run (`Session.forall_builders_of_tableSteps`), and the fields that no step touches play no
part in it.
-/

namespace SqlQuery

/-- A table that has an alias is known, and registering it is no change. -/
theorem AliasTable.register_of_lookup? {t : AliasTable} {name aliasName : String}
    (known : t.lookup? name = some aliasName) : t.register name = t := by
  rcases Option.map_eq_some_iff.1 known with ⟨e, found, -⟩
  rcases t.register_cases name with ⟨-, same⟩ | ⟨unknown, -⟩
  · exact same
  · have named : e.name = name := by simpa using List.find?_some found
    exact absurd named (unknown e (List.mem_of_find?_eq_some found))

namespace Draft

/-- The drafts agree in their alias tables, their declared tables and their joins. -/
structure SameTables (d d' : Draft) : Prop where
  aliases : d'.aliases = d.aliases
  tables : d'.tables = d.tables
  joins : d'.joins = d.joins

theorem SameTables.refl (d : Draft) : d.SameTables d := ⟨rfl, rfl, rfl⟩

theorem SameTables.of_eq {d d' : Draft} (same : d' = d) : d.SameTables d' := same ▸ .refl d

theorem SameTables.symm {d d' : Draft} (same : d.SameTables d') : d'.SameTables d :=
  ⟨same.aliases.symm, same.tables.symm, same.joins.symm⟩

theorem SameTables.trans {d d' d'' : Draft} (first : d.SameTables d') (second : d'.SameTables d'') :
    d.SameTables d'' :=
  ⟨second.aliases.trans first.aliases, second.tables.trans first.tables,
    second.joins.trans first.joins⟩

/-- A way of changing the tables and joins of a draft. -/
inductive TableStep
  | declare (table : String)
  | register (table : String)
  /-- Adds a join, whose left table is declared and whose right table is registered. -/
  | join (j : Join)
  | setAlias (table aliasName : String)
  | clear (mode : AliasMode)

/-- The draft after the step. -/
def TableStep.apply (d : Draft) : TableStep → Draft
  | .declare table => d.declare table
  | .register table => { d with aliases := d.aliases.register table }
  | .join j =>
    let declared := d.declare j.left
    { declared with
      aliases := j.right?.elim declared.aliases declared.aliases.register
      joins := d.joins ++ [j] }
  | .setAlias table aliasName => { d with aliases := d.aliases.setAlias table aliasName }
  | .clear mode => .empty mode

/-- The draft after several steps. -/
def takeSteps (d : Draft) (steps : List TableStep) : Draft := steps.foldl TableStep.apply d

/-- What a step makes of the tables and joins depends on these alone. -/
theorem SameTables.takeStep {d d' : Draft} (same : d.SameTables d') (step : TableStep) :
    (step.apply d).SameTables (step.apply d') := by
  have declare (table : String) : (d.declare table).SameTables (d'.declare table) := by
    unfold Draft.declare
    dsimp only
    split
    · exact same
    · constructor <;> simp only [same.aliases, same.tables, same.joins]
  cases step with
  | declare table => exact declare table
  | join j =>
    have declared := declare j.left
    constructor <;> simp only [TableStep.apply, declared.aliases, declared.tables, same.joins]
  | register table | setAlias table aliasName =>
    constructor <;> simp only [TableStep.apply, same.aliases, same.tables, same.joins]
  | clear mode => exact .refl _

/-- The steps read no other part of a draft, so drafts that agree in their tables go on to agree. -/
theorem SameTables.takeSteps {d d' : Draft} (same : d.SameTables d') (steps : List TableStep) :
    (d.takeSteps steps).SameTables (d'.takeSteps steps) := by
  induction steps generalizing d d' with
  | nil => exact same
  | cons step steps ih => exact ih (same.takeStep step)

/-- Adding a row touches no table. -/
theorem sameTables_addRow (d : Draft) (r : Row) : d.SameTables (d.addRow r) := by
  unfold addRow
  split
  · exact .refl d
  · exact ⟨rfl, rfl, rfl⟩

theorem sameTables_foldl_addRow (d : Draft) (rows : List Row) :
    d.SameTables (rows.foldl addRow d) := by
  induction rows generalizing d with
  | nil => exact .refl d
  | cons r rows ih => exact (d.sameTables_addRow r).trans (ih _)

/-- A blank name declares nothing, and any other is registered and listed under its trimmed form. -/
theorem declare_eq (d : Draft) (table : String) :
    d.declare table = d ∧ Text.trim table = "" ∨
      Text.trim table ≠ "" ∧ d.declare table =
        { d with
          aliases := d.aliases.register (Text.trim table)
          tables := addNew d.tables (Text.trim table) } := by
  unfold declare
  by_cases blank : Text.trim table = ""
  · exact .inl ⟨by simp [blank], blank⟩
  · exact .inr ⟨blank, by simp [blank]⟩

/-- Declaring a table changes the tables alone, those that are declared and those that are known. -/
theorem exists_declare_eq (d : Draft) (table : String) :
    ∃ aliases tables, d.declare table = { d with aliases, tables } := by
  rcases d.declare_eq table with ⟨same, -⟩ | ⟨-, declared⟩
  · exact ⟨d.aliases, d.tables, same⟩
  · exact ⟨_, _, declared⟩

@[simp] theorem joins_declare (d : Draft) (table : String) :
    (d.declare table).joins = d.joins := by
  rcases d.exists_declare_eq table with ⟨aliases, tables, declared⟩
  rw [declared]

end Draft

open Draft

namespace Edit

/-- The steps that an edit takes on the tables and joins. -/
def tableSteps (mode : AliasMode) : Edit → List TableStep
  | .select _ table => [.declare table]
  | .declareTables names => (Text.allItems names).map .declare
  | .addColumnsOf table _ => [.declare table]
  | .join kind left right on => [.join (.structured kind left right on)]
  | .joinRaw left sql => [.join (.raw left sql)]
  | .setTableAlias table aliasName => [.setAlias table aliasName]
  | .delete _ table => [.declare table]
  | .truncate table => [.declare table]
  | .reset => [.clear mode]
  | _ => []

theorem sameTables_addWhere (b : Builder) (conditions : List Condition) (options : GroupOptions) :
    b.draft.SameTables (b.addWhere conditions options).draft := by
  unfold Builder.addWhere
  split
  · exact .refl _
  · exact ⟨rfl, rfl, rfl⟩

/-- An edit takes its steps, and does nothing else to the tables and joins. -/
theorem sameTables_apply (mode : AliasMode) (b : Builder) (e : Edit) :
    (b.draft.takeSteps (e.tableSteps mode)).SameTables (e.apply mode b).draft := by
  cases e with
  | select columns table =>
    constructor <;> simp [tableSteps, takeSteps, TableStep.apply, apply, Builder.select]
  | declareTables names =>
    constructor <;>
      simp [tableSteps, takeSteps, List.foldl_map, TableStep.apply, apply, Builder.declareTables]
  | addColumnsOf table columns =>
    constructor <;> simp [tableSteps, takeSteps, TableStep.apply, apply, Builder.addColumnsOf]
  | join kind left right on =>
    constructor <;> simp [tableSteps, takeSteps, TableStep.apply, apply, Builder.join, Join.left,
      Join.right?]
  | joinRaw left sql =>
    constructor <;> simp [tableSteps, takeSteps, TableStep.apply, apply, Builder.joinRaw, Join.left,
      Join.right?]
  | truncate table =>
    constructor <;> simp [tableSteps, takeSteps, TableStep.apply, apply, Builder.truncate]
  | delete conditions table =>
    have declared : (b.draft.takeSteps [.declare table]).SameTables
        (b.edit fun d => { d.declare table with action := some .delete }).draft := by
      constructor <;> simp [takeSteps, TableStep.apply]
    exact declared.trans (sameTables_addWhere _ conditions {})
  | update r conditions =>
    have assigned : b.draft.SameTables (b.edit fun d => { d with
        action := some .update, assignments := d.assignments.setAll r.entries }).draft :=
      ⟨rfl, rfl, rfl⟩
    exact assigned.trans (sameTables_addWhere _ conditions {})
  | addWhere options conditions => exact sameTables_addWhere b conditions options
  | addHaving options conditions =>
    change b.draft.SameTables (b.addHaving conditions options).draft
    unfold Builder.addHaving
    split
    · exact .refl _
    · exact ⟨rfl, rfl, rfl⟩
  | upsert r =>
    have acting : b.draft.SameTables { b.draft with action := some .upsert } := ⟨rfl, rfl, rfl⟩
    exact acting.trans (sameTables_addRow _ r)
  | insertRows rows =>
    have acting : b.draft.SameTables { b.draft with action := some .insert } := ⟨rfl, rfl, rfl⟩
    exact acting.trans (sameTables_foldl_addRow _ rows)
  | insertTuples columns tuples =>
    have acting : b.draft.SameTables { b.draft with
        action := some .insert
        insertColumns := columns.foldl addNew b.draft.insertColumns } := ⟨rfl, rfl, rfl⟩
    exact acting.trans (sameTables_foldl_addRow _ _)
  | setVerb verb => constructor <;> simp [tableSteps, takeSteps, apply, Builder.setVerb]
  | _ => exact ⟨rfl, rfl, rfl⟩

end Edit

namespace Reading

/-- The steps that a reading takes on the tables and joins. -/
def tableSteps : Reading → List TableStep
  | .aliasFor table => [.register table]
  | _ => []

/-- A reading takes the steps it is said to take, and those are none but for registering a name. -/
theorem sameTables_run (b : Builder) (r : Reading) :
    (b.draft.takeSteps r.tableSteps).SameTables (r.run b).1.draft := by
  cases r with
  | aliasFor table =>
    change SameTables (TableStep.apply b.draft (.register table)) (b.aliasFor table).1.draft
    unfold Builder.aliasFor
    split
    case h_1 aliasName known =>
      refine .of_eq ?_
      simp only [TableStep.apply, AliasTable.register_of_lookup? known]
    case h_2 => exact .refl _
  | referenceCount table => exact .of_eq b.draft_compile
  | compile => exact .of_eq b.draft_compile
  | recompile => exact .of_eq (Builder.draft_compile _)
  | sql => exact .of_eq b.draft_compile
  | execute executor single => exact .of_eq b.draft_compile
  | _ => exact .refl _

end Reading

namespace Session

/-- What the steps of the calls keep holds of every builder of a run. -/
theorem forall_builders_of_tableSteps {P : Draft → Prop}
    (same : ∀ {d d' : Draft}, d.SameTables d' → P d → P d') {calls : List (AliasMode × Call)}
    (edit : ∀ mode e, (mode, .edit e) ∈ calls → ∀ step ∈ e.tableSteps mode, ∀ d : Draft, P d →
      P (step.apply d))
    (register : ∀ table (d : Draft), P d → P (TableStep.apply d (.register table)))
    {s : Session} (start : ∀ b ∈ s.builders, P b.draft) :
    ∀ b ∈ (s.runUnder calls).builders, P b.draft := by
  have takes {steps : List TableStep}
      (each : ∀ step ∈ steps, ∀ d : Draft, P d → P (step.apply d)) (d : Draft) (before : P d) :
      P (d.takeSteps steps) := by
    induction steps generalizing d with
    | nil => exact before
    | cons step steps ih =>
      refine ih (fun later member => each later (List.mem_cons_of_mem _ member)) _ ?_
      exact each step List.mem_cons_self d before
  refine forall_builders_runUnder (P := fun b => P b.draft) ?_ ?_ start
  · intro mode e member b before
    exact same (e.sameTables_apply mode b) (takes (edit mode e member) _ before)
  · intro r b before
    refine same (r.sameTables_run b) (takes ?_ _ before)
    cases r with
    | aliasFor table => simpa [Reading.tableSteps] using register table
    | _ => simp [Reading.tableSteps]

end Session

end SqlQuery
