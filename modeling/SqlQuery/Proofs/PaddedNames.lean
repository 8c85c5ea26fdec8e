import SqlQuery.Proofs.ClauseOrder
import SqlQuery.Proofs.WellFormedDraft

/-!
White space around the names that calls give for tables.

A table is declared under its trimmed name, so blanks around a name do not change which tables are
declared.  But where a call gives the same name to the columns that it selects, to a join or to the
alias table, the name goes there as it is given, blanks included.

`Edit.IsPadded` relates edits that differ in such blanks only.  The drafts that they lead to agree
in all but their aliases, their joins and the tables of their selected columns (`Draft.IsPadded`):
what an edit makes of the rest of a draft and of what the columns say depends on these alone
(`Edit.remainder_draftAfter`, `Edit.columns_draftAfter`), so the relation is kept by a run, in the
saved builders too (`Session.isPadded_runUnder`).
-/

namespace SqlQuery

/-! ## Padded texts -/

namespace Text

/-- The second text is the first one with blanks before and after it. -/
def Padded (s t : List Char) : Prop :=
  ∃ before after, before.all isBlank = true ∧ after.all isBlank = true ∧ t = before ++ s ++ after

/-- The second name is the first one with blanks before and after it. -/
def PaddedName (s t : String) : Prop := Padded s.toList t.toList

/-- The second list has the names of the first one, each with blanks before and after it. -/
def PaddedList (s t : String) : Prop := List.Forall₂ Padded (pieces 0 s.toList) (pieces 0 t.toList)

theorem PaddedName.refl (s : String) : PaddedName s s := ⟨[], [], rfl, rfl, by simp⟩

/-- Blanks at the end are trimmed away. -/
theorem trimEnd_append_blanks {s blanks : List Char} (blank : ∀ c ∈ blanks, isBlank c = true) :
    trimEnd (s ++ blanks) = trimEnd s := by
  unfold trimEnd
  rw [List.reverse_append, List.dropWhile_append_of_pos]
  intro c member
  exact blank c (List.mem_reverse.1 member)

/-- Padding does not show in the trimmed text. -/
theorem Padded.trimChars_eq {s t : List Char} (padded : Padded s t) :
    trimChars t = trimChars s := by
  rcases padded with ⟨before, after, blankBefore, blankAfter, rfl⟩
  rw [List.all_eq_true] at blankBefore blankAfter
  have start : trimStart (before ++ s ++ after) = trimStart (s ++ after) := by
    unfold trimStart
    rw [List.append_assoc, List.dropWhile_append_of_pos blankBefore]
  unfold trimChars
  rw [start]
  unfold trimStart
  rw [List.dropWhile_append]
  split
  case isTrue none =>
    have gone : after.dropWhile isBlank = [] := List.dropWhile_eq_nil_iff.2 blankAfter
    rw [gone, List.isEmpty_iff.1 none]
  case isFalse => exact trimEnd_append_blanks blankAfter

theorem PaddedName.trim_eq {s t : String} (padded : PaddedName s t) : trim t = trim s := by
  unfold trim
  rw [padded.trimChars_eq]

/-- Blanks around commas do not show in the items of a list. -/
theorem PaddedList.items_eq {s t : String} (padded : PaddedList s t) : items t = items s := by
  have trimmed : (pieces 0 t.toList).map trimChars = (pieces 0 s.toList).map trimChars := by
    unfold PaddedList at padded
    generalize pieces 0 s.toList = before, pieces 0 t.toList = after at padded
    induction padded with
    | nil => rfl
    | cons piece _ ih => rw [List.map_cons, List.map_cons, piece.trimChars_eq, ih]
  unfold items
  rw [trimmed]

theorem allItems_eq_of_padded {lists lists' : List String}
    (padded : List.Forall₂ PaddedList lists lists') : allItems lists' = allItems lists := by
  induction padded with
  | nil => rfl
  | cons list _ ih =>
    unfold allItems at ih ⊢
    rw [List.flatMap_cons, List.flatMap_cons, list.items_eq, ih]

end Text

/-! ## Padded calls -/

/-- The second edit is the first one with blanks around the names that it gives for tables.  A join
and the choice of an alias may have them in the wide sense only. -/
inductive Edit.IsPadded (wide : Bool) : Edit → Edit → Prop
  | same (e : Edit) : IsPadded wide e e
  | select (columns : List String) {table table' : String} (name : Text.PaddedName table table') :
    IsPadded wide (.select columns table) (.select columns table')
  | declareTables {names names' : List String} (lists : List.Forall₂ Text.PaddedList names names') :
    IsPadded wide (.declareTables names) (.declareTables names')
  | addColumnsOf (columns : List String) {table table' : String}
    (name : Text.PaddedName table table') :
    IsPadded wide (.addColumnsOf table columns) (.addColumnsOf table' columns)
  | delete (conditions : List Condition) {table table' : String}
    (name : Text.PaddedName table table') :
    IsPadded wide (.delete conditions table) (.delete conditions table')
  | truncate {table table' : String} (name : Text.PaddedName table table') :
    IsPadded wide (.truncate table) (.truncate table')
  | join (isWide : wide = true) (kind : JoinKind) (on : List (String × String))
    {left left' right right' : String} (leftName : Text.PaddedName left left')
    (rightName : Text.PaddedName right right') :
    IsPadded wide (.join kind left right on) (.join kind left' right' on)
  | joinRaw (isWide : wide = true) (sql : String) {left left' : String}
    (name : Text.PaddedName left left') : IsPadded wide (.joinRaw left sql) (.joinRaw left' sql)
  | setTableAlias (isWide : wide = true) (aliasName : String) {table table' : String}
    (name : Text.PaddedName table table') :
    IsPadded wide (.setTableAlias table aliasName) (.setTableAlias table' aliasName)

/-- The second call is the first one, or an edit with blanks around names of tables. -/
inductive Call.IsPadded (wide : Bool) : Call → Call → Prop
  | edit {e e' : Edit} (padded : e.IsPadded wide e') : IsPadded wide (.edit e) (.edit e')
  | same (c : Call) : IsPadded wide c c

/-! ## Select lists -/

namespace Column

/-- The second column says what the first one does, for a table of the same name or of that name
with blanks around it. -/
structure IsPadded (c c' : Column) : Prop where
  body : c'.body = c.body
  table : Option.Rel Text.PaddedName c.table c'.table

/-- The columns of the second list are those of the first one, each with blanks around the name of
its table. -/
abbrev ArePadded (columns columns' : List Column) : Prop := List.Forall₂ IsPadded columns columns'

theorem IsPadded.refl (c : Column) : c.IsPadded c := by
  refine ⟨rfl, ?_⟩
  cases c.table with
  | none => exact .none
  | some table => exact .some (.refl table)

theorem arePadded_refl (columns : List Column) : ArePadded columns columns :=
  List.forall₂_same.2 fun c _ => .refl c

/-- A column takes the table it is given, padded or not, unless it has one of its own. -/
theorem isPadded_within {table table' : Option String}
    (tables : Option.Rel Text.PaddedName table table') (c : Column) :
    (c.within table).IsPadded (c.within table') := by
  obtain ⟨_ | own, body⟩ := c
  · exact ⟨rfl, tables⟩
  · exact .refl _

/-- Columns are read for a table with the blanks that are around its name. -/
theorem arePadded_parseAll {table table' : Option String}
    (tables : Option.Rel Text.PaddedName table table') (lists : List String) :
    ArePadded (parseAll table lists) (parseAll table' lists) := by
  unfold parseAll
  rw [ArePadded, List.forall₂_map_left_iff, List.forall₂_map_right_iff, List.forall₂_same]
  exact fun spec _ => isPadded_within tables (parse spec)

/-- Padding concerns the table of a column, and its resolved name does not have that. -/
theorem IsPadded.resolvedName_eq {c c' : Column} (padded : c.IsPadded c') :
    c'.resolvedName = c.resolvedName := by
  unfold resolvedName
  rw [padded.body]

theorem ArePadded.isEmpty_eq {columns columns' : List Column}
    (padded : ArePadded columns columns') : columns'.isEmpty = columns.isEmpty := by
  cases padded <;> rfl

/-- Whether a column is in a list already depends on what the columns say. -/
theorem ArePadded.addTo {columns columns' : List Column} (padded : ArePadded columns columns')
    {c c' : Column} (added : c.IsPadded c') : ArePadded (addTo columns c) (addTo columns' c') := by
  have listed (name : String) : columns'.any (·.resolvedName == name) =
      columns.any (·.resolvedName == name) := by
    induction padded with
    | nil => rfl
    | cons first _ ih => rw [List.any_cons, List.any_cons, ih, first.resolvedName_eq]
  unfold Column.addTo
  rw [listed, added.resolvedName_eq]
  split
  · exact padded
  · exact List.rel_append padded (.cons added .nil)

/-- The same columns are left out for their resolved names, so padding is kept. -/
theorem ArePadded.addAllTo {columns columns' : List Column} (padded : ArePadded columns columns')
    {added added' : List Column} (more : ArePadded added added') :
    ArePadded (addAllTo columns added) (addAllTo columns' added') := by
  induction more generalizing columns columns' with
  | nil => exact padded
  | cons first _ ih => exact ih (padded.addTo first)

end Column

/-- What an edit makes of the select list. -/
def Edit.columnsAfter (columns : List Column) : Edit → List Column
  | .select specs table => Column.addAllTo [] (Column.parseAll (some table) specs)
  | .setColumns specs => Column.addAllTo [] (Column.parseAll none specs)
  | .addColumns specs => Column.addAllTo columns (Column.parseAll none specs)
  | .addColumnsOf table specs => Column.addAllTo columns (Column.parseAll (some table) specs)
  | .reset => []
  | _ => columns

/-! ## Drafts -/

namespace Draft

/-- The draft without its aliases, its joins and its select list. -/
def remainder (d : Draft) : Draft := { d with aliases := {}, joins := [], columns := [] }

/-- The drafts agree but for their aliases, their joins and blanks around the tables of their
selected columns.  In the narrow sense they agree in their aliases and joins as well. -/
structure IsPadded (wide : Bool) (d d' : Draft) : Prop where
  remainder : d'.remainder = d.remainder
  columns : Column.ArePadded d.columns d'.columns
  narrow : wide = false → d.SameTables d'

theorem IsPadded.refl (wide : Bool) (d : Draft) : d.IsPadded wide d :=
  ⟨rfl, Column.arePadded_refl d.columns, fun _ => .refl d⟩

/-- A table is declared by its trimmed name. -/
theorem declare_congr {table table' : String} (same : Text.trim table' = Text.trim table)
    (d : Draft) : d.declare table' = d.declare table := by
  unfold declare
  rw [same]

theorem remainder_linked (d : Draft) (aliases : AliasTable) (joins : List Join)
    (columns : List Column) : { d with aliases, joins, columns }.remainder = d.remainder := rfl

/-- Declaring a table edits the remainder of a draft as it edits the draft. -/
theorem remainder_declare (d : Draft) (table : String) :
    (d.declare table).remainder = (d.remainder.declare table).remainder := by
  unfold declare
  dsimp only
  split <;> rfl

theorem remainder_declare_change {f : Draft → Draft}
    (change : ∀ d : Draft, (f d).remainder = (f d.remainder).remainder) (d : Draft)
    (table : String) :
    (f (d.declare table)).remainder = (f (d.remainder.declare table)).remainder := by
  rw [change, remainder_declare, ← change]

/-- Adding a row edits the remainder of a draft as it edits the draft. -/
theorem remainder_addRow (d : Draft) (r : Row) :
    (d.addRow r).remainder = (d.remainder.addRow r).remainder := by
  unfold addRow
  split <;> rfl

theorem columns_addRow (d : Draft) (r : Row) : (d.addRow r).columns = d.columns := by
  unfold addRow
  split <;> rfl

theorem columns_foldl {α : Type} {f : Draft → α → Draft}
    (each : ∀ d x, (f d x).columns = d.columns) (xs : List α) (d : Draft) :
    (xs.foldl f d).columns = d.columns := by
  induction xs generalizing d with
  | nil => rfl
  | cons x xs ih => rw [List.foldl_cons, ih, each]

/-- What each change makes of the remainder depends on the remainder. -/
theorem remainder_foldl {α : Type} {f : Draft → α → Draft}
    (each : ∀ d x, (f d x).remainder = (f d.remainder x).remainder) (xs : List α) (d : Draft) :
    (xs.foldl f d).remainder = (xs.foldl f d.remainder).remainder := by
  induction xs generalizing d with
  | nil => rfl
  | cons x xs ih => rw [List.foldl_cons, List.foldl_cons, ih, each, ← ih]

end Draft

namespace Edit

open Draft

/-- The draft after the edit. -/
def draftAfter (mode : AliasMode) (d : Draft) (e : Edit) : Draft :=
  (e.apply mode { draft := d }).draft

theorem draft_apply (mode : AliasMode) (b : Builder) (e : Edit) :
    (e.apply mode b).draft = e.draftAfter mode b.draft := by
  cases e with
  | addWhere options conditions | update r conditions | delete conditions table =>
    cases conditions <;> rfl
  | addHaving options conditions => cases conditions <;> rfl
  | _ => rfl

/-- Every call edits the remainder of a draft as it edits the draft, so what it makes of the columns
is a matter of its own. -/
theorem remainder_draftAfter (mode : AliasMode) (d : Draft) (e : Edit) :
    (e.draftAfter mode d).remainder = (e.draftAfter mode d.remainder).remainder := by
  cases e with
  | addWhere options conditions | update r conditions | addHaving options conditions =>
    cases conditions <;> rfl
  | select specs table =>
    exact remainder_declare_change (f := fun a => { a with
      action := some .select
      columns := Column.addAllTo [] (Column.parseAll (some table) specs) }) (fun _ => rfl) d table
  | delete conditions table =>
    simp only [draftAfter, apply, Builder.delete, Builder.draft_addWhere, Builder.draft_edit]
    exact remainder_declare_change (f := fun a => { a with
      action := some .delete
      wheres := a.wheres ++ if conditions.isEmpty then [] else [⟨conditions, {}⟩] })
      (fun _ => rfl) d table
  | truncate table =>
    exact remainder_declare_change (f := fun a => { a with action := some .truncate })
      (fun _ => rfl) d table
  | addColumnsOf table _ | join _ table _ _ | joinRaw table _ =>
    simp only [draftAfter, apply, Builder.addColumnsOf, Builder.join, Builder.joinRaw,
      Builder.draft_edit, remainder_linked]
    exact remainder_declare d table
  | declareTables names => exact remainder_foldl remainder_declare _ d
  | upsert r => exact remainder_addRow { d with action := some .upsert } r
  | insertRows rows => exact remainder_foldl remainder_addRow rows { d with action := some .insert }
  | insertTuples columns tuples =>
    exact remainder_foldl remainder_addRow _
      { d with
        action := some .insert
        insertColumns := columns.foldl addNew d.insertColumns }
  | _ => rfl

/-- What a call makes of the select list depends on the call and the list alone. -/
theorem columns_draftAfter (mode : AliasMode) (d : Draft) (e : Edit) :
    (e.draftAfter mode d).columns = e.columnsAfter d.columns := by
  cases e with
  | addWhere options conditions | update r conditions | addHaving options conditions =>
    cases conditions <;> rfl
  | delete conditions table =>
    simp only [draftAfter, apply, Builder.delete, Builder.draft_addWhere, Builder.draft_edit]
    exact columns_declare d table
  | join _ table _ _ | joinRaw table _ | truncate table =>
    simp only [draftAfter, apply, Builder.truncate, Builder.join, Builder.joinRaw,
      Builder.draft_edit]
    exact columns_declare d table
  | declareTables names => exact columns_foldl columns_declare _ d
  | upsert r => exact columns_addRow _ r
  | insertRows rows | insertTuples columns tuples => exact columns_foldl columns_addRow _ _
  | _ => rfl

variable {wide : Bool} {e e' : Edit}

namespace IsPadded

/-- A name leaves the same remainder with blanks around it. -/
theorem remainder_draftAfter (padded : e.IsPadded wide e') (mode : AliasMode) (d : Draft) :
    (e'.draftAfter mode d).remainder = (e.draftAfter mode d).remainder := by
  cases padded with
  | same e => rfl
  | declareTables lists =>
    simp only [draftAfter, apply, Builder.declareTables, Text.allItems_eq_of_padded lists]
  | select _ name | addColumnsOf _ name =>
    simp only [draftAfter, apply, Builder.select, Builder.addColumnsOf, Builder.draft_edit,
      declare_congr name.trim_eq]
    rfl
  | delete _ name | truncate name =>
    simp only [draftAfter, apply, Builder.delete, Builder.draft_addWhere, Builder.truncate,
      Builder.draft_edit, declare_congr name.trim_eq]
  | join _ _ _ name _ | joinRaw _ _ name =>
    simp only [draftAfter, apply, Builder.join, Builder.joinRaw, Builder.draft_edit,
      remainder_linked, declare_congr name.trim_eq]
  | setTableAlias => rfl

/-- Padded calls make padded lists of columns. -/
theorem columnsAfter (padded : e.IsPadded wide e') {columns columns' : List Column}
    (before : Column.ArePadded columns columns') :
    Column.ArePadded (e.columnsAfter columns) (e'.columnsAfter columns') := by
  have none : Column.ArePadded [] [] := .nil
  cases padded with
  | same e =>
    cases e with
    | addColumns specs | addColumnsOf table specs => exact before.addAllTo (Column.arePadded_refl _)
    | select specs table | setColumns specs => exact none.addAllTo (Column.arePadded_refl _)
    | reset => exact none
    | _ => exact before
  | select specs name => exact none.addAllTo (Column.arePadded_parseAll (.some name) specs)
  | addColumnsOf specs name => exact before.addAllTo (Column.arePadded_parseAll (.some name) specs)
  | _ => exact before

/-- In calls that pad no table of a join or an alias, the tables are edited alike. -/
theorem takeSteps_eq (padded : e.IsPadded false e') (mode : AliasMode) (d : Draft) :
    d.takeSteps (e'.tableSteps mode) = d.takeSteps (e.tableSteps mode) := by
  cases padded with
  | same e => rfl
  | declareTables lists => rw [tableSteps, tableSteps, Text.allItems_eq_of_padded lists]
  | select _ name | addColumnsOf _ name | delete _ name | truncate name =>
    simp only [tableSteps, takeSteps, List.foldl_cons, List.foldl_nil, TableStep.apply,
      declare_congr name.trim_eq]
  | join isWide | joinRaw isWide | setTableAlias isWide => cases isWide

theorem escaper_apply (padded : e.IsPadded wide e') (mode : AliasMode) {b b' : Builder}
    (same : b'.escaper = b.escaper) : (e'.apply mode b').escaper = (e.apply mode b).escaper := by
  have keeps {e : Edit} (plain : (Call.edit e).isPlain = true) (other : .escaper ∉ e.parts)
      (b : Builder) : (e.apply mode b).escaper = b.escaper :=
    (Edit.editsOnly_apply mode plain).frame b .escaper other
  cases padded with
  | same e =>
    cases e with
    | reset => exact same
    | rebuild => rfl
    | _ => exact (Edit.editsOnly_apply mode rfl).sameIn (p := .escaper) same
  -- No edit that is given a name of a table edits the escaper.
  | _ => rw [keeps, keeps, same] <;> simp [Edit.parts, Call.isPlain]

end IsPadded

end Edit

/-! ## Builders -/

namespace Builder

/-- The builders have the same escaper, and drafts that agree but for what blanks around names can
change. -/
structure IsPadded (wide : Bool) (b b' : Builder) : Prop where
  draft : b.draft.IsPadded wide b'.draft
  escaper : b'.escaper = b.escaper

variable {wide : Bool} {b b' : Builder}

/-- Padded calls keep builders padded. -/
theorem IsPadded.apply (padded : b.IsPadded wide b') {e e' : Edit} (call : e.IsPadded wide e')
    (mode : AliasMode) : (e.apply mode b).IsPadded wide (e'.apply mode b') := by
  constructor
  case draft =>
    constructor
    case remainder =>
      rw [Edit.draft_apply, Edit.draft_apply, call.remainder_draftAfter, Edit.remainder_draftAfter,
        padded.draft.remainder, ← Edit.remainder_draftAfter]
    case columns =>
      rw [Edit.draft_apply, Edit.draft_apply, Edit.columns_draftAfter, Edit.columns_draftAfter]
      exact call.columnsAfter padded.draft.columns
    case narrow =>
      rintro rfl
      have own := e.sameTables_apply mode b
      have other := e'.sameTables_apply mode b'
      rw [call.takeSteps_eq] at other
      exact own.symm.trans (((padded.draft.narrow rfl).takeSteps _).trans other)
  case escaper => exact call.escaper_apply mode padded.escaper

/-- Readings have no names in them, so they keep builders padded too. -/
theorem IsPadded.read (padded : b.IsPadded wide b') (r : Reading) :
    (r.run b).1.IsPadded wide (r.run b').1 := by
  rcases r.exists_draft_run_eq b with ⟨aliases, own⟩
  rcases r.exists_draft_run_eq b' with ⟨aliases', other⟩
  constructor
  case draft =>
    constructor
    case remainder =>
      rw [own, other]
      exact padded.draft.remainder
    case columns =>
      rw [own, other]
      exact padded.draft.columns
    case narrow =>
      intro isNarrow
      have same := (padded.draft.narrow isNarrow).takeSteps r.tableSteps
      exact (r.sameTables_run b).symm.trans (same.trans (r.sameTables_run b'))
  case escaper =>
    exact r.editsOnly_run.sameIn (p := .escaper) padded.escaper

end Builder

/-! ## Sessions -/

/-- The second calls are the first ones with blanks around names of tables. -/
def Call.ArePadded (wide : Bool) (calls calls' : List (AliasMode × Call)) : Prop :=
  List.Forall₂ (fun c c' => c'.1 = c.1 ∧ c.2.IsPadded wide c'.2) calls calls'

namespace Session

variable {wide : Bool} {s s' : Session}

/-- Two sessions stay alike, in the builder at hand and in the saved ones. -/
theorem isPadded_step
    (padded : List.Forall₂ (Builder.IsPadded wide) s.builders s'.builders) {c c' : Call}
    (call : c.IsPadded wide c') (mode : AliasMode) :
    List.Forall₂ (Builder.IsPadded wide) (s.step mode c).1.builders
      (s'.step mode c').1.builders := by
  obtain ⟨current, saved⟩ := List.forall₂_cons.1 padded
  cases call with
  | edit edit => exact .cons (current.apply edit mode) saved
  | same c =>
    cases c with
    | edit e => exact .cons (current.apply (.same e) mode) saved
    | read r => exact .cons (current.read r) saved
    | save => exact .cons current (.cons current saved)
    | restore =>
      obtain ⟨b, kept⟩ := s
      obtain ⟨b', kept'⟩ := s'
      cases saved with
      | nil => exact padded
      | cons back rest => exact .cons back rest

/-- Sessions of padded calls go through padded builders, the saved ones included. -/
theorem isPadded_runUnder {calls calls' : List (AliasMode × Call)}
    (called : Call.ArePadded wide calls calls')
    (padded : List.Forall₂ (Builder.IsPadded wide) s.builders s'.builders) :
    List.Forall₂ (Builder.IsPadded wide) (s.runUnder calls).builders
      (s'.runUnder calls').builders := by
  unfold Call.ArePadded at called
  induction called generalizing s s' with
  | nil => exact padded
  | cons call _ ih =>
    apply ih
    dsimp only
    rw [call.1]
    exact isPadded_step padded call.2 _

end Session

end SqlQuery
