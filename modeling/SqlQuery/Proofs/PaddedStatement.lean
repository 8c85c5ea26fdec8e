import SqlQuery.Proofs.PaddedNames
import SqlQuery.Proofs.SlotRange
import SqlQuery.Proofs.StatementVerb

/-!
What blanks around the names of tables do to a statement.

Of what such blanks can change, a statement that is not on rows has nothing
(`Draft.statement_remainder`), and one on rows has, beside aliases and joins, the tables that its
selected columns are qualified by.  So the blanks show in a statement only through an alias or a
join, or in a selection with qualified columns (`Session.compile_runUnder_of_padded`).
-/

namespace SqlQuery

/-! ## Statements -/

namespace Scope

variable {s : Scope}

/-- A column is printed by its body and, where columns are qualified, the table it is named with. -/
theorem column_congr {c c' : Column} (body : c'.body = c.body)
    (table : s.active = false ∨ c'.namedTable? = c.namedTable?) : s.column c' = s.column c := by
  obtain ⟨given, own⟩ := c
  obtain ⟨given', other⟩ := c'
  obtain rfl : other = own := body
  cases other with
  | verbatim sql => rfl
  | named column =>
    have star : Column.isStar ⟨given', .named column⟩ = Column.isStar ⟨given, .named column⟩ := rfl
    rcases table with inactive | named
    · have none (name : Option String) : name.bind s.qualify? = none := by
        cases name <;> simp [qualify?_of_not_active inactive]
      simp [Scope.column, none]
    · by_cases isStar : Column.isStar ⟨given, .named column⟩ = true
      · simp [Scope.column, star, isStar]
      · have same : given' = given := by
          simpa [Column.namedTable?, Column.isVerbatim, star, isStar] using named
        rw [same]

theorem columns_eq_of_padded {cs cs' : List Column} (padded : Column.ArePadded cs cs')
    (tables : s.active = false ∨ cs'.map Column.namedTable? = cs.map Column.namedTable?) :
    s.columns cs' = s.columns cs := by
  have each : cs'.map s.column = cs.map s.column := by
    induction padded with
    | nil => rfl
    | cons first _ ih =>
      simp only [List.map_cons, List.cons_eq_cons] at tables ⊢
      exact ⟨column_congr first.body (tables.imp_right And.left), ih (tables.imp_right And.right)⟩
  unfold columns
  rw [each]

end Scope

namespace Draft

variable {d d' : Draft} {escaper : Escaper} {wide : Bool}

/-- A statement that is not on rows is that of the remainder. -/
theorem statement_remainder (onRows : d.isOnRows = false) :
    d.statement escaper = d.remainder.statement escaper := by
  have sameAction : d.remainder.action = d.action := rfl
  have sameTables : d.remainder.tables = d.tables := rfl
  unfold statement
  rw [sameTables, sameAction]
  split
  case isTrue => rfl
  case isFalse =>
    unfold isOnRows at onRows
    cases action : d.action with
    | none => rfl
    | some a =>
      simp only [action] at onRows
      cases a with
      | insert | truncate => rfl
      | select | update | delete => cases onRows
      | upsert =>
        have none : d.remainder.wheres.any ConditionGroup.survives = false := onRows
        simp only [upsertStatement, isEmpty_whereGroups, onRows, none]
        rfl

/-- It has no slots, so it does not matter what fills them. -/
theorem sql_remainder (onRows : d.isOnRows = false) :
    (d.compile escaper).sql = (d.remainder.compile escaper).sql := by
  have below := slotsBelow_statement d.remainder escaper
  change (d.statement escaper).fill _ = (d.remainder.statement escaper).fill _
  rw [statement_remainder onRows]
  exact below.fill_congr fun _ inside => absurd inside (Nat.not_lt_zero _)

theorem IsPadded.sql_eq (padded : d.IsPadded wide d') (onRows : d.isOnRows = false) :
    (d'.compile escaper).sql = (d.compile escaper).sql := by
  have onRows' : d'.isOnRows = false := by
    change d'.remainder.isOnRows = false
    rw [padded.remainder]
    exact onRows
  rw [sql_remainder onRows', sql_remainder onRows, padded.remainder]

/-- Only selections show their select list. -/
theorem statement_columns {columns : List Column}
    (same : d.action ≠ some .select ∨ Draft.selectList { d with columns } = d.selectList) :
    Draft.statement { d with columns } escaper = d.statement escaper := by
  unfold statement
  dsimp only
  split
  case isTrue => rfl
  case isFalse =>
    split
    case h_2 action =>
      have list := same.resolve_left fun other => other action
      unfold selectStatement
      rw [list]
      rfl
    all_goals rfl

theorem IsPadded.compile_eq (padded : d.IsPadded wide d') (tables : d.SameTables d')
    (selected : d.action ≠ some .select ∨ d.scope.active = false ∨
      d'.columns.map Column.namedTable? = d.columns.map Column.namedTable?) :
    d'.compile escaper = d.compile escaper := by
  have shape : d' = { d with columns := d'.columns } := by
    calc
      d' = { d'.remainder with
          aliases := d'.aliases, joins := d'.joins, columns := d'.columns } := rfl
      _ = { d.remainder with aliases := d.aliases, joins := d.joins, columns := d'.columns } := by
        rw [padded.remainder, tables.aliases, tables.joins]
      _ = { d with columns := d'.columns } := rfl
  have alike := padded.columns
  generalize d'.columns = columns at shape alike selected
  subst shape
  have same : Draft.statement { d with columns } escaper = d.statement escaper := by
    refine statement_columns (selected.imp_right fun tables => ?_)
    have printed : d.scope.columns columns = d.scope.columns d.columns :=
      Scope.columns_eq_of_padded alike tables
    change (if columns.isEmpty then _ else d.scope.columns columns) = _
    rw [alike.isEmpty_eq, printed]
    rfl
  unfold compile
  rw [same]
  rfl

end Draft

/-! ## Sessions -/

namespace Session

/-- Calls on a new builder, and the same calls with blanks around the names that they give for
tables, lead to builders that declare the same tables and select the same columns, the saved ones
one by one.  The tables of the columns are given by the same names, up to blanks.  Unless the calls
have blanks around the names in a join or in the choice of an alias, the builders also agree in
their aliases and joins.

Statements that are not on rows are the same in any case.  Where aliases and joins agree all
statements are the same but selections with qualified columns, and so are these if the tables of
their columns are given by the very same names. -/
theorem compile_runUnder_of_padded (mode : AliasMode) (escaper : Escaper) {wide : Bool}
    {calls calls' : List (AliasMode × Call)} (padded : Call.ArePadded wide calls calls') :
    List.Forall₂
      (fun b b' : Builder =>
        b'.draft.tables = b.draft.tables ∧
        Column.ArePadded b.draft.columns b'.draft.columns ∧
        (wide = false → b.draft.SameTables b'.draft) ∧
        (b.draft.isOnRows = false →
          (b'.draft.compile b'.escaper).sql = (b.draft.compile b.escaper).sql) ∧
        (b.draft.SameTables b'.draft →
          (b.draft.action ≠ some .select ∨ b.draft.scope.active = false ∨
            b'.draft.columns.map Column.namedTable? = b.draft.columns.map Column.namedTable?) →
          b'.draft.compile b'.escaper = b.draft.compile b.escaper))
      (runUnder ⟨{ draft := .empty mode, escaper }, []⟩ calls).builders
      (runUnder ⟨{ draft := .empty mode, escaper }, []⟩ calls').builders := by
  have start : (Builder.mk (.empty mode) escaper none {}).IsPadded wide
      (Builder.mk (.empty mode) escaper none {}) := ⟨.refl wide _, rfl⟩
  refine (isPadded_runUnder padded (.cons start .nil)).imp fun b b' alike => ?_
  have tables : b'.draft.remainder.tables = b.draft.remainder.tables :=
    congrArg Draft.tables alike.draft.remainder
  refine ⟨tables, alike.draft.columns, alike.draft.narrow, ?_, ?_⟩
  · intro onRows
    rw [alike.escaper]
    exact alike.draft.sql_eq onRows
  · intro tables selected
    rw [alike.escaper]
    exact alike.draft.compile_eq tables selected

/-- Calls that select columns of a table by its name, from this table and another one. -/
def spaceless : List (AliasMode × Call) :=
  [(.auto, .edit (.declareTables ["users,posts"])),
    (.auto, .edit (.select ["users.name", "*"] "users")),
    (.auto, .edit (.delete [] "posts")), (.auto, .edit (.setAction .select))]

/-- The same calls with blanks around all names that they give. -/
def spacious : List (AliasMode × Call) :=
  [(.auto, .edit (.declareTables [" users ,\tposts"])),
    (.auto, .edit (.select ["users.name", "*"] " users ")),
    (.auto, .edit (.delete [] "posts\n")), (.auto, .edit (.setAction .select))]

theorem compile_runUnder_of_padded_spacious :
    let b := (runUnder ⟨{ draft := .empty .auto, escaper := .mysql }, []⟩ spaceless).current
    let b' := (runUnder ⟨{ draft := .empty .auto, escaper := .mysql }, []⟩ spacious).current
    Call.ArePadded false spaceless spacious ∧ b.draft.tables = ["users", "posts"] ∧
      b.draft.action = some .select ∧ b.draft.scope.active = true ∧
      b'.draft.compile b'.escaper = b.draft.compile b.escaper := by
  intro b b'
  have user : Text.PaddedName "users" " users " := ⟨[' '], [' '], rfl, rfl, by decide +kernel⟩
  have post : Text.PaddedName "posts" "posts\n" := ⟨[], ['\n'], rfl, rfl, by decide +kernel⟩
  have list : Text.PaddedList "users,posts" " users ,\tposts" := by
    have plain : Text.pieces 0 "users,posts".toList = ["users".toList, "posts".toList] := by
      decide +kernel
    have spaced : Text.pieces 0 " users ,\tposts".toList =
        [" users ".toList, "\tposts".toList] := by
      decide +kernel
    unfold Text.PaddedList
    rw [plain, spaced]
    exact .cons user (.cons ⟨['\t'], [], rfl, rfl, by decide +kernel⟩ .nil)
  have padded : Call.ArePadded false spaceless spacious :=
    .cons ⟨rfl, .edit (.declareTables (.cons list .nil))⟩
      (.cons ⟨rfl, .edit (.select _ user)⟩
        (.cons ⟨rfl, .edit (.delete _ post)⟩ (.cons ⟨rfl, .same _⟩ .nil)))
  have builders := compile_runUnder_of_padded .auto .mysql padded
  rcases (List.forall₂_cons.1 builders).1 with ⟨-, -, tables, -, compiled⟩
  have named : b'.draft.columns.map Column.namedTable? =
      b.draft.columns.map Column.namedTable? := by decide +kernel
  exact ⟨padded, by decide +kernel, by decide +kernel, by decide +kernel,
    compiled (tables rfl) (.inr (.inr named))⟩

/-- Calls that select a column by the name of its table with blanks around it, or without. -/
def selecting (table : String) : List (AliasMode × Call) :=
  [(.auto, .edit (.declareTables ["users", "posts"])), (.auto, .edit (.select ["name"] table))]

/-- Blanks around the name of a table can leave a column without its qualifier. -/
theorem compile_runUnder_selecting :
    let b :=
      (runUnder ⟨{ draft := .empty .auto, escaper := .mysql }, []⟩ (selecting "users")).current
    let b' :=
      (runUnder ⟨{ draft := .empty .auto, escaper := .mysql }, []⟩ (selecting " users ")).current
    Call.ArePadded false (selecting "users") (selecting " users ") ∧
      (b.draft.compile b.escaper).sql = "SELECT T0.name FROM users AS T0, posts AS T1" ∧
      (b'.draft.compile b'.escaper).sql = "SELECT name FROM users AS T0, posts AS T1" := by
  intro b b'
  have user : Text.PaddedName "users" " users " := ⟨[' '], [' '], rfl, rfl, by decide +kernel⟩
  exact ⟨.cons ⟨rfl, .same _⟩ (.cons ⟨rfl, .edit (.select _ user)⟩ .nil),
    Draft.sql_of_joins_eq_nil (by decide +kernel) (by decide +kernel),
    Draft.sql_of_joins_eq_nil (by decide +kernel) (by decide +kernel)⟩

end Session

end SqlQuery
