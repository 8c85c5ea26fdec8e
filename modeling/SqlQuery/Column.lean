import SqlQuery.Text.Identifier

/-!
Columns, as they stand in the select list and after `GROUP BY` and `ORDER BY`.

A column is a named one, possibly as the argument of a function, with a modifier such as `DESC` and
an output name after `AS`; or it is an expression that is written as it stands.
-/

namespace SqlQuery

/-- The function around a column, such as `COUNT(DISTINCT …)`. -/
structure Application where
  function : String
  distinct : Bool
deriving DecidableEq, Repr

/-- A column with a name of its own. -/
structure NamedColumn where
  application : Option Application := none
  name : String
  modifier : Option String := none
  /-- The name after `AS`. -/
  output : Option String := none
deriving DecidableEq, Repr

/-- What a column says, its table apart. -/
inductive ColumnBody
  | named (column : NamedColumn)
  /-- An expression that is written as it stands and never qualified. -/
  | verbatim (sql : String)
deriving DecidableEq, Repr

/-- A column and the table, by name or alias, that it belongs to. -/
structure Column where
  table : Option String := none
  body : ColumnBody
deriving DecidableEq, Repr

namespace Application

/-- What stands before the argument. -/
def opening (a : Application) : String :=
  a.function ++ "(" ++ if a.distinct then "DISTINCT " else ""

end Application

namespace NamedColumn

/-- What stands before the column's name and its qualifier. -/
def opening (c : NamedColumn) : String :=
  match c.application with
  | some a => a.opening
  | none => ""

/-- What stands after the column's name. -/
def closing (c : NamedColumn) : String :=
  (if c.application.isSome then ")" else "") ++
    (match c.modifier with
      | some m => " " ++ m
      | none => "") ++
    match c.output with
      | some o => " AS " ++ o
      | none => ""

end NamedColumn

namespace Column

/-- The expression is written as it stands. -/
def isVerbatim (c : Column) : Bool :=
  match c.body with
  | .verbatim _ => true
  | .named _ => false

/-- The column's name, or the whole expression. -/
def name (c : Column) : String :=
  match c.body with
  | .verbatim sql => sql
  | .named column => column.name

/-- The column stands for all columns; it may be the argument of a function. -/
def isStar (c : Column) : Bool := c.name == "*"

/-- The column of the given table, unless it names a table itself. -/
def within (table : Option String) (c : Column) : Column :=
  { c with table := c.table.orElse fun _ => table }

/-- The name by which two columns of a select list are told apart: the output name, or else the name
with the function around it. -/
def resolvedName (c : Column) : String :=
  match c.body with
  | .verbatim sql => sql
  | .named column =>
    match column.output, column.application with
    | some output, _ => output
    | none, some a => a.opening ++ column.name ++ ")"
    | none, none => column.name

/-- The column with the given qualifier before its name. A star and a verbatim expression take
none. -/
def render (qualifier : Option String) (c : Column) : String :=
  match c.body with
  | .verbatim sql => sql
  | .named column =>
    let qualified :=
      match qualifier with
      | some q => if c.isStar then column.name else q ++ "." ++ column.name
      | none => column.name
    column.opening ++ qualified ++ column.closing

/-- Adds a column at the end, unless there is one of its resolved name. -/
def addTo (columns : List Column) (c : Column) : List Column :=
  if columns.any (·.resolvedName == c.resolvedName) then columns else columns ++ [c]

/-- Adds columns at the end, each unless there is one of its resolved name. -/
def addAllTo (columns : List Column) (added : List Column) : List Column :=
  added.foldl addTo columns

theorem addAllTo_append (columns xs ys : List Column) :
    addAllTo columns (xs ++ ys) = addAllTo (addAllTo columns xs) ys :=
  List.foldl_append

end Column

end SqlQuery
