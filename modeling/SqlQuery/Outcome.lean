import SqlQuery.Draft

/-!
What comes back when a statement is executed: the shape that a draft expects of the result, the
result itself, and what can go wrong.
-/

namespace SqlQuery

/-- The shapes of results. -/
inductive Shape
  /-- Nothing but the number of rows affected. -/
  | none
  /-- One value of one row. -/
  | scalar
  /-- All values of one row. -/
  | row
  /-- All values of all rows. -/
  | rows
  /-- One value of each row. -/
  | column
deriving DecidableEq, Repr

/-- A statement that nothing is known of returns no rows. -/
instance : Inhabited Shape := ⟨.none⟩

/-- The name of a shape. -/
def Shape.name : Shape → String
  | .none => "None"
  | .scalar => "Scalar"
  | .row => "Row"
  | .rows => "Rows"
  | .column => "Column"

/-- A row of a result: values under column names, in the order they came in. -/
abbrev ResultRow := List (String × Value)

/-- The result of a statement. -/
inductive Output
  | affected (rows : UInt64)
  | scalar (v : Option Value)
  | row (r : Option ResultRow)
  | rows (rs : List ResultRow)
  | column (vs : List Value)
deriving DecidableEq, Repr

namespace Output

/-- The shape that a result has. -/
def shape : Output → Shape
  | .affected _ => .none
  | .scalar _ => .scalar
  | .row _ => .row
  | .rows _ => .rows
  | .column _ => .column

/-- The result has the given shape. -/
def fits (o : Output) (s : Shape) : Bool := o.shape == s

/-- What a result is called. -/
def kind : Output → String
  | .affected _ => "Affected"
  | .scalar _ => "Scalar"
  | .row _ => "Row"
  | .rows _ => "Rows"
  | .column _ => "Column"

end Output

/-- Why an execution failed. -/
inductive ExecuteError
  | database (text : String)
  /-- The result has another shape than the expected one. -/
  | shapeMismatch (expected : Shape) (found : String)
deriving DecidableEq, Repr

/-- The wording of the error. -/
def ExecuteError.message : ExecuteError → String
  | .database text => "database error: " ++ text
  | .shapeMismatch expected found =>
    "executor returned " ++ found ++ " for expected shape " ++ expected.name

/-- Why a query failed. -/
inductive QueryError
  | emptyStatement
  | execute (e : ExecuteError)
deriving DecidableEq, Repr

/-- The wording of the error. -/
def QueryError.message : QueryError → String
  | .emptyStatement => "query compiled to an empty statement"
  | .execute e => e.message

/-- Whoever executes statements: the answer to a statement of which a result of the given shape is
expected. -/
abbrev Executor := String → Shape → Except ExecuteError Output

/-- An executor with a state, which it may change whenever a statement is sent to it. -/
abbrev StatefulExecutor (σ : Type) := String → Shape → ExceptT ExecuteError (StateM σ) Output

/-- The executor with a log of what was sent to it: the statements, each with the shape expected of
its result. -/
def Executor.logged (executor : Executor) : StatefulExecutor (List (String × Shape)) :=
  fun sql shape => do
    modify (· ++ [(sql, shape)])
    liftExcept (executor sql shape)

/-- The result, if it has the given shape. -/
def Output.checked (o : Output) (s : Shape) : Except ExecuteError Output :=
  if o.fits s then .ok o else .error (.shapeMismatch s o.kind)

/-- The select list has, as far as can be told, other than one column: none is named, one is a star,
or there are several. -/
def Draft.selectsMany (d : Draft) : Bool :=
  d.columns.isEmpty || d.columns.any Column.isStar || 1 < d.columns.length

/-- The shape of the result that the draft's statement should have, where the caller may ask for a
single row. Only a selection has one. -/
def Draft.resultShape (d : Draft) (single : Bool) : Shape :=
  match d.action with
  | some .select =>
    match single, d.selectsMany with
    | true, false => .scalar
    | true, true => .row
    | false, false => .column
    | false, true => .rows
  | _ => .none

end SqlQuery
