import SqlQuery.Condition.Predicate
import SqlQuery.Draft

/-!
The statement that a draft describes.

A statement is first a fragment, in which the qualifiers are slots. Compiling fills the slots from
the alias table and counts them, so the reference counts are those of the text by construction.
Writing the statement in one pass that counts on the way comes to the same
(`Draft.render_eq_compile`). Where a draft says too little for a statement of its kind, the
statement is empty.
-/

namespace SqlQuery

namespace Draft

/-! ## The scope of a draft -/

/-- The tables that take part in the statement: the declared ones and those that joins bring in,
each once. -/
def tablesInvolved (d : Draft) : List String :=
  (d.joins.filterMap Join.right?).foldl addNew (d.tables.foldl addNew [])

/-- The scope of the draft's statement: columns are qualified if its mode asks for that with as many
tables as take part. -/
def scope (d : Draft) : Scope where
  aliases := d.aliases
  mode := d.mode
  active := d.mode.qualifies d.tablesInvolved.length

/-! ## Parts that several kinds of statements have -/

/-- The tables after `FROM` or `UPDATE`. -/
def fromList (d : Draft) : Fragment := d.scope.fromList d.tables d.joins

/-- The groups of conditions on the rows that have predicates. -/
def whereGroups (d : Draft) (escaper : Escaper) : List Fragment := d.scope.groups escaper d.wheres

/-- The predicates after `WHERE`: the groups, and then those of the equalities whose tables are both
mentioned in the groups or in the other parts of the statement. -/
def predicates (d : Draft) (escaper : Escaper) (others : Fragment) : List Fragment :=
  let groups := d.whereGroups escaper
  groups ++ d.scope.equalities (others ++ groups.flatten) d.equalities

/-- The `WHERE` clause of a statement with the given other parts. -/
def whereClause (d : Draft) (escaper : Escaper) (others : Fragment) : Fragment :=
  Fragment.clause "WHERE" (Fragment.joined " AND " (d.predicates escaper others))

/-- The columns after `ORDER BY`. -/
def ordering (d : Draft) : Fragment := d.scope.columns d.orderBy

/-- A number after its keyword, if there is one. -/
def countClause (keyword : String) (n : Option UInt64) : Fragment :=
  match n with
  | some n => Fragment.clause keyword [.text n.toNat.repr]
  | none => []

/-! ## The kinds of statements -/

/-- The columns of the select list, all of them if none is named. -/
def selectList (d : Draft) : Fragment :=
  if d.columns.isEmpty then [.text "*"] else d.scope.columns d.columns

/-- The columns after `GROUP BY`. -/
def grouping (d : Draft) : Fragment := d.scope.columns d.groupBy

/-- The predicates after `HAVING`. -/
def havingPredicates (d : Draft) (escaper : Escaper) : Fragment :=
  Fragment.joined " AND " (d.scope.groups escaper d.having)

/-- Selects rows. An offset without a limit is not written. -/
def selectStatement (d : Draft) (escaper : Escaper) : Fragment :=
  let others :=
    d.selectList ++ d.fromList ++ d.grouping ++ d.havingPredicates escaper ++ d.ordering
  Fragment.joined " "
    [[.text "SELECT"],
      if d.distinct then [.text "DISTINCT"] else [],
      d.selectList,
      Fragment.clause "FROM" d.fromList,
      d.whereClause escaper others,
      Fragment.clause "GROUP BY" d.grouping,
      Fragment.clause "HAVING" (d.havingPredicates escaper),
      Fragment.clause "ORDER BY" d.ordering,
      countClause "LIMIT" d.limit,
      if d.limit.isSome then countClause "OFFSET" d.offset else []]

/-- The values of a row under the given columns, in parentheses; a column without one has its
default. -/
def tuple (escaper : Escaper) (columns : List String) (r : Row) : String :=
  let item (column : String) : String :=
    match r.get? column with
    | some v => v.assigned escaper
    | none => "DEFAULT"
  "(" ++ ", ".intercalate (columns.map item) ++ ")"

/-- Adds the rows to the primary table. -/
def insertStatement (d : Draft) (escaper : Escaper) : Fragment :=
  match d.primary? with
  | none => []
  | some table =>
    if d.rows.isEmpty || d.insertColumns.isEmpty then []
    else
      Fragment.joined " "
        [[.text "INSERT INTO"],
          [.text table],
          [.text ("(" ++ ", ".intercalate d.insertColumns ++ ")")],
          Fragment.clause "VALUES"
            [.text (", ".intercalate (d.rows.map (tuple escaper d.insertColumns)))]]

/-- An assignment of a value to a column, which belongs to the primary table unless it names its
own. -/
def assignment (d : Draft) (escaper : Escaper) (entry : String × Value) : Fragment :=
  d.scope.key d.primary? entry.1 ++ [.text ("=" ++ entry.2.assigned escaper)]

/-- The assignments of a row. -/
def assignmentList (d : Draft) (escaper : Escaper) (r : Row) : Fragment :=
  Fragment.separated ", " (r.entries.map (d.assignment escaper))

/-- Assigns the values of the given row. -/
def updateStatement (d : Draft) (escaper : Escaper) (r : Row) : Fragment :=
  if r.isEmpty then []
  else
    let others := d.fromList ++ d.assignmentList escaper r ++ d.ordering
    Fragment.joined " "
      [Fragment.clause "UPDATE" d.fromList,
        Fragment.clause "SET" (d.assignmentList escaper r),
        d.whereClause escaper others,
        Fragment.clause "ORDER BY" d.ordering,
        countClause "LIMIT" d.limit]

/-- Changes the rows that meet the conditions to the first of the given rows if any condition is
left, and adds the given rows otherwise. -/
def upsertStatement (d : Draft) (escaper : Escaper) : Fragment :=
  if (d.whereGroups escaper).isEmpty then d.insertStatement escaper
  else d.updateStatement escaper (d.rows.head?.getD .empty)

/-- Deletes rows. -/
def deleteStatement (d : Draft) (escaper : Escaper) : Fragment :=
  Fragment.joined " "
    [Fragment.clause "DELETE FROM" d.fromList,
      d.whereClause escaper (d.fromList ++ d.ordering),
      Fragment.clause "ORDER BY" d.ordering,
      countClause "LIMIT" d.limit]

/-- Empties the declared tables. -/
def truncateStatement (d : Draft) : Fragment :=
  Fragment.clause "TRUNCATE" [.text (", ".intercalate d.tables)]

/-- The statement that the draft describes; it is empty without an action or a table. -/
def statement (d : Draft) (escaper : Escaper) : Fragment :=
  if d.tables.isEmpty then []
  else
    match d.action with
    | none => []
    | some .select => d.selectStatement escaper
    | some .insert => d.insertStatement escaper
    | some .upsert => d.upsertStatement escaper
    | some .update => d.updateStatement escaper d.assignments
    | some .delete => d.deleteStatement escaper
    | some .truncate => d.truncateStatement

end Draft

/-! ## Compiling -/

/-- The text of a statement, and the alias table with the references that the text makes. -/
structure Compiled where
  sql : String
  aliases : AliasTable
deriving DecidableEq, Repr

namespace Draft

/-- The text of the draft's statement and the references in it. -/
def compile (d : Draft) (escaper : Escaper) : Compiled where
  sql := (d.statement escaper).fill d.scope.qualifierOf
  aliases := d.aliases.withReferences (d.statement escaper).references

end Draft

end SqlQuery
