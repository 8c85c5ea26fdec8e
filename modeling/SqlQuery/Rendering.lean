import SqlQuery.Statement

/-!
Writing a statement in one pass.

The pass goes over the draft with a scope of its own at hand, in which the alias table has no
references at first. Wherever it writes the qualifier of a table, it counts one more reference to
that table there. Two parts of a statement read what is counted or undo it. The equalities between
tables come last, since they are written if the pass has referred to both tables by then. The
conditions of an upsert are first tried in a copy of the scope, to see whether any is left.
-/

namespace SqlQuery

namespace Text

/-- The texts that are not empty, with a separator between every two. -/
def joined (separator : String) (texts : List String) : String :=
  separator.intercalate (texts.filter (!·.isEmpty))

/-- A keyword and its body, or nothing where the body is empty. -/
def clause (keyword body : String) : String := if body.isEmpty then "" else keyword ++ " " ++ body

end Text

/-- How often the qualifier of the named table was written so far; an unknown table has none. -/
def Scope.references (s : Scope) (table : String) : Nat :=
  (((s.resolve? table).bind (s.aliases.entries[·]?)).map AliasEntry.references).getD 0

/-- Writes something, and counts the references it makes in the alias table of a scope. -/
abbrev Rendering (α : Type) := StateM Scope α

namespace Rendering

/-! ## Columns -/

/-- The qualifier of the columns of the named table, if they are qualified. It is written wherever
it is asked for, so this is a reference to the table. -/
def qualifier? (table : String) : Rendering (Option String) := do
  let s ← get
  match s.qualify? table with
  | none => return none
  | some i =>
    set { s with aliases := s.aliases.reference i }
    return some (s.qualifierOf i)

/-- The same for a table that may be missing. -/
def qualifierOf? : Option String → Rendering (Option String)
  | none => return none
  | some table => qualifier? table

/-- The key of a condition or an assignment. -/
def key (context : Option String) (field : String) : Rendering String := do
  match Text.splitQualified? field with
  | some (table, column) => return (← qualifier? table).elim field (· ++ "." ++ column)
  | none => return (← qualifierOf? context).elim field (· ++ "." ++ field)

/-- A column of a select list or an ordering. -/
def column (c : Column) : Rendering String := do
  if c.isStar || c.isVerbatim then return c.render none
  return c.render (← qualifierOf? c.table)

/-- The columns of a select list or an ordering. -/
def columns (cs : List Column) : Rendering String := do
  return Text.joined ", " (← cs.mapM column)

/-! ## Tables -/

/-- A part of a statement that names no column. -/
def part (f : Fragment) : Rendering String := do
  return f.fill (← get).qualifierOf

/-- A table where it is introduced. -/
def introduction (table : String) : Rendering String := do
  part ((← get).introduction table)

/-- Two keys with an equals sign between them, each in the context of its own table. -/
def equation (left leftColumn right rightColumn : String) : Rendering String := do
  let leftKey ← key (some left) leftColumn
  let rightKey ← key (some right) rightColumn
  return leftKey ++ " = " ++ rightKey

/-- A join as it is written after the table it extends. -/
def join : Join → Rendering String
  | .raw _ sql => return Text.trim sql
  | .structured kind left right on => do
    let table ← introduction right
    let equations ← on.mapM fun pair => equation left pair.1 right pair.2
    return kind.keyword ++ " JOIN " ++ table ++
      if equations.isEmpty then "" else " ON " ++ " AND ".intercalate equations

/-- An item of the list of tables. -/
def fromItem (item : FromItem) : Rendering String := do
  let head ← item.head.toList.mapM introduction
  let joins ← item.joins.mapM join
  return " ".intercalate (head ++ joins)

/-- The list of tables after `FROM` and `UPDATE`. -/
def fromList (tables : List String) (joins : List Join) : Rendering String := do
  return Text.joined ", " (← (FromItem.ofDeclared tables joins).mapM fromItem)

/-! ## Conditions -/

mutual

/-- What is left of a condition. A comparison that is dropped is dropped before its key is
written. -/
def condition (escaper : Escaper) (context : Option String) (quoted : Bool) :
    Condition → Rendering (List String)
  | .raw sql => return if (Text.trimChars sql.toList).isEmpty then [] else [sql]
  | .compare field comparison operand => do
    if field.isEmpty then return []
    match operand.predicate? escaper quoted comparison with
    | none => return []
    | some text => return [(← key context field) ++ (" " ++ text)]
  | .table name conditions => do
    if (← get).resolves name then conditionsOf escaper (some name) false conditions
    else conditionsOf escaper none quoted conditions

/-- What is left of several conditions, in order. -/
def conditionsOf (escaper : Escaper) (context : Option String) (quoted : Bool) :
    List Condition → Rendering (List String)
  | [] => return []
  | c :: cs => do
    let first ← condition escaper context quoted c
    let rest ← conditionsOf escaper context quoted cs
    return first ++ rest

end

/-- The conditions of a group, combined by its relation and in parentheses, if any is left. -/
def group? (escaper : Escaper) (g : ConditionGroup) : Rendering (Option String) := do
  let left ← conditionsOf escaper g.options.table (!g.options.unquoted) g.conditions
  return if left.isEmpty then none
    else some ("(" ++ g.options.relation.separator.intercalate left ++ ")")

/-- The groups that have conditions left. -/
def groups (escaper : Escaper) (gs : List ConditionGroup) : Rendering (List String) := do
  return (← gs.mapM (group? escaper)).filterMap id

/-- The equalities between tables that were both referred to before any of them is written. -/
def equalities (es : List Equality) : Rendering (List String) := do
  let s ← get
  let live := es.filter fun e => 0 < s.references e.left && 0 < s.references e.right
  live.mapM fun e => equation e.left e.leftColumn e.right e.rightColumn

/-! ## Statements -/

variable (d : Draft) (escaper : Escaper)

/-- A number after its keyword, if there is one. -/
def countClause (keyword : String) (n : Option UInt64) : String :=
  match n with
  | some n => Text.clause keyword n.toNat.repr
  | none => ""

/-- The columns of the select list, all of them if none is named. -/
def selectList : Rendering String :=
  if d.columns.isEmpty then pure "*" else columns d.columns

/-- Selects rows. -/
def select : Rendering String := do
  let selected ← selectList d
  let tables ← fromList d.tables d.joins
  let wheres ← groups escaper d.wheres
  let grouping ← columns d.groupBy
  let having ← groups escaper d.having
  let ordering ← columns d.orderBy
  let equations ← equalities d.equalities
  return Text.joined " "
    ["SELECT",
      if d.distinct then "DISTINCT" else "",
      selected,
      Text.clause "FROM" tables,
      Text.clause "WHERE" (Text.joined " AND " (wheres ++ equations)),
      Text.clause "GROUP BY" grouping,
      Text.clause "HAVING" (Text.joined " AND " having),
      Text.clause "ORDER BY" ordering,
      countClause "LIMIT" d.limit,
      if d.limit.isSome then countClause "OFFSET" d.offset else ""]

/-- Assigns the values of the given row. -/
def update (r : Row) : Rendering String := do
  if r.isEmpty then return ""
  let tables ← fromList d.tables d.joins
  let assignments ← r.entries.mapM fun entry => do
    return (← key d.primary? entry.1) ++ ("=" ++ entry.2.assigned escaper)
  let wheres ← groups escaper d.wheres
  let ordering ← columns d.orderBy
  let equations ← equalities d.equalities
  return Text.joined " "
    [Text.clause "UPDATE" tables,
      Text.clause "SET" (", ".intercalate assignments),
      Text.clause "WHERE" (Text.joined " AND " (wheres ++ equations)),
      Text.clause "ORDER BY" ordering,
      countClause "LIMIT" d.limit]

/-- Deletes rows. -/
def delete : Rendering String := do
  let tables ← fromList d.tables d.joins
  let wheres ← groups escaper d.wheres
  let ordering ← columns d.orderBy
  let equations ← equalities d.equalities
  return Text.joined " "
    [Text.clause "DELETE FROM" tables,
      Text.clause "WHERE" (Text.joined " AND " (wheres ++ equations)),
      Text.clause "ORDER BY" ordering,
      countClause "LIMIT" d.limit]

/-- Changes rows if any condition on them is left, and adds rows otherwise. What is counted while
this is tried is forgotten. -/
def upsert : Rendering String := do
  let s ← get
  let (tried, _) := (groups escaper d.wheres).run s
  if tried.isEmpty then part (d.insertStatement escaper)
  else
    match d.rows.head? with
    | none => return ""
    | some r => update d escaper r

/-- The statement that the draft describes. -/
def statement : Rendering String := do
  if d.tables.isEmpty then return ""
  match d.action with
  | none => return ""
  | some .select => select d escaper
  | some .insert => part (d.insertStatement escaper)
  | some .upsert => upsert d escaper
  | some .update => update d escaper d.assignments
  | some .delete => delete d escaper
  | some .truncate => part d.truncateStatement

end Rendering

/-- The text of the draft's statement and the references counted while it was written. -/
def Draft.render (d : Draft) (escaper : Escaper) : Compiled :=
  let (sql, after) := (Rendering.statement d escaper).run
    { d.scope with aliases := d.aliases.clearReferences }
  ⟨sql, after.aliases⟩

end SqlQuery
