import SqlQuery.Alias.Table
import SqlQuery.Column
import SqlQuery.Fragment

/-!
The scope of a statement: which names stand for its tables, and whether its columns are qualified.

A column is qualified by a slot for its table, so rendering leaves the alias table alone.
-/

namespace SqlQuery

/-- What the names in a statement are resolved with. -/
structure Scope where
  aliases : AliasTable
  mode : AliasMode
  /-- Columns are qualified. -/
  active : Bool

namespace Scope

/-- The place of the table with the given name or, if none has it, with the given alias. -/
def resolve? (s : Scope) (text : String) : Option Nat := s.aliases.resolve? text

/-- The name is that of a table, or its alias. -/
def resolves (s : Scope) (text : String) : Bool := (s.resolve? text).isSome

/-- The table whose slot qualifies the columns of the named one, where columns are qualified. -/
def qualify? (s : Scope) (text : String) : Option Nat :=
  if s.active then s.resolve? text else none

/-- The qualifier of the table at the given place. -/
def qualifierOf (s : Scope) (table : Nat) : String :=
  ((s.aliases.entries[table]?).map (·.qualifier s.mode)).getD ""

/-- A column's name behind the slot of its table, or behind nothing. -/
def qualified (table : Option Nat) (name : String) : Fragment :=
  match table with
  | some i => [.qualifier i, .text ("." ++ name)]
  | none => [.text name]

/-- The key of a condition or an assignment. One of the form `table.column` belongs to the table it
names and stays as it is if that is unknown; any other belongs to the table of its context. -/
def key (s : Scope) (context : Option String) (field : String) : Fragment :=
  match Text.splitQualified? field with
  | some (table, column) =>
    match s.qualify? table with
    | some i => qualified (some i) column
    | none => [.text field]
  | none => qualified (context.bind s.qualify?) field

/-- A column of a select list or an ordering. A star or a verbatim expression is not qualified. -/
def column (s : Scope) (c : Column) : Fragment :=
  match c.body with
  | .verbatim sql => [.text sql]
  | .named column =>
    let table := if c.isStar then none else c.table.bind s.qualify?
    match table with
    | some i =>
      [.text column.opening, .qualifier i, .text ("." ++ column.name ++ column.closing)]
    | none => [.text (column.opening ++ column.name ++ column.closing)]

/-- The columns of a select list or an ordering. -/
def columns (s : Scope) (cs : List Column) : Fragment :=
  Fragment.joined ", " (cs.map s.column)

/-- A table where it is introduced: its name and, if its columns are qualified by another one, that
one after `AS`. An unknown table is introduced by the name it is given. -/
def introduction (s : Scope) (text : String) : Fragment :=
  match s.resolve? text with
  | none => [.text text]
  | some i =>
    match s.aliases.entries[i]? with
    | none => [.text text]
    | some entry =>
      if s.active && entry.qualifier s.mode != entry.name then
        [.text (entry.name ++ " AS "), .introduced i]
      else
        [.text entry.name]

/-! ## Laws of rendering -/

theorem qualify?_of_not_active {s : Scope} (h : s.active = false) (text : String) :
    s.qualify? text = none := by
  simp [qualify?, h]

/-- Introducing a table is no reference to it. -/
theorem references_introduction (s : Scope) (text : String) (table : Nat) :
    (s.introduction text).references table = 0 := by
  unfold introduction
  repeat' split
  all_goals simp

/-- The text of a column is the column rendered with the text of its slot. -/
theorem fill_column (s : Scope) (c : Column) (nameOf : Nat → String) :
    (s.column c).fill nameOf = c.render ((c.table.bind s.qualify?).map nameOf) := by
  obtain ⟨table, body⟩ := c
  cases body with
  | verbatim sql => simp [column, Column.render, Piece.fill]
  | named n =>
    cases h : (table.bind s.qualify?) <;>
      by_cases star : Column.isStar ⟨table, .named n⟩ = true <;>
      simp [column, Column.render, Piece.fill, h, star, String.append_assoc]

end Scope

end SqlQuery
