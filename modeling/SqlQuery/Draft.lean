import SqlQuery.Column.Parser
import SqlQuery.Condition
import SqlQuery.From
import SqlQuery.Row

/-!
The draft of a statement: everything the caller has asked for so far.
-/

namespace SqlQuery

/-- The kinds of statements. -/
inductive Action
  | select
  /-- Adds rows. -/
  | insert
  /-- Changes rows if there is a condition on them, and adds rows otherwise. -/
  | upsert
  | update
  | delete
  | truncate
deriving DecidableEq, Repr

/-- A text that names no kind of statement. -/
structure UnknownAction where
  text : String
deriving DecidableEq, Repr

/-- The wording of the error. -/
def UnknownAction.message (e : UnknownAction) : String :=
  "unknown query action `" ++ e.text ++ "`"

namespace Action

/-- The verb of the action. -/
def verb : Action → String
  | .select => "select"
  | .insert => "insert"
  | .upsert => "upsert"
  | .update => "update"
  | .delete => "delete"
  | .truncate => "truncate"

/-- The action changes the data. -/
def isMutation (a : Action) : Bool := a != .select

/-- Every action, in the order of their definition. -/
def all : List Action := [.select, .insert, .upsert, .update, .delete, .truncate]

theorem mem_all (a : Action) : a ∈ all := by cases a <;> decide

/-- The action with the given verb, whatever the case of its letters and the blanks around it. -/
def ofVerb? (text : String) : Option Action :=
  let word := String.ofList ((Text.trimChars text.toList).map Char.toLower)
  all.find? (·.verb == word)

/-- Reads an action from its verb. -/
def parse (text : String) : Except UnknownAction Action :=
  match ofVerb? text with
  | some a => .ok a
  | none => .error ⟨text⟩

/-- An action is read back from its verb. -/
theorem parse_verb (a : Action) : parse a.verb = .ok a := by
  have h : ofVerb? a.verb = some a := by cases a <;> decide +kernel
  simp [parse, h]

end Action

/-- What a statement is to say. -/
structure Draft where
  action : Option Action := none
  aliases : AliasTable := {}
  mode : AliasMode
  /-- The tables that were declared, in order. -/
  tables : List String := []
  columns : List Column := []
  distinct : Bool := false
  joins : List Join := []
  equalities : List Equality := []
  wheres : List ConditionGroup := []
  groupBy : List Column := []
  having : List ConditionGroup := []
  orderBy : List Column := []
  limit : Option UInt64 := none
  offset : Option UInt64 := none
  /-- The columns of the rows to be added, in the order in which they were first named. -/
  insertColumns : List String := []
  rows : List Row := []
  /-- The row of values to change to. -/
  assignments : Row := .empty

namespace Draft

/-- The draft in which nothing has been asked for. -/
def empty (mode : AliasMode) : Draft := { mode }

/-- The table that rows are added to, and whose columns are assigned: the first one declared. -/
def primary? (d : Draft) : Option String := d.tables.head?

/-- Adds a text to a list of texts, unless it is in there. -/
def addNew (texts : List String) (text : String) : List String :=
  if texts.contains text then texts else texts ++ [text]

/-- Declares a table under its trimmed name, and registers it; a blank name declares none. -/
def declare (d : Draft) (table : String) : Draft :=
  let name := Text.trim table
  if name.isEmpty then d
  else { d with aliases := d.aliases.register name, tables := addNew d.tables name }

/-- Adds a row, and its columns to the columns of the rows; a row without columns adds nothing. -/
def addRow (d : Draft) (r : Row) : Draft :=
  if r.isEmpty then d
  else { d with insertColumns := r.columns.foldl addNew d.insertColumns, rows := d.rows ++ [r] }

theorem addNew_of_mem {texts : List String} {text : String} (h : text ∈ texts) :
    addNew texts text = texts := by
  simp [addNew, h]

theorem addNew_of_not_mem {texts : List String} {text : String} (h : text ∉ texts) :
    addNew texts text = texts ++ [text] := by
  simp [addNew, h]

/-- No text is added twice. -/
theorem nodup_addNew {texts : List String} (h : texts.Nodup) (text : String) :
    (addNew texts text).Nodup := by
  unfold addNew
  split
  · exact h
  · rename_i hm
    simp only [List.contains_eq_mem, decide_eq_true_eq] at hm
    refine List.nodup_append.2 ⟨h, by simp, ?_⟩
    intro a ha b hb
    simp only [List.mem_singleton] at hb
    exact fun hab => hm (hb ▸ hab ▸ ha)

end Draft

end SqlQuery
