import SqlQuery.Proofs.FragmentTranscript
import SqlQuery.Proofs.FromLayout
import SqlQuery.Proofs.WrittenValue

/-!
Drafts into whose statement only values can bring a quote.

`Draft.IsWellQuoted` asks that names, columns and join clauses have no quotes, that groups write
their values quoted and compare fields only, and that no value is an expression or a sub-query.
Every part of the statement that prints no value is then free of quotes.
-/

namespace SqlQuery

open Text

/-! ## Drafts that bring in quotes with their values only -/

/-- What is written of the column has no quote. -/
def Column.IsQuoteFree (c : Column) : Prop :=
  match c.body with
  | .verbatim sql => QuoteFree sql
  | .named column => QuoteFree column.opening ∧ QuoteFree column.name ∧ QuoteFree column.closing

/-- What is written of the join has no quote. -/
def Join.IsQuoteFree : Join → Prop
  | .raw _ sql => QuoteFree sql
  | .structured _ _ right on =>
    QuoteFree right ∧ ∀ pair ∈ on, QuoteFree pair.1 ∧ QuoteFree pair.2

/-- The condition compares a field without a quote with data. -/
def Condition.IsWellQuoted : Condition → Prop
  | .compare field _ operand => QuoteFree field ∧ operand.IsData
  | _ => False

/-- The group writes its values in quotes, and compares fields with data only. -/
def ConditionGroup.IsWellQuoted (g : ConditionGroup) : Prop :=
  g.options.unquoted = false ∧ ∀ c ∈ g.conditions, c.IsWellQuoted

/-- The columns of the row have no quotes, and no value is an expression. -/
def Row.IsWellQuoted (r : Row) : Prop :=
  ∀ entry ∈ r.entries, QuoteFree entry.1 ∧ entry.2.isExpression = false

/-- Only the values of the draft can have quotes in them, and all of them are written in quotes. -/
structure Draft.IsWellQuoted (d : Draft) : Prop where
  tables : ∀ table ∈ d.tables, QuoteFree table
  aliases : ∀ entry ∈ d.aliases.entries, QuoteFree entry.name ∧ QuoteFree entry.aliasName
  columns : ∀ c ∈ d.columns ++ d.groupBy ++ d.orderBy, c.IsQuoteFree
  joins : ∀ j ∈ d.joins, j.IsQuoteFree
  equalities : ∀ e ∈ d.equalities, QuoteFree e.leftColumn ∧ QuoteFree e.rightColumn
  groups : ∀ g ∈ d.wheres ++ d.having, g.IsWellQuoted
  insertColumns : ∀ column ∈ d.insertColumns, QuoteFree column
  rows : ∀ r ∈ d.assignments :: d.rows, r.IsWellQuoted

/-! ## Parts without quotes -/

theorem Text.quoteFree_trim {s : String} (free : QuoteFree s) : QuoteFree (trim s) := by
  intro member
  rw [toList_trim, trimChars, trimEnd, List.mem_reverse] at member
  have inStart := List.mem_reverse.1 ((List.dropWhile_sublist _).mem member)
  exact free ((List.dropWhile_sublist _).mem inStart)

theorem Text.quoteFree_repr (n : Nat) : QuoteFree n.repr :=
  fun member => (plain_repr n _ member).1 rfl

/-- What a key names behind its table has no quote if the key has none. -/
theorem Text.quoteFree_of_splitQualified? {field table column : String} (free : QuoteFree field)
    (split : splitQualified? field = some (table, column)) : QuoteFree column := by
  unfold splitQualified? at split
  dsimp only at split
  split at split
  case h_1 rest dropped =>
    split at split
    case isTrue =>
      obtain ⟨-, rfl⟩ := Prod.mk.inj (Option.some.inj split)
      intro member
      rw [String.toList_ofList] at member
      have inside : '\x27' ∈ field.toList.dropWhile (· != '.') := by
        rw [dropped]
        exact List.mem_cons_of_mem _ member
      exact free ((List.dropWhile_sublist _).mem inside)
    case isFalse => cases split
  case h_2 => cases split

namespace Scope

variable {s : Scope}

/-- The slot of a table is no text, so the table of a key does not matter. -/
theorem quoteFree_key {context : Option String} {field : String} (free : QuoteFree field) :
    (s.key context field).QuoteFree := by
  have dot : QuoteFree "." := by decide
  unfold key
  split
  case h_1 table column split =>
    have columnFree := quoteFree_of_splitQualified? free split
    split <;> simp [qualified, free, columnFree, dot]
  case h_2 =>
    unfold qualified
    split <;> simp [free, dot]

/-- Only the columns of an equation are written as texts of their own. -/
theorem quoteFree_equation {left leftColumn right rightColumn : String}
    (leftFree : QuoteFree leftColumn) (rightFree : QuoteFree rightColumn) :
    (s.equation left leftColumn right rightColumn).QuoteFree := by
  have equals : QuoteFree " = " := by decide
  unfold equation
  rw [Fragment.quoteFree_append, Fragment.quoteFree_text]
  exact ⟨quoteFree_key leftFree, equals, quoteFree_key rightFree⟩

/-- A column has the quotes of its parts and no others. -/
theorem quoteFree_column {c : Column} (free : c.IsQuoteFree) : (s.column c).QuoteFree := by
  have dot : QuoteFree "." := by decide
  unfold Column.IsQuoteFree at free
  unfold column
  split
  case h_1 sql body =>
    rw [body] at free
    simpa using free
  case h_2 named body =>
    rw [body] at free
    obtain ⟨opening, name, closing⟩ := free
    dsimp only
    split <;> simp [opening, name, closing, dot]

theorem quoteFree_columns {cs : List Column} (free : ∀ c ∈ cs, c.IsQuoteFree) :
    (s.columns cs).QuoteFree := by
  apply Fragment.quoteFree_joined (by decide)
  intro f member
  obtain ⟨c, inside, rfl⟩ := List.mem_map.1 member
  exact quoteFree_column (free c inside)

/-- The names and aliases of the scope have no quotes. -/
def NamesQuoteFree (s : Scope) : Prop :=
  ∀ entry ∈ s.aliases.entries, QuoteFree entry.name ∧ QuoteFree entry.aliasName

/-- A qualifier is a name or an alias of a table, whatever the mode. -/
theorem quoteFree_qualifierOf (names : s.NamesQuoteFree) (table : Nat) :
    QuoteFree (s.qualifierOf table) := by
  unfold qualifierOf
  cases found : s.aliases.entries[table]? with
  | none =>
    change QuoteFree ""
    decide
  | some entry =>
    obtain ⟨name, aliasName⟩ := names entry (List.mem_of_getElem? found)
    change QuoteFree (entry.qualifier s.mode)
    unfold AliasEntry.qualifier
    split
    · exact aliasName
    · exact name

/-- A table is introduced by the name that the alias table has for it, or by the given text. -/
theorem quoteFree_introduction (names : s.NamesQuoteFree) {table : String}
    (free : QuoteFree table) : (s.introduction table).QuoteFree := by
  have as_ : QuoteFree " AS " := by decide
  unfold introduction
  split
  case h_1 => simpa using free
  case h_2 i resolved =>
    split
    case h_1 => simpa using free
    case h_2 entry found =>
      have name := (names entry (List.mem_of_getElem? found)).1
      split <;> simp [name, as_]

/-- A join adds keywords and an equals sign to names. -/
theorem quoteFree_join (names : s.NamesQuoteFree) {j : Join} (free : j.IsQuoteFree) :
    (s.join j).QuoteFree := by
  cases j with
  | raw left sql =>
    have trimmed := quoteFree_trim free
    simpa [join] using trimmed
  | structured kind left right on =>
    obtain ⟨rightFree, pairs⟩ := free
    have keyword : QuoteFree (kind.keyword ++ " JOIN ") := by cases kind <;> decide
    have on_ : QuoteFree " ON " := by decide
    have head := quoteFree_introduction names rightFree
    unfold join
    dsimp only
    split
    · rw [Fragment.quoteFree_text]
      exact ⟨keyword, head⟩
    · rw [Fragment.quoteFree_append, Fragment.quoteFree_text, Fragment.quoteFree_text]
      refine ⟨⟨keyword, head⟩, on_, Fragment.quoteFree_separated (by decide) ?_⟩
      intro f member
      obtain ⟨pair, inside, rfl⟩ := List.mem_map.1 member
      exact quoteFree_equation (pairs pair inside).1 (pairs pair inside).2

/-- An item of the list of tables has no quote if its tables and joins have none. -/
theorem quoteFree_fromItem (names : s.NamesQuoteFree) {item : FromItem}
    (head : ∀ table, item.head = some table → QuoteFree table)
    (joins : ∀ j ∈ item.joins, j.IsQuoteFree) : (s.fromItem item).QuoteFree := by
  apply Fragment.quoteFree_separated (by decide)
  intro f member
  rcases List.mem_append.1 member with inHead | inJoins
  · obtain ⟨table, isHead, rfl⟩ := Option.map_eq_some_iff.1 (Option.mem_toList.1 inHead)
    exact quoteFree_introduction names (head table isHead)
  · obtain ⟨j, inside, rfl⟩ := List.mem_map.1 inJoins
    exact quoteFree_join names (joins j inside)

end Scope

namespace Draft

variable {d : Draft}

theorem IsWellQuoted.names (quoted : d.IsWellQuoted) : d.scope.NamesQuoteFree := quoted.aliases

/-- The list of tables holds no value, so nothing in it is in quotes. -/
theorem IsWellQuoted.quoteFree_fromList (quoted : d.IsWellQuoted) : d.fromList.QuoteFree := by
  apply Fragment.quoteFree_joined (by decide)
  intro f member
  obtain ⟨item, listed, rfl⟩ := List.mem_map.1 member
  apply Scope.quoteFree_fromItem quoted.names
  · exact fun table head => quoted.tables table (FromItem.mem_tables_of_head listed head)
  · exact fun j placed => quoted.joins j (FromItem.mem_joins_of_item listed placed)

theorem IsWellQuoted.quoteFree_ordering (quoted : d.IsWellQuoted) : d.ordering.QuoteFree :=
  Scope.quoteFree_columns fun c member => quoted.columns c (List.mem_append_right _ member)

theorem IsWellQuoted.quoteFree_grouping (quoted : d.IsWellQuoted) : d.grouping.QuoteFree :=
  Scope.quoteFree_columns fun c member =>
    quoted.columns c (List.mem_append_left _ (List.mem_append_right _ member))

theorem IsWellQuoted.quoteFree_selectList (quoted : d.IsWellQuoted) : d.selectList.QuoteFree := by
  have star : QuoteFree "*" := by decide
  unfold selectList
  split
  · simpa using star
  · exact Scope.quoteFree_columns fun c member =>
      quoted.columns c (List.mem_append_left _ (List.mem_append_left _ member))

theorem quoteFree_countClause {keyword : String} (free : QuoteFree keyword) (n : Option UInt64) :
    (countClause keyword n).QuoteFree := by
  unfold countClause
  split
  · exact Fragment.quoteFree_clause free (Fragment.quoteFree_singleton (quoteFree_repr _))
  · exact Fragment.quoteFree_nil

end Draft

end SqlQuery
