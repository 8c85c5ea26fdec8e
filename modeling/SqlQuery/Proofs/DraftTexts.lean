import SqlQuery.Proofs.Survival
import SqlQuery.Proofs.WellQuoted

/-!
The strings in the statement of a draft.

`Draft.texts` lists the texts of the values in the order in which they are printed, and
`Draft.IsWellQuoted.reads_statement` shows that these are the strings of the statement of a draft
that is well quoted, no more and no fewer.
-/

namespace SqlQuery

open Text

/-! ## The texts of values, in the order in which they are printed -/

/-- The texts that a comparison prints.  Other conditions are not comparisons. -/
def Condition.texts : Condition → List String
  | .compare field comparison operand =>
    if field.isEmpty then [] else (operand.texts? comparison).getD []
  | _ => []

/-- The texts that a group prints. -/
def ConditionGroup.texts (g : ConditionGroup) : List String := g.conditions.flatMap Condition.texts

namespace Draft

/-- The texts of the rows to be added, row by row in the order of the columns. -/
def addedTexts (d : Draft) : List String :=
  d.rows.flatMap fun r => d.insertColumns.filterMap fun c => (r.get? c).bind Value.shown?

/-- The texts of the groups on the rows. -/
def whereTexts (d : Draft) : List String := d.wheres.flatMap ConditionGroup.texts

/-- The texts of a row of assignments and of the groups after it. -/
def changedTexts (d : Draft) (r : Row) : List String :=
  if r.isEmpty then [] else r.entries.filterMap (·.2.shown?) ++ d.whereTexts

/-- The texts of the values that the statement prints, in order. -/
def texts (d : Draft) : List String :=
  if d.tables.isEmpty then []
  else
    match d.action with
    | none => []
    | some .select => d.whereTexts ++ d.having.flatMap ConditionGroup.texts
    | some .insert => d.addedTexts
    | some .upsert =>
      if d.wheres.any ConditionGroup.survives then d.changedTexts (d.rows.head?.getD .empty)
      else d.addedTexts
    | some .update => d.changedTexts d.assignments
    | some .delete => d.whereTexts
    | some .truncate => []

end Draft

/-! ## Groups of conditions -/

namespace Scope

variable (s : Scope)

/-- A condition that is written prints its texts, and one that is dropped has none. -/
theorem readsAll_leaves (known : String → Bool) (context : Option String) {c : Condition}
    (quoted : c.IsWellQuoted) :
    Fragment.ReadsAll ((c.leaves known context true).filterMap (s.predicate? .mysql)) c.texts := by
  cases c with
  | raw sql => exact quoted.elim
  | table name conditions => exact quoted.elim
  | compare field comparison operand =>
    obtain ⟨fieldFree, data⟩ := quoted
    have read := Operand.transcript?_predicate? comparison data
    by_cases unnamed : field.isEmpty = true
    · simpa [Condition.leaves, predicate?, Condition.texts, unnamed] using Fragment.ReadsAll.nil
    · cases written : operand.predicate? .mysql true comparison with
      | none =>
        rw [written] at read
        have dropped : operand.texts? comparison = none := by simpa using read.symm
        simpa [Condition.leaves, predicate?, Condition.texts, unnamed, written, dropped] using
          Fragment.ReadsAll.nil
      | some text =>
        rw [written] at read
        obtain ⟨texts, shown, same⟩ := Option.map_eq_some_iff.1 read.symm
        have spaced := transcript?_append (transcript?_of_quoteFree quoteFree_space) same.symm
        have after := Fragment.Reads.ofText spaced
        have key : (s.key context field).QuoteFree := quoteFree_key fieldFree
        have all := (Fragment.Reads.of_quoteFree key).append after
        simpa [Condition.leaves, predicate?, Condition.texts, unnamed, written, shown] using
          Fragment.ReadsAll.cons all .nil

/-- The strings of a group are those of its conditions, in the order of its leaves. -/
theorem readsAll_predicates {g : ConditionGroup} (quoted : g.IsWellQuoted) :
    Fragment.ReadsAll (s.predicates .mysql g) g.texts := by
  obtain ⟨inQuotes, conditions⟩ := quoted
  unfold predicates ConditionGroup.leaves ConditionGroup.texts
  rw [inQuotes, Bool.not_false]
  generalize g.conditions = cs at conditions ⊢
  induction cs with
  | nil => exact .nil
  | cons c cs ih =>
    have first := readsAll_leaves s s.resolves g.options.table (conditions c List.mem_cons_self)
    have rest := ih fun other member => conditions other (List.mem_cons_of_mem c member)
    rw [Condition.leavesOfAll, List.filterMap_append, List.flatMap_cons]
    exact first.append rest

/-- A group that is written prints its texts, and one that is dropped has none. -/
theorem readsAll_groups {gs : List ConditionGroup} (quoted : ∀ g ∈ gs, g.IsWellQuoted) :
    Fragment.ReadsAll (s.groups .mysql gs) (gs.flatMap ConditionGroup.texts) := by
  have opening : QuoteFree "(" := by decide
  have closing : QuoteFree ")" := by decide
  apply Fragment.ReadsAll.filterMap
  · intro g member f written
    have reads := readsAll_predicates s (quoted g member)
    have separator : QuoteFree g.options.relation.separator := by
      cases g.options.relation <;> decide
    unfold group? at written
    split at written
    case h_1 => cases written
    case h_2 =>
      obtain rfl := Option.some.inj written
      have inner := (reads.separated separator).append
        (.ofText (transcript?_of_quoteFree closing))
      simpa using Fragment.Reads.text (transcript?_of_quoteFree opening) inner
  · intro g member dropped
    have reads := readsAll_predicates s (quoted g member)
    unfold group? at dropped
    split at dropped
    case h_1 none =>
      rw [none] at reads
      generalize g.texts = texts at reads
      cases reads
      rfl
    case h_2 => cases dropped

/-- An equality compares columns, so it has no string. -/
theorem readsAll_equalities {es : List Equality}
    (free : ∀ e ∈ es, QuoteFree e.leftColumn ∧ QuoteFree e.rightColumn) (mentioned : Fragment) :
    Fragment.ReadsAll (s.equalities mentioned es) [] := by
  apply Fragment.ReadsAll.of_quoteFree
  intro f member
  obtain ⟨e, kept, rfl⟩ := List.mem_map.1 member
  have columns := free e (List.mem_filter.1 kept).1
  exact quoteFree_equation columns.1 columns.2

end Scope

/-! ## Statements -/

namespace Draft

variable {d : Draft}

theorem IsWellQuoted.readsAll_whereGroups (quoted : d.IsWellQuoted) :
    Fragment.ReadsAll (d.whereGroups .mysql) d.whereTexts :=
  Scope.readsAll_groups d.scope fun g member => quoted.groups g (List.mem_append_left _ member)

/-- The `WHERE` clause has the strings of the groups. -/
theorem IsWellQuoted.reads_whereClause (quoted : d.IsWellQuoted) (others : Fragment) :
    (d.whereClause .mysql others).Reads d.whereTexts := by
  have equalities := Scope.readsAll_equalities d.scope quoted.equalities
    (others ++ (d.whereGroups .mysql).flatten)
  have all := quoted.readsAll_whereGroups.append equalities
  rw [List.append_nil] at all
  exact .clause (by decide) (all.joined (by decide))

theorem IsWellQuoted.reads_havingPredicates (quoted : d.IsWellQuoted) :
    (d.havingPredicates .mysql).Reads (d.having.flatMap ConditionGroup.texts) := by
  have all := Scope.readsAll_groups d.scope fun g member =>
    quoted.groups g (List.mem_append_right d.wheres member)
  exact all.joined (by decide)

/-- A selection has strings in `WHERE` and `HAVING` only. -/
theorem IsWellQuoted.reads_selectStatement (quoted : d.IsWellQuoted) :
    (d.selectStatement .mysql).Reads (d.whereTexts ++ d.having.flatMap ConditionGroup.texts) := by
  have select : Fragment.QuoteFree [.text "SELECT"] := Fragment.quoteFree_singleton (by decide)
  have distinct : Fragment.QuoteFree (if d.distinct then [.text "DISTINCT"] else []) := by
    split
    · exact Fragment.quoteFree_singleton (by decide)
    · exact Fragment.quoteFree_nil
  have offset :
      Fragment.QuoteFree (if d.limit.isSome then countClause "OFFSET" d.offset else []) := by
    split
    · exact quoteFree_countClause (by decide) _
    · exact Fragment.quoteFree_nil
  have tail : Fragment.ReadsAll
      [Fragment.clause "ORDER BY" d.ordering, countClause "LIMIT" d.limit,
        if d.limit.isSome then countClause "OFFSET" d.offset else []] [] :=
    .cons_quoteFree (Fragment.quoteFree_clause (by decide) quoted.quoteFree_ordering)
      (.cons_quoteFree (quoteFree_countClause (by decide) _) (.cons_quoteFree offset .nil))
  have grouping : (Fragment.clause "GROUP BY" d.grouping).QuoteFree :=
    Fragment.quoteFree_clause (by decide) quoted.quoteFree_grouping
  have having : (Fragment.clause "HAVING" (d.havingPredicates .mysql)).Reads
      (d.having.flatMap ConditionGroup.texts) :=
    .clause (by decide) quoted.reads_havingPredicates
  -- Only the groups print values, those on the rows before those on the groups of rows.
  unfold selectStatement
  apply Fragment.ReadsAll.joined (by decide)
  have parts := Fragment.ReadsAll.cons
    (quoted.reads_whereClause (d.selectList ++ d.fromList ++ d.grouping ++
      d.havingPredicates .mysql ++ d.ordering))
    (.cons_quoteFree grouping (.cons having tail))
  rw [List.append_nil] at parts
  exact .cons_quoteFree select (.cons_quoteFree distinct
    (.cons_quoteFree quoted.quoteFree_selectList
      (.cons_quoteFree (Fragment.quoteFree_clause (by decide) quoted.quoteFree_fromList) parts)))

/-! ## Rows -/

/-- An item of a tuple: the value of a row under a column, or the default. -/
def itemText (escaper : Escaper) (r : Row) (column : String) : String :=
  match r.get? column with
  | some v => v.assigned escaper
  | none => "DEFAULT"

theorem tuple_eq (escaper : Escaper) (columns : List String) (r : Row) :
    tuple escaper columns r = "(" ++ ", ".intercalate (columns.map (itemText escaper r)) ++ ")" :=
  rfl

/-- What an item of a tuple is read back as. -/
def itemTranscript (r : Row) (column : String) : Transcript :=
  match r.get? column with
  | some v => v.transcript
  | none => ⟨marks "DEFAULT", []⟩

/-- What a tuple is read back as. -/
def tupleTranscript (columns : List String) (r : Row) : Transcript where
  skeleton := marks "(" ++
    (marks ", ").intercalate (columns.map fun c => (itemTranscript r c).skeleton) ++ marks ")"
  strings := columns.flatMap fun c => (itemTranscript r c).strings

/-- The value of a column in a row is read as the string it shows, and `DEFAULT` as none. -/
theorem transcript?_itemText {r : Row} (quoted : r.IsWellQuoted) (column : String) :
    transcript? (itemText .mysql r column) = some (itemTranscript r column) := by
  unfold itemText itemTranscript
  cases found : r.get? column with
  | none =>
    have default_ : QuoteFree "DEFAULT" := by decide
    exact transcript?_of_quoteFree default_
  | some v =>
    obtain ⟨entry, isEntry, rfl⟩ := Option.map_eq_some_iff.1 found
    exact Value.transcript?_assigned (quoted entry (List.mem_of_find?_eq_some isEntry)).2

/-- A tuple has the strings of its items, from left to right. -/
theorem transcript?_tuple {r : Row} (quoted : r.IsWellQuoted) (columns : List String) :
    transcript? (tuple .mysql columns r) = some (tupleTranscript columns r) := by
  have items := transcript?_intercalate quoteFree_comma fun c (_ : c ∈ columns) =>
    transcript?_itemText quoted c
  rw [tuple_eq]
  exact transcript?_parenthesized items

/-- An item is one string exactly when it is a value that shows a text. -/
theorem strings_itemTranscript (r : Row) (column : String) :
    (itemTranscript r column).strings = ((r.get? column).bind Value.shown?).toList := by
  unfold itemTranscript
  cases r.get? column with
  | none => rfl
  | some v =>
    unfold Value.transcript
    cases shown : v.shown? <;> simp [shown]

theorem addedTexts_eq (d : Draft) :
    d.addedTexts = d.rows.flatMap fun r => (tupleTranscript d.insertColumns r).strings := by
  unfold addedTexts tupleTranscript
  congr 1
  funext r
  rw [List.filterMap_eq_flatMap_toList]
  simp only [strings_itemTranscript]

/-- Without rows or columns nothing is added, so nothing is shown. -/
theorem addedTexts_eq_nil {d : Draft} (none : (d.rows.isEmpty || d.insertColumns.isEmpty) = true) :
    d.addedTexts = [] := by
  rw [Bool.or_eq_true, List.isEmpty_iff, List.isEmpty_iff] at none
  unfold addedTexts
  rcases none with rows | columns
  · rw [rows]
    rfl
  · rw [columns]
    exact List.flatMap_eq_nil_iff.2 fun r _ => rfl

/-- The tuples of the rows have the texts of the rows. -/
theorem IsWellQuoted.reads_tuples (quoted : d.IsWellQuoted) :
    Fragment.Reads [.text (", ".intercalate (d.rows.map (tuple .mysql d.insertColumns)))]
      d.addedTexts := by
  have tuples := transcript?_intercalate quoteFree_comma fun r (member : r ∈ d.rows) =>
    transcript?_tuple (quoted.rows r (List.mem_cons_of_mem _ member)) d.insertColumns
  rw [addedTexts_eq]
  exact .ofText tuples

theorem IsWellQuoted.quoteFree_columnList (quoted : d.IsWellQuoted) :
    QuoteFree ("(" ++ ", ".intercalate d.insertColumns ++ ")") := by
  have opening : QuoteFree "(" := by decide
  have closing : QuoteFree ")" := by decide
  rw [quoteFree_append, quoteFree_append]
  exact ⟨⟨opening, quoteFree_intercalate quoteFree_comma quoted.insertColumns⟩, closing⟩

/-- Adding rows shows the values of the rows, row by row and in the order of the columns. -/
theorem IsWellQuoted.reads_insertStatement (quoted : d.IsWellQuoted) :
    (d.insertStatement .mysql).Reads
      (match d.primary? with
        | none => []
        | some _ => d.addedTexts) := by
  unfold insertStatement
  cases primary : d.primary? with
  | none => exact .nil
  | some table =>
    dsimp only
    split
    case isTrue none =>
      rw [addedTexts_eq_nil none]
      exact .nil
    case isFalse =>
      have insert : Fragment.QuoteFree [.text "INSERT INTO"] :=
        Fragment.quoteFree_singleton (by decide)
      have name : Fragment.QuoteFree [.text table] :=
        Fragment.quoteFree_singleton (quoted.tables table (List.mem_of_head? primary))
      have columns := Fragment.quoteFree_singleton quoted.quoteFree_columnList
      have valuesFree : QuoteFree "VALUES" := by decide
      have values := Fragment.ReadsAll.cons (quoted.reads_tuples.clause valuesFree) .nil
      rw [List.append_nil] at values
      apply Fragment.ReadsAll.joined (by decide)
      exact .cons_quoteFree insert (.cons_quoteFree name (.cons_quoteFree columns values))

/-! ## Other statements -/

/-- Assignments show the values of the row in the order of its columns. -/
theorem reads_assignmentList {r : Row} (quoted : r.IsWellQuoted) :
    (d.assignmentList .mysql r).Reads (r.entries.filterMap (·.2.shown?)) := by
  have equals : QuoteFree "=" := by decide
  have each : ∀ entry ∈ r.entries,
      (d.assignment .mysql entry).Reads entry.2.shown?.toList := by
    intro entry member
    obtain ⟨column, data⟩ := quoted entry member
    have value := transcript?_append (transcript?_of_quoteFree equals)
      (Value.transcript?_assigned data)
    have key : (d.scope.key d.primary? entry.1).QuoteFree := Scope.quoteFree_key column
    have all := (Fragment.Reads.of_quoteFree key).append (.ofText value)
    cases shown : entry.2.shown? <;>
      simpa [assignment, Value.transcript, shown] using all
  have all := (Fragment.ReadsAll.map each).separated quoteFree_comma
  rw [List.filterMap_eq_flatMap_toList]
  exact all

/-- A change shows the assigned values before those of the conditions. -/
theorem IsWellQuoted.reads_updateStatement (quoted : d.IsWellQuoted) {r : Row}
    (row : r.IsWellQuoted) : (d.updateStatement .mysql r).Reads (d.changedTexts r) := by
  unfold updateStatement changedTexts
  split
  case isTrue => exact .nil
  case isFalse =>
    have update : (Fragment.clause "UPDATE" d.fromList).QuoteFree :=
      Fragment.quoteFree_clause (by decide) quoted.quoteFree_fromList
    have set : (Fragment.clause "SET" (d.assignmentList .mysql r)).Reads
        (r.entries.filterMap (·.2.shown?)) :=
      .clause (by decide) (reads_assignmentList row)
    have tail : Fragment.ReadsAll
        [Fragment.clause "ORDER BY" d.ordering, countClause "LIMIT" d.limit] [] :=
      .cons_quoteFree (Fragment.quoteFree_clause (by decide) quoted.quoteFree_ordering)
        (.cons_quoteFree (quoteFree_countClause (by decide) _) .nil)
    have conditions := Fragment.ReadsAll.cons
      (quoted.reads_whereClause (d.fromList ++ d.assignmentList .mysql r ++ d.ordering)) tail
    rw [List.append_nil] at conditions
    apply Fragment.ReadsAll.joined (by decide)
    exact .cons_quoteFree update (.cons set conditions)

/-- A deletion shows the values of its conditions. -/
theorem IsWellQuoted.reads_deleteStatement (quoted : d.IsWellQuoted) :
    (d.deleteStatement .mysql).Reads d.whereTexts := by
  have delete : (Fragment.clause "DELETE FROM" d.fromList).QuoteFree :=
    Fragment.quoteFree_clause (by decide) quoted.quoteFree_fromList
  have tail : Fragment.ReadsAll
      [Fragment.clause "ORDER BY" d.ordering, countClause "LIMIT" d.limit] [] :=
    .cons_quoteFree (Fragment.quoteFree_clause (by decide) quoted.quoteFree_ordering)
      (.cons_quoteFree (quoteFree_countClause (by decide) _) .nil)
  have conditions := Fragment.ReadsAll.cons
    (quoted.reads_whereClause (d.fromList ++ d.ordering)) tail
  rw [List.append_nil] at conditions
  apply Fragment.ReadsAll.joined (by decide)
  exact .cons_quoteFree delete conditions

theorem IsWellQuoted.quoteFree_truncateStatement (quoted : d.IsWellQuoted) :
    d.truncateStatement.QuoteFree := by
  have names := quoteFree_intercalate quoteFree_comma quoted.tables
  exact Fragment.quoteFree_clause (by decide) (Fragment.quoteFree_singleton names)

theorem IsWellQuoted.firstRow (quoted : d.IsWellQuoted) :
    (d.rows.head?.getD .empty).IsWellQuoted := by
  cases rows : d.rows with
  | nil =>
    intro entry member
    cases member
  | cons r rest => exact quoted.rows r (by simp [rows])

/-- The strings of a statement are the texts of the values it prints, in their order. -/
theorem IsWellQuoted.reads_statement (quoted : d.IsWellQuoted) :
    (d.statement .mysql).Reads d.texts := by
  have assigned : d.assignments.IsWellQuoted := quoted.rows _ List.mem_cons_self
  have insert : d.tables.isEmpty = false → (d.insertStatement .mysql).Reads d.addedTexts := by
    intro some
    have reads := quoted.reads_insertStatement
    cases tables : d.tables with
    | nil => simp [tables] at some
    | cons table rest => simpa [primary?, tables] using reads
  unfold statement texts
  split
  case isTrue => exact .nil
  case isFalse some =>
    have added := insert (by simpa using some)
    cases d.action with
    | none => exact .nil
    | some action =>
      cases action with
      | select => exact quoted.reads_selectStatement
      | insert => exact added
      | upsert =>
        dsimp only
        unfold upsertStatement
        rw [isEmpty_whereGroups]
        cases d.wheres.any ConditionGroup.survives with
        | false => exact added
        | true => exact quoted.reads_updateStatement quoted.firstRow
      | update => exact quoted.reads_updateStatement assigned
      | delete => exact quoted.reads_deleteStatement
      | truncate => exact .of_quoteFree quoted.quoteFree_truncateStatement

end Draft

end SqlQuery
