import SqlQuery.Proofs.ReferenceCounts

/-!
Statements that select, change or delete rows.

They are alike but for what stands around their list of tables and their conditions, a
`RowStatement`.  `Draft.statement_of_rowStatement?` takes the statement of a draft apart that way;
what it says about the conditions depends on the parts around them only through the references in
these, so the parts can be compared one by one.
-/

namespace SqlQuery

/-! ## Parts of a fragment -/

namespace Fragment

/-- A part stands behind the parts before it, each with a separator after it, and before the other
ones, each with a separator before it. -/
theorem separated_append_cons (separator : String) (before : List Fragment) (f : Fragment)
    (after : List Fragment) :
    separated separator (before ++ f :: after) =
      before.flatMap (· ++ [.text separator]) ++ f ++ after.flatMap ([.text separator] ++ ·) := by
  induction before with
  | nil =>
    induction after generalizing f with
    | nil => simp [separated]
    | cons g after ih => simpa [separated] using ih g
  | cons g before ih =>
    cases before with
    | nil => simpa [separated] using ih
    | cons h before => simpa [separated] using ih

theorem joined_append_cons (separator : String) (before : List Fragment) {f : Fragment}
    (present : f.isBlank = false) (after : List Fragment) :
    joined separator (before ++ f :: after) =
      (before.filter (!·.isBlank)).flatMap (· ++ [.text separator]) ++ f ++
        (after.filter (!·.isBlank)).flatMap ([.text separator] ++ ·) := by
  unfold joined
  rw [List.filter_append, List.filter_cons_of_pos (by simp [present]), separated_append_cons]

theorem isBlank_separated_cons (separator : String) {f : Fragment} (present : f.isBlank = false)
    (fs : List Fragment) : (separated separator (f :: fs)).isBlank = false := by
  have parts := separated_append_cons separator [] f fs
  rw [List.nil_append] at parts
  unfold isBlank at present ⊢
  rw [parts, List.all_append, List.all_append, present, Bool.and_false, Bool.false_and]

theorem joined_eq_separated {separator : String} {fs : List Fragment}
    (present : ∀ f ∈ fs, f.isBlank = false) : joined separator fs = separated separator fs := by
  unfold joined
  rw [List.filter_eq_self.2]
  intro f member
  simp [present f member]

end Fragment

/-! ## The shape of the statements -/

/-- A statement on rows without its list of tables and the conditions on the rows. -/
structure RowStatement where
  /-- The parts before the list of tables. -/
  opening : List Fragment
  /-- The words before the list of tables. -/
  keyword : String
  /-- The parts between the list of tables and the conditions. -/
  changes : List Fragment
  /-- The parts behind the conditions. -/
  closing : List Fragment

namespace RowStatement

/-- The statement with the given tables and conditions. -/
def write (row : RowStatement) (tables : Fragment) (predicates : List Fragment) : Fragment :=
  Fragment.joined " " (row.opening ++ Fragment.clause row.keyword tables ::
    (row.changes ++ Fragment.clause "WHERE" (Fragment.separated " AND " predicates) :: row.closing))

/-- What stands before the words that the list of tables follows. -/
def before (row : RowStatement) : Fragment :=
  (row.opening.filter (!·.isBlank)).flatMap (· ++ [.text " "])

/-- What stands behind the list of tables. -/
def behind (row : RowStatement) (predicates : List Fragment) : Fragment :=
  ((row.changes ++ Fragment.clause "WHERE" (Fragment.separated " AND " predicates) ::
    row.closing).filter (!·.isBlank)).flatMap ([.text " "] ++ ·)

/-- The tables stand behind their words, unless there is nothing to be written for them. -/
theorem fill_write (qualifierOf : Nat → String) (row : RowStatement) {tables : Fragment}
    (present : tables.isBlank = false) (predicates : List Fragment) :
    (row.write tables predicates).fill qualifierOf =
      row.before.fill qualifierOf ++ row.keyword ++ " " ++ tables.fill qualifierOf ++
        (row.behind predicates).fill qualifierOf := by
  have written : Fragment.clause row.keyword tables = .text (row.keyword ++ " ") :: tables := by
    simp [Fragment.clause, present]
  have kept : (Fragment.clause row.keyword tables).isBlank = false := by
    simp [written, Fragment.isBlank]
  unfold write
  rw [Fragment.joined_append_cons " " row.opening kept, written]
  simp only [Fragment.fill_append, Fragment.fill_cons, Piece.fill, String.append_assoc]
  rfl

/-- All parts of the statement but the conditions. -/
def others (row : RowStatement) (tables : Fragment) : Fragment :=
  row.opening.flatten ++ tables ++ row.changes.flatten ++ row.closing.flatten

theorem references_write (row : RowStatement) (tables : Fragment) (predicates : List Fragment)
    (table : Nat) :
    (row.write tables predicates).references table =
      (row.others tables).references table + Fragment.references predicates.flatten table := by
  simp only [write, others, Fragment.references_joined, List.flatten_append, List.flatten_cons,
    Fragment.references_append, Fragment.references_clause, Fragment.references_separated]
  omega

end RowStatement

namespace Draft

/-- The draft selects, changes or deletes rows.  A draft that changes rows if there are conditions
on them, and adds rows otherwise, does so if a condition survives. -/
def isOnRows (d : Draft) : Bool :=
  match d.action with
  | some .select | some .update | some .delete => true
  | some .upsert => d.wheres.any ConditionGroup.survives
  | _ => false

/-- The change of rows to the values of the given one. -/
def change? (d : Draft) (escaper : Escaper) (r : Row) : Option RowStatement :=
  if r.isEmpty then none
  else
    some
      { opening := []
        keyword := "UPDATE"
        changes := [Fragment.clause "SET" (d.assignmentList escaper r)]
        closing := [Fragment.clause "ORDER BY" d.ordering, countClause "LIMIT" d.limit] }

/-- The statement of the draft without its list of tables and its conditions, if it is one on
rows. -/
def rowStatement? (d : Draft) (escaper : Escaper) : Option RowStatement :=
  if d.tables.isEmpty then none
  else
    match d.action with
    | some .select =>
      some
        { opening :=
            [[.text "SELECT"], if d.distinct then [.text "DISTINCT"] else [], d.selectList]
          keyword := "FROM"
          changes := []
          closing :=
            [Fragment.clause "GROUP BY" d.grouping,
              Fragment.clause "HAVING" (d.havingPredicates escaper),
              Fragment.clause "ORDER BY" d.ordering,
              countClause "LIMIT" d.limit,
              if d.limit.isSome then countClause "OFFSET" d.offset else []] }
    | some .update => d.change? escaper d.assignments
    | some .upsert =>
      if d.wheres.any ConditionGroup.survives then d.change? escaper (d.rows.head?.getD .empty)
      else none
    | some .delete =>
      some
        { opening := []
          keyword := "DELETE FROM"
          changes := []
          closing := [Fragment.clause "ORDER BY" d.ordering, countClause "LIMIT" d.limit] }
    | _ => none

variable {d : Draft} {escaper : Escaper}

/-- Conditions and equalities are no blank fragments. -/
theorem isBlank_of_mem_predicates {others f : Fragment}
    (member : f ∈ d.predicates escaper others) : f.isBlank = false := by
  rcases List.mem_append.1 member with isGroup | isEquality
  · rcases List.mem_filterMap.1 isGroup with ⟨g, -, written⟩
    unfold Scope.group? at written
    split at written
    case h_1 => cases written
    case h_2 =>
      rw [← Option.some.inj written]
      simp [Fragment.isBlank]
  · rcases List.mem_map.1 isEquality with ⟨e, -, rfl⟩
    simp [Scope.equation, Fragment.isBlank]

/-- What the conditions are depends on the other parts through the references in them alone. -/
theorem predicates_congr {others same : Fragment}
    (counts : ∀ table, others.references table = same.references table) :
    d.predicates escaper others = d.predicates escaper same := by
  have mentions (table : String) :
      d.scope.mentions (others ++ (d.whereGroups escaper).flatten) table =
        d.scope.mentions (same ++ (d.whereGroups escaper).flatten) table := by
    rw [Bool.eq_iff_iff, Scope.mentions_eq_true_iff, Scope.mentions_eq_true_iff]
    simp only [Fragment.references_append, counts]
  simp only [predicates, Scope.equalities, mentions]

theorem whereClause_eq {others same : Fragment}
    (counts : ∀ table, others.references table = same.references table) :
    d.whereClause escaper others =
      Fragment.clause "WHERE" (Fragment.separated " AND " (d.predicates escaper same)) := by
  unfold whereClause
  rw [predicates_congr counts, Fragment.joined_eq_separated fun f => isBlank_of_mem_predicates]

theorem statement_of_change? {r : Row} {row : RowStatement}
    (isRow : d.change? escaper r = some row) :
    d.updateStatement escaper r =
      row.write d.fromList (d.predicates escaper (row.others d.fromList)) := by
  unfold change? at isRow
  split at isRow
  case isTrue => cases isRow
  case isFalse values =>
    obtain rfl := Option.some.inj isRow
    unfold updateStatement RowStatement.write
    rw [if_neg values]
    dsimp only
    rw [whereClause_eq]
    · rfl
    · intro table
      simp only [RowStatement.others, List.flatten_cons, List.flatten_nil,
        Fragment.references_append, Fragment.references_nil, Fragment.references_clause,
        references_countClause]
      omega

/-- A statement on rows has the conditions that the references in its other parts bring about. -/
theorem statement_of_rowStatement? {row : RowStatement}
    (isRow : d.rowStatement? escaper = some row) :
    d.statement escaper =
      row.write d.fromList (d.predicates escaper (row.others d.fromList)) := by
  unfold rowStatement? at isRow
  unfold statement
  split at isRow
  case isTrue => cases isRow
  case isFalse declared =>
    rw [if_neg declared]
    split at isRow
    case h_1 action =>
      obtain rfl := Option.some.inj isRow
      rw [action]
      dsimp only
      unfold selectStatement RowStatement.write
      dsimp only
      rw [whereClause_eq]
      · rfl
      · intro table
        have distinct :
            Fragment.references (if d.distinct then [.text "DISTINCT"] else []) table = 0 := by
          split <;> simp
        have offset :
            Fragment.references (if d.limit.isSome then countClause "OFFSET" d.offset else [])
              table = 0 := by
          split
          · exact references_countClause _ _ _
          · rfl
        have select : Fragment.references [.text "SELECT"] table = 0 := by simp
        simp only [RowStatement.others, List.flatten_cons, List.flatten_nil,
          Fragment.references_append, Fragment.references_nil, Fragment.references_clause,
          references_countClause, distinct, offset, select]
        omega
    case h_2 action =>
      rw [action]
      exact statement_of_change? isRow
    case h_3 action =>
      split at isRow
      case isTrue survives =>
        rw [action]
        dsimp only
        unfold upsertStatement
        rw [isEmpty_whereGroups, survives]
        exact statement_of_change? isRow
      case isFalse => cases isRow
    case h_4 action =>
      obtain rfl := Option.some.inj isRow
      rw [action]
      dsimp only
      unfold deleteStatement RowStatement.write
      dsimp only
      rw [whereClause_eq]
      · rfl
      · intro table
        simp only [RowStatement.others, List.flatten_cons, List.flatten_nil,
          Fragment.references_append, Fragment.references_nil, Fragment.references_clause,
          references_countClause]
        omega
    case h_5 => cases isRow

/-- The text of a statement on rows, from its list of tables. -/
theorem sql_of_fromList {tables : Fragment} (list : d.fromList = tables) {sql : String}
    (text : (d.rowStatement? escaper).map (fun row =>
      (row.write tables (d.predicates escaper (row.others tables))).fill d.scope.qualifierOf) =
        some sql) : (d.compile escaper).sql = sql := by
  rcases Option.map_eq_some_iff.1 text with ⟨row, isRow, written⟩
  rw [← written, ← list, ← statement_of_rowStatement? isRow]
  rfl

theorem updateStatement_of_change?_eq_none {r : Row} (none : d.change? escaper r = none) :
    d.updateStatement escaper r = [] := by
  unfold change? at none
  split at none
  case isTrue empty => rw [updateStatement, if_pos empty]
  case isFalse => cases none

theorem statement_of_rowStatement?_eq_none (onRows : d.isOnRows = true)
    (none : d.rowStatement? escaper = none) : d.statement escaper = [] := by
  unfold rowStatement? at none
  unfold statement
  split at none
  case isTrue undeclared => rw [if_pos undeclared]
  case isFalse declared =>
    rw [if_neg declared]
    unfold isOnRows at onRows
    split at none
    case h_1 => cases none
    case h_2 action =>
      rw [action]
      exact updateStatement_of_change?_eq_none none
    case h_3 action =>
      rw [action] at onRows ⊢
      dsimp only at onRows ⊢
      rw [if_pos onRows] at none
      rw [upsertStatement, isEmpty_whereGroups, onRows]
      exact updateStatement_of_change?_eq_none none
    case h_4 => cases none
    case h_5 => split at onRows <;> contradiction

/-- A statement on rows that is not empty has the shape of one. -/
theorem exists_rowStatement? (onRows : d.isOnRows = true)
    (written : (d.compile escaper).sql ≠ "") : ∃ row, d.rowStatement? escaper = some row := by
  cases isRow : d.rowStatement? escaper with
  | some row => exact ⟨row, rfl⟩
  | none =>
    rw [compile, statement_of_rowStatement?_eq_none onRows isRow] at written
    exact absurd rfl written

end Draft

end SqlQuery
