import SqlQuery.Proofs.NamedTables
import SqlQuery.Proofs.StoredCounts

/-!
The references that compiling counts are the places where a column of a table is named.

`Draft.names_statement` shows that the statement of a draft refers to each table as often as
`Draft.namedTables` means it, which settles the counts that compiling returns.  That an empty text
comes without references is a case of its own: a qualifier can be empty, so it takes the keyword of
the clause it stands in (`Fragment.references_clause_of_fill_eq_empty`).
-/

namespace SqlQuery

/-! ## Fragments without text -/

namespace Fragment

/-- If all has no text, then neither has any of the parts. -/
theorem fill_eq_empty_of_separated {qualifierOf : Nat → String} {separator : String}
    {fs : List Fragment} (empty : (separated separator fs).fill qualifierOf = "") :
    ∀ f ∈ fs, f.fill qualifierOf = "" := by
  induction fs with
  | nil =>
    intro f member
    cases member
  | cons f fs ih =>
    cases fs with
    | nil => simpa [separated] using empty
    | cons g gs =>
      have parts : f.fill qualifierOf = "" ∧ separator = "" ∧
          (separated separator (g :: gs)).fill qualifierOf = "" := by
        simpa [separated, Piece.fill, String.append_eq_empty_iff] using empty
      exact List.forall_mem_cons.2 ⟨parts.1, ih parts.2.2⟩

/-- If parts without text have no references, then neither has what they are put together to. -/
theorem references_joined_of_fill_eq_empty {qualifierOf : Nat → String} {separator : String}
    {fs : List Fragment} {table : Nat}
    (each : ∀ f ∈ fs, f.fill qualifierOf = "" → f.references table = 0)
    (empty : (joined separator fs).fill qualifierOf = "") :
    (joined separator fs).references table = 0 := by
  have kept := fill_eq_empty_of_separated empty
  have none : ∀ f ∈ fs.filter (!·.isBlank), f.references table = 0 :=
    fun f member => each f (List.mem_filter.1 member).1 (kept f member)
  unfold joined
  rw [references_separated]
  generalize fs.filter (!·.isBlank) = fs at none
  induction fs with
  | nil => rfl
  | cons f fs ih =>
    have rest := ih fun g member => none g (List.mem_cons_of_mem f member)
    rw [List.flatten_cons, references_append, none f List.mem_cons_self, rest]

/-- A clause without text has no body. -/
theorem references_clause_of_fill_eq_empty {qualifierOf : Nat → String} {keyword : String}
    {f : Fragment} (empty : (clause keyword f).fill qualifierOf = "") (table : Nat) :
    (clause keyword f).references table = 0 := by
  unfold clause at empty ⊢
  split
  case isTrue => rfl
  case isFalse written =>
    rw [if_neg written] at empty
    simp [Piece.fill, String.append_eq_empty_iff] at empty

end Fragment

/-! ## Statements -/

namespace Draft

variable {d : Draft} {escaper : Escaper}

theorem names_fromTables : d.scope.Names d.fromList d.joinedTables :=
  Scope.names_fromList d.tables d.joins

theorem names_whereGroups : d.scope.Names (d.whereGroups escaper).flatten d.comparedTables :=
  d.scope.names_groups escaper d.wheres

theorem names_ordering : d.scope.Names d.ordering (d.orderBy.filterMap Column.namedTable?) :=
  Scope.names_columns d.orderBy

/-- The `WHERE` clause refers to tables in the groups and in the equalities. -/
theorem references_whereClause (others : Fragment) (table : Nat) :
    (d.whereClause escaper others).references table =
      Fragment.references (d.whereGroups escaper).flatten table +
        Fragment.references (d.scope.equalities (others ++ (d.whereGroups escaper).flatten)
          d.equalities).flatten table := by
  unfold whereClause predicates
  rw [Fragment.references_clause, Fragment.references_joined, List.flatten_append,
    Fragment.references_append]

/-- The `WHERE` clause names the tables of the groups, and those of the equalities that the rest of
the statement brings in. -/
theorem names_whereClause {others : Fragment} {named : List String}
    (names : d.scope.Names (others ++ (d.whereGroups escaper).flatten) named) :
    d.scope.Names (d.whereClause escaper others) (d.comparedTables ++ d.equatedTables named) := by
  have equalities := Scope.names_equalities names d.equalities
  intro table
  rw [references_whereClause, Scope.places_append, names_whereGroups table, equalities table]
  rfl

/-- A number refers to no table. -/
theorem references_countClause (keyword : String) (n : Option UInt64) (table : Nat) :
    (countClause keyword n).references table = 0 := by
  unfold countClause
  split
  · rw [Fragment.references_clause]
    simp
  · rfl

/-- The parts of a selection without columns refer to no table. -/
theorem references_selectStatement (table : Nat) :
    (d.selectStatement escaper).references table =
      d.selectList.references table + d.fromList.references table +
        (d.whereClause escaper (d.selectList ++ d.fromList ++ d.grouping ++
          d.havingPredicates escaper ++ d.ordering)).references table +
        d.grouping.references table + (d.havingPredicates escaper).references table +
        d.ordering.references table := by
  have select : Fragment.references [.text "SELECT"] table = 0 := by simp
  have distinct :
      Fragment.references (if d.distinct then [.text "DISTINCT"] else []) table = 0 := by
    split <;> simp
  have offset : Fragment.references (if d.limit.isSome then countClause "OFFSET" d.offset else [])
      table = 0 := by
    split
    · exact references_countClause _ _ _
    · rfl
  unfold selectStatement
  rw [Fragment.references_joined]
  simp only [List.flatten_cons, List.flatten_nil, Fragment.references_append,
    Fragment.references_nil, Fragment.references_clause, references_countClause, select, distinct,
    offset]
  omega

/-- A selection names tables in its columns, in the list of tables and in its conditions. -/
theorem names_selectStatement : d.scope.Names (d.selectStatement escaper) d.selectedTables := by
  have columns : d.scope.Names d.selectList (d.columns.filterMap Column.namedTable?) := by
    unfold selectList
    split
    case isTrue none =>
      rw [List.isEmpty_iff.1 none]
      exact Scope.names_text "*"
    case isFalse => exact Scope.names_columns d.columns
  have grouping : d.scope.Names d.grouping (d.groupBy.filterMap Column.namedTable?) :=
    Scope.names_columns d.groupBy
  have having : d.scope.Names (d.havingPredicates escaper)
      (d.having.flatMap ConditionGroup.namedTables) :=
    Scope.Names.joined (d.scope.names_groups escaper d.having)
  -- The groups on the rows are rendered last, but count as part of what brings in equalities.
  have mentioned : d.scope.Names (d.selectList ++ d.fromList ++ d.grouping ++
      d.havingPredicates escaper ++ d.ordering ++ (d.whereGroups escaper).flatten)
      (d.columns.filterMap Column.namedTable? ++ d.joinedTables ++ d.comparedTables ++
        d.groupBy.filterMap Column.namedTable? ++ d.having.flatMap ConditionGroup.namedTables ++
        d.orderBy.filterMap Column.namedTable?) := by
    intro table
    simp only [Fragment.references_append, Scope.places_append, columns table,
      names_fromTables table, names_whereGroups table, grouping table, having table,
      names_ordering table]
    omega
  have conditions := names_whereClause mentioned
  intro table
  unfold selectedTables withEqualities
  rw [references_selectStatement]
  simp only [Scope.places_append, columns table, names_fromTables table, conditions table,
    grouping table, having table, names_ordering table]
  omega

/-- An assigned column belongs to the primary table or to the one it names itself. -/
theorem names_assignmentList (r : Row) : d.scope.Names (d.assignmentList escaper r)
    (r.columns.filterMap (keyTable? d.primary?)) := by
  have each (entry : String × Value) :
      d.scope.Names (d.assignment escaper entry) (keyTable? d.primary? entry.1).toList := by
    have key := (Scope.names_key (s := d.scope) (rfl : d.primary?.bind d.scope.qualify? = _)
      entry.1).append (Scope.names_text ("=" ++ entry.2.assigned escaper))
    simpa [assignment] using key
  have all := Scope.Names.flatMap fun entry (_ : entry ∈ r.entries) => each entry
  apply Scope.Names.separated
  rw [Row.columns, List.filterMap_map, List.filterMap_eq_flatMap_toList]
  exact all

theorem references_updateStatement {r : Row} (assigned : ¬r.isEmpty = true) (table : Nat) :
    (d.updateStatement escaper r).references table =
      d.fromList.references table + (d.assignmentList escaper r).references table +
        (d.whereClause escaper
          (d.fromList ++ d.assignmentList escaper r ++ d.ordering)).references table +
        d.ordering.references table := by
  unfold updateStatement
  rw [if_neg assigned, Fragment.references_joined]
  simp only [List.flatten_cons, List.flatten_nil, Fragment.references_append,
    Fragment.references_nil, Fragment.references_clause, references_countClause]
  omega

/-- A change names the tables of its assignments too. -/
theorem names_updateStatement (r : Row) :
    d.scope.Names (d.updateStatement escaper r) (d.changedTables r) := by
  have assignments : d.scope.Names (d.assignmentList escaper r) _ := names_assignmentList r
  have mentioned : d.scope.Names (d.fromList ++ d.assignmentList escaper r ++ d.ordering ++
      (d.whereGroups escaper).flatten)
      (d.joinedTables ++ r.columns.filterMap (keyTable? d.primary?) ++ d.comparedTables ++
        d.orderBy.filterMap Column.namedTable?) := by
    intro table
    simp only [Fragment.references_append, Scope.places_append, names_fromTables table,
      assignments table, names_whereGroups table, names_ordering table]
    omega
  have conditions := names_whereClause mentioned
  by_cases empty : r.isEmpty = true
  · unfold updateStatement changedTables
    rw [if_pos empty, if_pos empty]
    exact Scope.names_nil
  · intro table
    unfold changedTables withEqualities
    rw [if_neg empty, references_updateStatement empty]
    simp only [Scope.places_append, names_fromTables table, assignments table, conditions table,
      names_ordering table]
    omega

theorem references_deleteStatement (table : Nat) :
    (d.deleteStatement escaper).references table =
      d.fromList.references table +
        (d.whereClause escaper (d.fromList ++ d.ordering)).references table +
        d.ordering.references table := by
  unfold deleteStatement
  rw [Fragment.references_joined]
  simp only [List.flatten_cons, List.flatten_nil, Fragment.references_append,
    Fragment.references_nil, Fragment.references_clause, references_countClause]
  omega

theorem names_deleteStatement : d.scope.Names (d.deleteStatement escaper) d.deletedTables := by
  have mentioned : d.scope.Names (d.fromList ++ d.ordering ++ (d.whereGroups escaper).flatten)
      (d.joinedTables ++ d.comparedTables ++ d.orderBy.filterMap Column.namedTable?) := by
    intro table
    simp only [Fragment.references_append, Scope.places_append, names_fromTables table,
      names_whereGroups table, names_ordering table]
    omega
  have conditions := names_whereClause mentioned
  intro table
  unfold deletedTables withEqualities
  rw [references_deleteStatement]
  simp only [Scope.places_append, names_fromTables table, conditions table, names_ordering table]
  omega

/-- Rows are added without naming a column of a table. -/
theorem names_insertStatement : d.scope.Names (d.insertStatement escaper) [] := by
  unfold insertStatement
  split
  case h_1 => exact Scope.names_nil
  case h_2 table =>
    split
    case isTrue => exact Scope.names_nil
    case isFalse =>
      intro i
      rw [Fragment.references_joined]
      simp [Fragment.references_clause]

theorem names_truncateStatement : d.scope.Names d.truncateStatement [] := by
  intro table
  unfold truncateStatement
  rw [Fragment.references_clause]
  simp

/-- The statement names each table as often as the draft's columns, keys and pairs mean it. -/
theorem names_statement : d.scope.Names (d.statement escaper) d.namedTables := by
  unfold statement namedTables
  split
  case isTrue => exact Scope.names_nil
  case isFalse =>
    cases d.action with
    | none => exact Scope.names_nil
    | some action =>
      cases action with
      | select => exact names_selectStatement
      | insert => exact names_insertStatement
      | upsert =>
        dsimp only
        unfold upsertStatement
        rw [isEmpty_whereGroups]
        cases d.wheres.any ConditionGroup.survives with
        | false => exact names_insertStatement
        | true => exact names_updateStatement _
      | update => exact names_updateStatement _
      | delete => exact names_deleteStatement
      | truncate => exact names_truncateStatement

/-! ## Statements without text -/

/-- A change without text is one without assignments or one without clauses. -/
theorem references_updateStatement_of_fill_eq_empty {qualifierOf : Nat → String} {r : Row}
    (empty : (d.updateStatement escaper r).fill qualifierOf = "") (table : Nat) :
    (d.updateStatement escaper r).references table = 0 := by
  unfold updateStatement at empty ⊢
  split at empty
  case isTrue none =>
    rw [if_pos none]
    rfl
  case isFalse some =>
    -- Every part is a clause, and would start with its keyword if it were there.
    rw [if_neg some]
    apply Fragment.references_joined_of_fill_eq_empty _ empty
    intro f member absent
    simp only [List.mem_cons, List.not_mem_nil, or_false] at member
    rcases member with rfl | rfl | rfl | rfl | rfl
    · exact Fragment.references_clause_of_fill_eq_empty absent table
    · exact Fragment.references_clause_of_fill_eq_empty absent table
    · exact Fragment.references_clause_of_fill_eq_empty absent table
    · exact Fragment.references_clause_of_fill_eq_empty absent table
    · exact references_countClause _ _ _

theorem references_deleteStatement_of_fill_eq_empty {qualifierOf : Nat → String}
    (empty : (d.deleteStatement escaper).fill qualifierOf = "") (table : Nat) :
    (d.deleteStatement escaper).references table = 0 := by
  apply Fragment.references_joined_of_fill_eq_empty _ empty
  intro f member absent
  simp only [List.mem_cons, List.not_mem_nil, or_false] at member
  rcases member with rfl | rfl | rfl | rfl
  · exact Fragment.references_clause_of_fill_eq_empty absent table
  · exact Fragment.references_clause_of_fill_eq_empty absent table
  · exact Fragment.references_clause_of_fill_eq_empty absent table
  · exact references_countClause _ _ _

/-- A selection has its keyword, whatever else it has. -/
theorem fill_selectStatement_ne_empty (qualifierOf : Nat → String) :
    (d.selectStatement escaper).fill qualifierOf ≠ "" := by
  intro empty
  have parts := Fragment.fill_eq_empty_of_separated empty [.text "SELECT"]
    (List.mem_filter.2 ⟨List.mem_cons_self, rfl⟩)
  simp [Piece.fill] at parts

/-- An empty text comes without references. -/
theorem references_statement_of_fill_eq_empty {qualifierOf : Nat → String}
    (empty : (d.statement escaper).fill qualifierOf = "") (table : Nat) :
    (d.statement escaper).references table = 0 := by
  have unnamed {f : Fragment} (names : d.scope.Names f []) : f.references table = 0 := by
    rw [names table, Scope.places_nil]
  unfold statement at empty ⊢
  split at empty
  case isTrue none =>
    rw [if_pos none]
    rfl
  case isFalse some =>
    rw [if_neg some]
    cases action : d.action with
    | none => rfl
    | some kind =>
      rw [action] at empty
      cases kind with
      | select => exact absurd empty (fill_selectStatement_ne_empty _)
      | insert => exact unnamed names_insertStatement
      | upsert =>
        dsimp only at empty ⊢
        unfold upsertStatement at empty ⊢
        split at empty
        case isTrue none =>
          rw [if_pos none]
          exact unnamed names_insertStatement
        case isFalse some =>
          rw [if_neg some]
          exact references_updateStatement_of_fill_eq_empty empty table
      | update => exact references_updateStatement_of_fill_eq_empty empty table
      | delete => exact references_deleteStatement_of_fill_eq_empty empty table
      | truncate => exact unnamed names_truncateStatement

/-- The references that compiling counts for a table are the slots of its statement, and the places
of the draft that name the table; the rest of the alias table is kept.  There are none where columns
are not qualified, where rows are only added or tables emptied, and in an empty statement.  What was
counted before has no influence. -/
theorem references_compile (d : Draft) (escaper : Escaper) :
    (d.compile escaper).aliases = d.aliases.withReferences (d.scope.places d.namedTables) ∧
      (∀ table, (d.statement escaper).references table = d.scope.places d.namedTables table) ∧
      (d.scope.active = false ∨ d.action = some .insert ∨ d.action = some .truncate ∨
          (d.action = some .upsert ∧ d.wheres.any ConditionGroup.survives = false) ∨
          (d.compile escaper).sql = "" →
        (d.compile escaper).aliases = d.aliases.clearReferences) ∧
      ∀ count, (d.recounted count).compile escaper = d.compile escaper := by
  have counts : (d.statement escaper).references = d.scope.places d.namedTables :=
    funext names_statement
  have counted : (d.compile escaper).aliases =
      d.aliases.withReferences (d.scope.places d.namedTables) := by
    rw [← counts]
    rfl
  refine ⟨counted, names_statement, ?_, fun count => d.compile_recounted count escaper⟩
  intro unqualified
  have none : d.scope.places d.namedTables = fun _ => 0 := by
    funext table
    have unnamed (none : d.namedTables = []) : d.scope.places d.namedTables table = 0 := by
      rw [none, Scope.places_nil]
    rcases unqualified with inactive | insert | truncate | ⟨upsert, added⟩ | empty
    · simp [Scope.places, inactive]
    · exact unnamed (by simp [namedTables, insert])
    · exact unnamed (by simp [namedTables, truncate])
    · exact unnamed (by simp [namedTables, upsert, added])
    · rw [← counts]
      exact references_statement_of_fill_eq_empty empty table
  rw [counted, none]
  rfl

/-- A selection that names its tables by name and by alias, with an equality that they bring in and
a condition that is dropped. -/
def openPosts : Draft :=
  { Draft.empty .auto with
    action := some .select
    aliases := ⟨[⟨"users", "T0", false, 7⟩, ⟨"posts", "T1", false, 0⟩], 2⟩
    tables := ["users", "posts"]
    columns := [⟨some "users", .named { name := "id" }⟩, ⟨some "T1", .named { name := "title" }⟩]
    equalities := [⟨"users", "id", "posts", "user_id"⟩]
    wheres := [⟨[.equal "posts.state" (.text "open"), .equal "users.name" .null], {}⟩] }

theorem references_compile_openPosts :
    (openPosts.compile .mysql).aliases.entries.map AliasEntry.references = [2, 3] := by
  rw [(references_compile openPosts .mysql).1]
  decide

end Draft

end SqlQuery
