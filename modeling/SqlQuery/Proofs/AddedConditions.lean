import SqlQuery.Proofs.JoinOrder
import SqlQuery.Proofs.PrintedEqualities

/-!
What one more group of conditions changes in a statement.

A group of conditions brings its own predicate into `WHERE`, and where it refers to a table for the
first time it can bring in equalities of that table too.  Nothing takes a predicate out: references
only become more (`Draft.references_equating_narrowed`), so an equality whose tables are referred to
stays (`Draft.refersToBoth_narrowed`), and the other parts of the statement do not depend on the
conditions at all (`Draft.rowStatement?_narrowed`).  So a statement on rows is narrowed, and never
widened (`Draft.compile_narrowed`).
-/

namespace SqlQuery

namespace Fragment

/-- A list of fragments refers to a table at least as often as a part of it. -/
theorem references_flatten_le {fs gs : List Fragment} (part : fs.Sublist gs) (table : Nat) :
    Fragment.references fs.flatten table ≤ Fragment.references gs.flatten table := by
  induction part with
  | slnil => exact Nat.le_refl _
  | cons f _ ih =>
    rw [List.flatten_cons, references_append]
    omega
  | cons_cons f _ ih =>
    rw [List.flatten_cons, List.flatten_cons, references_append, references_append]
    omega

end Fragment

/-- Where there is a reference there still is one after more references are counted. -/
theorem AliasTable.isReferred_mono {t : AliasTable} {count more : Nat → Nat}
    (fewer : ∀ table, count table ≤ more table) {text : String}
    (referred : (t.withReferences count).isReferred text = true) :
    (t.withReferences more).isReferred text = true := by
  rw [isReferred_withReferences, Option.any_eq_true] at referred ⊢
  obtain ⟨i, resolved, some⟩ := referred
  have enough := fewer i
  simp only [decide_eq_true_eq] at some ⊢
  exact ⟨i, resolved, by omega⟩

theorem AliasTable.referenceCount_mono {t : AliasTable} {count more : Nat → Nat}
    (fewer : ∀ table, count table ≤ more table) (name : String) :
    (t.withReferences count).referenceCount name ≤ (t.withReferences more).referenceCount name := by
  rw [referenceCount_withReferences, referenceCount_withReferences]
  cases t.find? name with
  | none => exact Nat.le_refl 0
  | some i => exact fewer i

namespace Draft

/-- The draft with one more group of conditions on the rows. -/
def narrowed (d : Draft) (g : ConditionGroup) : Draft := { d with wheres := d.wheres ++ [g] }

/-- The predicates after `WHERE` in a statement on rows: the groups of conditions, and the
equalities that have both tables referred to. -/
def wherePredicates (d : Draft) (escaper : Escaper) : List Fragment :=
  d.whereGroups escaper ++ (d.equalities.filter (d.refersToBoth escaper)).map d.equationOf

variable {d : Draft} {escaper : Escaper} {row : RowStatement} (g : ConditionGroup)

/-- The new group comes behind the others, if it has predicates. -/
theorem whereGroups_narrowed :
    (d.narrowed g).whereGroups escaper =
      d.whereGroups escaper ++ (d.scope.group? escaper g).toList := by
  change d.scope.groups escaper (d.wheres ++ [g]) = _
  rw [Scope.groups_append]
  cases written : d.scope.group? escaper g <;> simp [Scope.groups, written, whereGroups]

/-- The other parts of the statement are as they were. -/
theorem rowStatement?_narrowed (isRow : d.rowStatement? escaper = some row) :
    (d.narrowed g).rowStatement? escaper = some row := by
  unfold rowStatement? at isRow ⊢
  split at isRow
  case isTrue => cases isRow
  case isFalse declared =>
    rw [if_neg (show ¬(d.narrowed g).tables.isEmpty = true from declared)]
    have same : (d.narrowed g).action = d.action := rfl
    rw [same]
    split at isRow
    case h_3 =>
      split at isRow
      case isTrue survives =>
        have still : (d.narrowed g).wheres.any ConditionGroup.survives = true := by
          simp [narrowed, survives]
        rw [if_pos still]
        exact isRow
      case isFalse => cases isRow
    case h_1 | h_2 | h_4 => exact isRow
    case h_5 => cases isRow

/-- Equalities apart, the statement refers to each table at least as often as before. -/
theorem references_equating_narrowed (isRow : d.rowStatement? escaper = some row) (table : Nat) :
    ((d.equating []).statement escaper).references table ≤
      (((d.narrowed g).equating []).statement escaper).references table := by
  rw [statement_equating_nil isRow, statement_equating_nil (rowStatement?_narrowed g isRow),
    RowStatement.references_write, RowStatement.references_write, whereGroups_narrowed]
  exact Nat.add_le_add_left
    (Fragment.references_flatten_le (List.sublist_append_left _ _) table) _

/-- Tables that are referred to stay so. -/
theorem refersToBoth_narrowed (isRow : d.rowStatement? escaper = some row) {e : Equality}
    (refers : d.refersToBoth escaper e = true) :
    (d.narrowed g).refersToBoth escaper e = true := by
  have fewer := references_equating_narrowed g isRow
  unfold refersToBoth at refers ⊢
  rw [Bool.and_eq_true] at refers ⊢
  exact ⟨AliasTable.isReferred_mono fewer refers.1, AliasTable.isReferred_mono fewer refers.2⟩

theorem wherePredicates_narrowed :
    (d.narrowed g).wherePredicates escaper =
      d.whereGroups escaper ++ ((d.scope.group? escaper g).toList ++
        (d.equalities.filter ((d.narrowed g).refersToBoth escaper)).map d.equationOf) := by
  unfold wherePredicates
  rw [whereGroups_narrowed, List.append_assoc]
  rfl

/-- No predicate is lost or moved before another one. -/
theorem wherePredicates_sublist (isRow : d.rowStatement? escaper = some row) :
    (d.wherePredicates escaper).Sublist ((d.narrowed g).wherePredicates escaper) := by
  rw [wherePredicates_narrowed]
  refine (List.Sublist.refl _).append (.trans ?_ (List.sublist_append_right _ _))
  exact (List.monotone_filter_right _ fun e => refersToBoth_narrowed g isRow).map _

theorem statement_of_wherePredicates (isRow : d.rowStatement? escaper = some row) :
    d.statement escaper = row.write d.fromList (d.wherePredicates escaper) :=
  statement_equating isRow d.equalities

theorem references_narrowed (isRow : d.rowStatement? escaper = some row) (table : Nat) :
    (d.statement escaper).references table ≤
      ((d.narrowed g).statement escaper).references table := by
  rw [statement_of_wherePredicates isRow,
    statement_of_wherePredicates (rowStatement?_narrowed g isRow),
    RowStatement.references_write, RowStatement.references_write]
  exact Nat.add_le_add_left
    (Fragment.references_flatten_le (wherePredicates_sublist g isRow) table) _

/-- One more group of conditions leaves all parts of a statement on rows as they are, but for the
predicates after `WHERE`.  There all that were printed are printed in the same order and with the
same text, and what is added is the predicate of the group, if it has one, and the equalities whose
tables are both referred to now.  No table is referred to less often. -/
theorem compile_narrowed (d : Draft) (escaper : Escaper) (g : ConditionGroup)
    (onRows : d.isOnRows = true) (written : (d.compile escaper).sql ≠ "") :
    ∃ row, d.rowStatement? escaper = some row ∧
      (d.compile escaper).sql =
        (row.write d.fromList (d.wherePredicates escaper)).fill d.scope.qualifierOf ∧
      ((d.narrowed g).compile escaper).sql =
        (row.write d.fromList ((d.narrowed g).wherePredicates escaper)).fill
          d.scope.qualifierOf ∧
      (d.wherePredicates escaper).Sublist ((d.narrowed g).wherePredicates escaper) ∧
      (d.narrowed g).wherePredicates escaper =
        d.whereGroups escaper ++ ((d.scope.group? escaper g).toList ++
          (d.equalities.filter ((d.narrowed g).refersToBoth escaper)).map d.equationOf) ∧
      (∀ e, d.refersToBoth escaper e = true → (d.narrowed g).refersToBoth escaper e = true) ∧
      ∀ table, (d.compile escaper).aliases.referenceCount table ≤
        ((d.narrowed g).compile escaper).aliases.referenceCount table := by
  obtain ⟨row, isRow⟩ := exists_rowStatement? onRows written
  have isSame := rowStatement?_narrowed g isRow
  refine ⟨row, isRow, ?_, ?_, wherePredicates_sublist g isRow, wherePredicates_narrowed g,
    fun e => refersToBoth_narrowed g isRow, ?_⟩
  · rw [← statement_of_wherePredicates isRow]
    rfl
  · have text := statement_of_wherePredicates isSame
    change ((d.narrowed g).statement escaper).fill d.scope.qualifierOf = _
    rw [text]
    rfl
  · exact AliasTable.referenceCount_mono (references_narrowed g isRow)

/-- An update whose equalities are not printed: its conditions refer to the first table alone. -/
def banning : Draft :=
  { Draft.empty .auto with
    action := some .update
    aliases := ⟨[⟨"users", "u", true, 0⟩, ⟨"posts", "T0", false, 0⟩, ⟨"tags", "T1", false, 0⟩], 2⟩
    tables := ["users", "posts", "tags"]
    equalities := [⟨"posts", "id", "tags", "post_id"⟩, ⟨"users", "id", "posts", "user_id"⟩]
    wheres := [⟨[.equal "name" (.text "spam")], { table := some "u" }⟩]
    assignments := .ofList [("banned", .bool true)] }

/-- The group adds its own predicate, and the equality of the table that it refers to. -/
theorem compile_narrowed_banning :
    let reported : ConditionGroup :=
      ⟨[.greater "posts.reports" (.natural 9), .isIn "id" []], { relation := .or }⟩
    banning.isOnRows = true ∧ (banning.compile .mysql).sql ≠ "" ∧
      (banning.compile .mysql).sql =
        "UPDATE users AS u, posts AS T0, tags AS T1 SET u.banned='1' WHERE (u.name = 'spam')" ∧
      ((banning.narrowed reported).compile .mysql).sql =
        "UPDATE users AS u, posts AS T0, tags AS T1 SET u.banned='1' WHERE (u.name = 'spam') " ++
          "AND (T0.reports > '9') AND u.id = T0.user_id" ∧
      (banning.wherePredicates .mysql).Sublist
        ((banning.narrowed reported).wherePredicates .mysql) := by
  intro reported
  have before : (banning.compile .mysql).sql =
      "UPDATE users AS u, posts AS T0, tags AS T1 SET u.banned='1' WHERE (u.name = 'spam')" :=
    sql_of_joins_eq_nil rfl (by decide +kernel)
  have after : ((banning.narrowed reported).compile .mysql).sql =
      "UPDATE users AS u, posts AS T0, tags AS T1 SET u.banned='1' WHERE (u.name = 'spam') " ++
        "AND (T0.reports > '9') AND u.id = T0.user_id" :=
    sql_of_joins_eq_nil rfl (by decide +kernel)
  have written : (banning.compile .mysql).sql ≠ "" := by
    rw [before]
    decide
  obtain ⟨_, -, -, -, part, -⟩ := compile_narrowed banning .mysql reported rfl written
  exact ⟨rfl, written, before, after, part⟩

end Draft

end SqlQuery
