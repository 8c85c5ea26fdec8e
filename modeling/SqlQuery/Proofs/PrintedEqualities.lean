import SqlQuery.Proofs.RowStatement
import SqlQuery.Proofs.SlotRange

/-!
Which of the equalities between tables a statement has.

A statement on rows has an equality if the rest of it refers to both of the tables.  The references
of the rest are those of the same draft without any equality (`Draft.refersToBoth`), so no equality
brings in another one, and one that is left out leaves no trace (`Draft.compile_equating`).
-/

namespace SqlQuery

namespace AliasTable

/-- There are references to the table with the given name or, if none has it, with the given
alias. -/
def isReferred (t : AliasTable) (text : String) : Bool :=
  (t.resolve? text).any fun i => (t.entries[i]?).any fun e => decide (0 < e.references)

theorem isReferred_withReferences (t : AliasTable) (count : Nat → Nat) (text : String) :
    (t.withReferences count).isReferred text =
      (t.resolve? text).any fun i => decide (0 < count i) := by
  unfold isReferred
  rw [resolve?_withReferences]
  cases resolved : t.resolve? text with
  | none => rfl
  | some i =>
    rcases exists_getElem?_of_resolve? resolved with ⟨e, found⟩
    simp [getElem?_entries_withReferences, found]

end AliasTable

/-- A part of a statement mentions the tables that it has references to. -/
theorem Scope.mentions_eq_isReferred (s : Scope) (f : Fragment) (table : String) :
    s.mentions f table = (s.aliases.withReferences f.references).isReferred table := by
  rw [AliasTable.isReferred_withReferences, Bool.eq_iff_iff, mentions_eq_true_iff]
  simp [Option.any_eq_true, resolve?]

namespace Draft

/-- The draft with other equalities. -/
def equating (d : Draft) (es : List Equality) : Draft := { d with equalities := es }

/-- The statement refers to both tables of the equality if all equalities are left out of it. -/
def refersToBoth (d : Draft) (escaper : Escaper) (e : Equality) : Bool :=
  let others := ((d.equating []).compile escaper).aliases
  others.isReferred e.left && others.isReferred e.right

/-- The equality between the columns as it is written. -/
def equationOf (d : Draft) (e : Equality) : Fragment :=
  d.scope.equation e.left e.leftColumn e.right e.rightColumn

variable {d : Draft} {escaper : Escaper} {row : RowStatement}

theorem statement_equating_nil (isRow : d.rowStatement? escaper = some row) :
    (d.equating []).statement escaper = row.write d.fromList (d.whereGroups escaper) := by
  have shape : (d.equating []).rowStatement? escaper = some row := isRow
  rw [statement_of_rowStatement? shape]
  change row.write d.fromList (d.whereGroups escaper ++ []) = _
  rw [List.append_nil]

/-- The rest of a statement on rows is the same statement without equalities. -/
theorem mentions_eq_refersTo (isRow : d.rowStatement? escaper = some row) (table : String) :
    d.scope.mentions (row.others d.fromList ++ (d.whereGroups escaper).flatten) table =
      ((d.equating []).compile escaper).aliases.isReferred table := by
  have counts : (row.others d.fromList ++ (d.whereGroups escaper).flatten).references =
      ((d.equating []).statement escaper).references := by
    funext i
    rw [statement_equating_nil isRow, RowStatement.references_write, Fragment.references_append]
  rw [Scope.mentions_eq_isReferred, counts]
  rfl

theorem statement_equating (isRow : d.rowStatement? escaper = some row) (es : List Equality) :
    (d.equating es).statement escaper =
      row.write d.fromList
        (d.whereGroups escaper ++ (es.filter (d.refersToBoth escaper)).map d.equationOf) := by
  have shape : (d.equating es).rowStatement? escaper = some row := isRow
  rw [statement_of_rowStatement? shape]
  change row.write d.fromList (d.whereGroups escaper ++
    d.scope.equalities (row.others d.fromList ++ (d.whereGroups escaper).flatten) es) = _
  unfold Scope.equalities
  simp only [mentions_eq_refersTo isRow]
  rfl

/-- The rest refers to the tables whose columns it names. -/
theorem refersToBoth_eq (d : Draft) (escaper : Escaper) (e : Equality) :
    d.refersToBoth escaper e =
      (d.scope.isMeant (d.equating []).namedTables e.left &&
        d.scope.isMeant (d.equating []).namedTables e.right) := by
  have counts : ((d.equating []).statement escaper).references =
      d.scope.places (d.equating []).namedTables := funext names_statement
  unfold refersToBoth compile
  simp only [counts, AliasTable.isReferred_withReferences]
  rfl

theorem refersToBoth_of_not_active (inactive : d.scope.active = false) (e : Equality) :
    d.refersToBoth escaper e = false := by
  have none (table : String) : d.scope.isMeant (d.equating []).namedTables table = false := by
    simp [Scope.isMeant, Scope.places, inactive]
  rw [refersToBoth_eq, none, Bool.false_and]

/-- A statement on rows has, behind its groups of conditions and in their order, those of the
equalities that have both tables referred to by the rest of the statement.  What the rest refers to
does not depend on the equalities, and leaving out one that is not printed leaves the text and the
counts as they are.  Where columns are not qualified no equality is printed. -/
theorem compile_equating (d : Draft) (escaper : Escaper) (onRows : d.isOnRows = true)
    (written : (d.compile escaper).sql ≠ "") :
    ∃ row, d.rowStatement? escaper = some row ∧
      (∀ es, ((d.equating es).compile escaper).sql =
        (row.write d.fromList
          (d.whereGroups escaper ++ (es.filter (d.refersToBoth escaper)).map d.equationOf)).fill
            d.scope.qualifierOf) ∧
      (∀ es, (d.equating es).refersToBoth escaper = d.refersToBoth escaper) ∧
      (∀ before e after, d.refersToBoth escaper e = false →
        (d.equating (before ++ e :: after)).compile escaper =
          (d.equating (before ++ after)).compile escaper) ∧
      (d.scope.active = false → ∀ e, d.refersToBoth escaper e = false) := by
  rcases exists_rowStatement? onRows written with ⟨row, isRow⟩
  refine ⟨row, isRow, ?_, fun _ => rfl, ?_, refersToBoth_of_not_active⟩
  · intro es
    rw [← statement_equating isRow]
    rfl
  · intro before e after out
    have same : (d.equating (before ++ e :: after)).statement escaper =
        (d.equating (before ++ after)).statement escaper := by
      rw [statement_equating isRow, statement_equating isRow, List.filter_append,
        List.filter_append, List.filter_cons_of_neg (by simp [out])]
    unfold compile
    rw [same]
    rfl

/-- A draft whose second equality is between tables that are referred to, and whose other ones are
chained to them by a table that only equalities name. -/
def chained : Draft :=
  { Draft.empty .auto with
    action := some .select
    aliases := ⟨[⟨"users", "T0", false, 0⟩, ⟨"posts", "T1", false, 0⟩, ⟨"tags", "T2", false, 0⟩], 3⟩
    tables := ["users", "posts", "tags"]
    columns := [⟨some "users", .named { name := "id" }⟩]
    equalities := [⟨"posts", "id", "tags", "post_id"⟩, ⟨"users", "id", "T1", "user_id"⟩,
      ⟨"tags", "user_id", "users", "id"⟩]
    orderBy := [⟨some "posts", .named { name := "title" }⟩] }

theorem compile_equating_chained :
    chained.isOnRows = true ∧ (chained.compile .mysql).sql ≠ "" ∧
      ∃ row, chained.rowStatement? .mysql = some row ∧
        (chained.compile .mysql).sql =
          (row.write chained.fromList [chained.equationOf ⟨"users", "id", "T1", "user_id"⟩]).fill
            chained.scope.qualifierOf := by
  have onRows : chained.isOnRows = true := rfl
  have written : (chained.compile .mysql).sql ≠ "" := by decide +kernel
  have printed : chained.equalities.filter (chained.refersToBoth .mysql) =
      [⟨"users", "id", "T1", "user_id"⟩] := by
    simp only [funext (refersToBoth_eq chained .mysql)]
    decide +kernel
  rcases compile_equating chained .mysql onRows written with ⟨row, isRow, text, -⟩
  have same := text chained.equalities
  rw [printed] at same
  exact ⟨onRows, written, row, isRow, same⟩

end Draft

end SqlQuery
