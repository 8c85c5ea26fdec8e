import SqlQuery.Proofs.IntroducedNames
import SqlQuery.Proofs.PrintedEqualities

/-!
The names by which the keys of a statement are qualified.

The keys of a statement on rows are the fields of its conditions, the columns it assigns and the
sides of the pairs that its joins and equalities are on (`Draft.keys`).  A key of the form
`table.column` can name its table by the table's name or by its alias.  Where columns are qualified,
either is replaced by the name under which the table is introduced.  Where they are not, the key
stays as it is, while the table is introduced by its own name
(`Draft.TablesAreKnown.fill_keyFragment`).
-/

namespace SqlQuery

/-! ## Parts of a fragment -/

namespace Fragment

/-- The first fragment stands in the second one, which is not blank. -/
def PartOf (f g : Fragment) : Prop := f <:+: g ∧ g.isBlank = false

namespace PartOf

variable {f g : Fragment}

theorem refl (present : f.isBlank = false) : f.PartOf f := ⟨List.infix_refl f, present⟩

theorem of_append (before after : Fragment) (present : (before ++ f ++ after).isBlank = false) :
    f.PartOf (before ++ f ++ after) := ⟨List.infix_append before f after, present⟩

/-- What encloses a fragment that is not blank is not blank either. -/
theorem isBlank_append (inner : f.PartOf g) (before after : Fragment) :
    (before ++ g ++ after).isBlank = false := by
  have present := inner.2
  unfold isBlank at present ⊢
  rw [List.all_append, List.all_append, present, Bool.and_false, Bool.false_and]

theorem append (inner : f.PartOf g) (before after : Fragment) : f.PartOf (before ++ g ++ after) :=
  ⟨inner.1.trans (List.infix_append before g after), inner.isBlank_append before after⟩

/-- A part of one of several fragments is a part of them with a separator. -/
theorem separated (inner : f.PartOf g) (separator : String) {gs : List Fragment}
    (member : g ∈ gs) : f.PartOf (separated separator gs) := by
  rcases List.append_of_mem member with ⟨before, after, rfl⟩
  rw [separated_append_cons]
  exact inner.append _ _

theorem joined (inner : f.PartOf g) (separator : String) {gs : List Fragment}
    (member : g ∈ gs) : f.PartOf (joined separator gs) :=
  inner.separated separator (List.mem_filter.2 ⟨member, by simp [inner.2]⟩)

theorem clause (inner : f.PartOf g) (keyword : String) : f.PartOf (clause keyword g) := by
  have written : Fragment.clause keyword g = [.text (keyword ++ " ")] ++ g ++ [] := by
    simp [Fragment.clause, inner.2]
  rw [written]
  exact inner.append _ _

end PartOf

end Fragment

namespace RowStatement

variable {row : RowStatement} {tables f g : Fragment} {predicates : List Fragment}

theorem partOf_write_tables (inner : f.PartOf tables) : f.PartOf (row.write tables predicates) :=
  (inner.clause row.keyword).joined " " (by simp)

theorem partOf_write_predicate (inner : f.PartOf g) (member : g ∈ predicates) :
    f.PartOf (row.write tables predicates) :=
  ((inner.separated " AND " member).clause "WHERE").joined " " (by simp)

theorem partOf_write_change (inner : f.PartOf g) (member : g ∈ row.changes) :
    f.PartOf (row.write tables predicates) :=
  inner.joined " " (by simp [member])

theorem partOf_write_closing (inner : f.PartOf g) (member : g ∈ row.closing) :
    f.PartOf (row.write tables predicates) :=
  inner.joined " " (by simp [member])

end RowStatement

/-! ## Keys -/

/-- A name of the form `table.column` is its two parts with a dot between them. -/
theorem Text.eq_of_splitQualified? {s table column : String}
    (parts : splitQualified? s = some (table, column)) : s = table ++ "." ++ column := by
  unfold splitQualified? at parts
  dsimp only at parts
  split at parts
  case h_1 rest after =>
    split at parts
    case isTrue =>
      obtain ⟨rfl, rfl⟩ := Prod.mk.inj (Option.some.inj parts)
      rw [← String.toList_inj]
      have whole := List.takeWhile_append_dropWhile (p := (· != '.')) (l := s.toList)
      rw [after] at whole
      simpa using whole.symm
    case isFalse => cases parts
  case h_2 => cases parts

/-- A key as it is given. -/
structure Key where
  /-- The table that the key belongs to unless it names one itself. -/
  context : Option String
  field : String
deriving DecidableEq, Repr

/-- The keys of the pairs that a join is on. -/
def Join.keys : Join → List Key
  | .raw _ _ => []
  | .structured _ left right on =>
    on.flatMap fun pair => [⟨some left, pair.1⟩, ⟨some right, pair.2⟩]

/-- The two sides of an equality. -/
def Equality.keys (e : Equality) : List Key :=
  [⟨some e.left, e.leftColumn⟩, ⟨some e.right, e.rightColumn⟩]

/-- The field that a leaf compares. -/
def Leaf.key? : Leaf → Option Key
  | .raw _ => none
  | .compare context _ field _ _ => some ⟨context, field⟩

/-- The fields of the conditions of a group, as far as these survive. -/
def ConditionGroup.keys (known : String → Bool) (g : ConditionGroup) : List Key :=
  ((g.leaves known).filter Leaf.survives).filterMap Leaf.key?

namespace Draft

/-- The row whose values the draft assigns if its statement is on rows. -/
def assignedRow (d : Draft) : Row :=
  match d.action with
  | some .update => d.assignments
  | some .upsert => d.rows.head?.getD .empty
  | _ => .empty

/-- The groups of conditions on what is selected. -/
def havingGroups (d : Draft) : List ConditionGroup :=
  if d.action = some .select then d.having else []

/-- The keys of the draft's statement on rows. -/
def keys (d : Draft) (escaper : Escaper) : List Key :=
  d.joins.flatMap Join.keys ++
    d.assignedRow.columns.map (fun column => ⟨d.primary?, column⟩) ++
    (d.wheres ++ d.havingGroups).flatMap (ConditionGroup.keys d.scope.resolves) ++
    (d.equalities.filter (d.refersToBoth escaper)).flatMap Equality.keys

end Draft

namespace Scope

/-- A key as it is printed. -/
def keyFragment (s : Scope) (key : Key) : Fragment := s.key key.context key.field

variable {s : Scope}

/-- Both keys of an equation are in it. -/
theorem partOf_equation {left leftColumn right rightColumn : String} {key : Key}
    (listed : key ∈ Equality.keys ⟨left, leftColumn, right, rightColumn⟩) :
    (s.keyFragment key).PartOf (s.equation left leftColumn right rightColumn) := by
  have present : (s.equation left leftColumn right rightColumn).isBlank = false := by
    simp [equation, Fragment.isBlank]
  unfold equation at present ⊢
  rcases List.mem_cons.1 listed with rfl | listed
  · exact ⟨(List.prefix_append _ _).isInfix, present⟩
  · rw [List.mem_singleton.1 listed]
    exact ⟨((List.suffix_cons _ _).trans (List.suffix_append _ _)).isInfix, present⟩

/-- Both keys of every pair that a join is on are in it. -/
theorem partOf_join {j : Join} {key : Key} (listed : key ∈ j.keys) :
    (s.keyFragment key).PartOf (s.join j) := by
  cases j with
  | raw left sql => simp [Join.keys] at listed
  | structured kind left right on =>
    rcases List.mem_flatMap.1 listed with ⟨pair, member, side⟩
    have pairs : on.isEmpty = false := by simpa using List.ne_nil_of_mem member
    have inner : (s.keyFragment key).PartOf
        (Fragment.separated " AND " (on.map fun pair => s.equation left pair.1 right pair.2)) :=
      (partOf_equation side).separated " AND " (List.mem_map_of_mem member)
    have around := inner.append (.text (kind.keyword ++ " JOIN ") :: s.introduction right ++
      [.text " ON "]) []
    simpa [join, pairs] using around

/-- The key of a comparison is part of its predicate. -/
theorem partOf_predicate {escaper : Escaper} {leaf : Leaf} {key : Key} {f : Fragment}
    (isKey : leaf.key? = some key) (written : s.predicate? escaper leaf = some f) :
    (s.keyFragment key).PartOf f := by
  cases leaf with
  | raw sql => cases isKey
  | compare context quoted field comparison operand =>
    obtain rfl := Option.some.inj isKey
    simp only [predicate?] at written
    split at written
    case isTrue => cases written
    case isFalse =>
      rcases Option.map_eq_some_iff.1 written with ⟨text, -, rfl⟩
      exact ⟨(List.prefix_append _ _).isInfix, by simp [Fragment.isBlank]⟩

/-- A condition that survives is printed with its field, and so is its group. -/
theorem exists_group_of_mem_keys (escaper : Escaper) {gs : List ConditionGroup} {key : Key}
    (listed : key ∈ gs.flatMap (ConditionGroup.keys s.resolves)) :
    ∃ f ∈ s.groups escaper gs, (s.keyFragment key).PartOf f := by
  rcases List.mem_flatMap.1 listed with ⟨g, member, inside⟩
  rcases List.mem_filterMap.1 inside with ⟨leaf, survives, isKey⟩
  rcases List.mem_filter.1 survives with ⟨isLeaf, survives⟩
  rw [← s.isSome_predicate? escaper] at survives
  rcases Option.isSome_iff_exists.1 survives with ⟨f, written⟩
  have inPredicates : f ∈ s.predicates escaper g := List.mem_filterMap.2 ⟨leaf, isLeaf, written⟩
  have group : s.group? escaper g =
      some (.text "(" :: Fragment.separated g.options.relation.separator
        (s.predicates escaper g) ++ [.text ")"]) := by
    unfold group?
    split
    case h_1 none => simp [none] at inPredicates
    case h_2 => rfl
  refine ⟨_, List.mem_filterMap.2 ⟨g, member, group⟩, ?_⟩
  exact ((partOf_predicate isKey written).separated _ inPredicates).append [.text "("] [.text ")"]

/-- What is in an item of the list of tables is in the list. -/
theorem partOf_fromList {tables : List String} {joins : List Join} {item : FromItem}
    (listed : item ∈ FromItem.ofDeclared tables joins) {f : Fragment}
    (inner : f.PartOf (s.fromItem item)) : f.PartOf (s.fromList tables joins) :=
  inner.joined ", " (List.mem_map_of_mem listed)

/-- A join stands in the list of tables unless there is nothing to be written for it. -/
theorem partOf_fromList_of_join {tables : List String} {joins : List Join} {j : Join}
    (member : j ∈ joins) {f : Fragment} (inner : f.PartOf (s.join j)) :
    f.PartOf (s.fromList tables joins) := by
  have placed := (FromItem.flatMap_joins_ofDeclared_perm tables joins).mem_iff.2 member
  rcases List.mem_flatMap.1 placed with ⟨item, listed, inside⟩
  exact partOf_fromList listed
    (inner.separated " " (List.mem_append_right _ (List.mem_map_of_mem inside)))

/-- A join that brings in a table introduces it. -/
theorem partOf_join_introduction {j : Join} {right : String} (brings : j.right? = some right) :
    (s.introduction right).PartOf (s.join j) := by
  cases j with
  | raw left sql => cases brings
  | structured kind left other on =>
    obtain rfl := Option.some.inj brings
    by_cases pairs : on.isEmpty = true
    · have part := Fragment.PartOf.of_append (f := s.introduction other)
        [.text (kind.keyword ++ " JOIN ")] [] (by simp [Fragment.isBlank])
      simpa [join, pairs] using part
    · have part := Fragment.PartOf.of_append (f := s.introduction other)
        [.text (kind.keyword ++ " JOIN ")]
        (.text " ON " :: Fragment.separated " AND "
          (on.map fun pair => s.equation left pair.1 other pair.2)) (by simp [Fragment.isBlank])
      simpa [join, pairs] using part

end Scope

/-! ## The parts of a statement on rows -/

namespace Draft

variable {d : Draft} {escaper : Escaper} {row : RowStatement}

/-- The tables of the statement are introduced in its list of tables. -/
theorem TablesAreKnown.partOf_fromList (tables : d.TablesAreKnown) {table : String}
    (involved : table ∈ d.tablesInvolved) :
    (d.scope.introduction table).PartOf d.fromList := by
  have brought : (∃ j ∈ d.joins, j.right? = some table) →
      (d.scope.introduction table).PartOf d.fromList := by
    rintro ⟨j, member, brings⟩
    exact Scope.partOf_fromList_of_join member (Scope.partOf_join_introduction brings)
  rcases mem_tablesInvolved.1 involved with declared | joined
  · rcases FromItem.mem_heads_or_brought d.tables d.joins declared with
      head | ⟨item, listed, j, inside, brings⟩
    · rcases List.mem_map.1 head with ⟨item, listed, starts⟩
      have present : (d.scope.introduction table).isBlank = false :=
        Scope.isBlank_introduction_of_known (tables.known table declared)
          (tables.named table declared)
      refine Scope.partOf_fromList listed ((Fragment.PartOf.refl present).separated " " ?_)
      simp [starts]
    · exact brought ⟨j, FromItem.mem_joins_of_item listed inside, brings⟩
  · exact brought joined

/-- Every table that takes part is introduced in the statement. -/
theorem TablesAreKnown.partOf_statement (tables : d.TablesAreKnown)
    (isRow : d.rowStatement? escaper = some row) {table : String}
    (involved : table ∈ d.tablesInvolved) :
    (d.scope.introduction table).PartOf (d.statement escaper) := by
  rw [statement_of_rowStatement? isRow]
  exact RowStatement.partOf_write_tables (tables.partOf_fromList involved)

/-- The assignments are among the changes of a statement that has some. -/
theorem mem_changes_of_rowStatement? (isRow : d.rowStatement? escaper = some row)
    (values : d.assignedRow.entries ≠ []) :
    Fragment.clause "SET" (d.assignmentList escaper d.assignedRow) ∈ row.changes := by
  have ofChange {r : Row} (isRow : d.change? escaper r = some row) :
      Fragment.clause "SET" (d.assignmentList escaper r) ∈ row.changes := by
    unfold change? at isRow
    split at isRow
    case isTrue => cases isRow
    case isFalse =>
      obtain rfl := Option.some.inj isRow
      exact List.mem_singleton_self _
  unfold rowStatement? at isRow
  unfold assignedRow at values ⊢
  split at isRow
  case isTrue => cases isRow
  case isFalse =>
    split at isRow
    case h_2 action =>
      simp only [action]
      exact ofChange isRow
    case h_3 action =>
      simp only [action]
      split at isRow
      case isTrue => exact ofChange isRow
      case isFalse => cases isRow
    case h_5 => cases isRow
    all_goals
      rename_i action
      simp [action, Row.empty] at values

/-- The conditions after `HAVING` are among what closes a selection. -/
theorem mem_closing_of_rowStatement? (isRow : d.rowStatement? escaper = some row)
    (selects : d.action = some .select) :
    Fragment.clause "HAVING" (d.havingPredicates escaper) ∈ row.closing := by
  unfold rowStatement? at isRow
  rw [selects] at isRow
  split at isRow
  case isTrue => cases isRow
  case isFalse =>
    obtain rfl := Option.some.inj isRow
    simp

/-- All keys are printed. -/
theorem partOf_statement_of_mem_keys (isRow : d.rowStatement? escaper = some row) {key : Key}
    (listed : key ∈ d.keys escaper) :
    (d.scope.keyFragment key).PartOf (d.statement escaper) := by
  have parts := statement_equating isRow d.equalities
  change d.statement escaper = _ at parts
  rw [parts]
  simp only [keys, List.flatMap_append, List.mem_append] at listed
  -- Keys of joins stand in the list of tables, those of values before the conditions, and those of
  -- groups either in the conditions or behind them.
  rcases listed with ((joined | assigned) | selected | grouped) | equated
  · rcases List.mem_flatMap.1 joined with ⟨j, member, side⟩
    exact RowStatement.partOf_write_tables
      (Scope.partOf_fromList_of_join member (Scope.partOf_join side))
  · rcases List.mem_map.1 assigned with ⟨_, isColumn, rfl⟩
    rcases List.mem_map.1 isColumn with ⟨entry, member, rfl⟩
    have assignment : (d.scope.keyFragment ⟨d.primary?, entry.1⟩).PartOf
        (d.assignment escaper entry) :=
      ⟨(List.prefix_append _ _).isInfix, by simp [Draft.assignment, Fragment.isBlank]⟩
    exact RowStatement.partOf_write_change
      ((assignment.separated ", " (List.mem_map_of_mem member)).clause "SET")
      (mem_changes_of_rowStatement? isRow (List.ne_nil_of_mem member))
  · rcases Scope.exists_group_of_mem_keys escaper selected with ⟨f, written, part⟩
    exact RowStatement.partOf_write_predicate part (List.mem_append_left _ written)
  · unfold havingGroups at grouped
    split at grouped
    case isFalse => cases grouped
    case isTrue selects =>
      rcases Scope.exists_group_of_mem_keys escaper grouped with ⟨f, written, part⟩
      exact RowStatement.partOf_write_closing ((part.joined " AND " written).clause "HAVING")
        (mem_closing_of_rowStatement? isRow selects)
  · rcases List.mem_flatMap.1 equated with ⟨e, member, side⟩
    exact RowStatement.partOf_write_predicate (Scope.partOf_equation side)
      (List.mem_append_right _ (List.mem_map_of_mem member))

/-- A key that names a table is printed with the name under which the table is introduced if
columns are qualified, and with the name that it gives otherwise. -/
theorem TablesAreKnown.fill_keyFragment (tables : d.TablesAreKnown) {key : Key}
    {given column : String} (parts : Text.splitQualified? key.field = some (given, column))
    {table : String} (involved : table ∈ d.tablesInvolved)
    (same : d.scope.resolve? given = d.scope.resolve? table) :
    (d.scope.keyFragment key).fill d.scope.qualifierOf =
      (if d.scope.active then d.scope.introducedName table else given) ++ "." ++ column := by
  rcases tables.exists_entry involved with ⟨i, e, found, rfl⟩
  rw [Scope.resolve?_name (s := d.scope) tables.sound found] at same
  unfold Scope.keyFragment Scope.key
  rw [parts, Scope.introducedName_eq (s := d.scope) tables.sound found]
  unfold Scope.qualify?
  by_cases active : d.scope.active = true
  · simp [active, same, Scope.qualified, Piece.fill, String.append_assoc]
  · simp [active, Piece.fill, Text.eq_of_splitQualified? parts]

end Draft

/-! ## Sessions -/

namespace Session

/-- After any calls on a new builder that lead to a statement on rows, every key that names one of
its tables, by the table's name or by its alias, is printed behind a name of the table, and the
table is introduced in the list of tables.  The two have one name exactly if columns are qualified
or the key names the table by its name: where columns are not qualified, an alias stays in the key
although nothing introduces it. -/
theorem printedKey_runUnder (mode : AliasMode) (escaper : Escaper)
    (calls : List (AliasMode × Call)) :
    ∀ b ∈ (runUnder ⟨{ draft := .empty mode, escaper }, []⟩ calls).builders,
      b.draft.isOnRows = true → (b.draft.compile b.escaper).sql ≠ "" →
        ∀ key ∈ b.draft.keys b.escaper, ∀ given column,
          Text.splitQualified? key.field = some (given, column) →
            ∀ table ∈ b.draft.tablesInvolved,
              b.draft.scope.resolve? given = b.draft.scope.resolve? table →
                (b.draft.scope.introduction table).PartOf (b.draft.statement b.escaper) ∧
                (b.draft.scope.keyFragment key).PartOf (b.draft.statement b.escaper) ∧
                ∃ printed,
                  (b.draft.scope.keyFragment key).fill b.draft.scope.qualifierOf =
                    printed ++ "." ++ column ∧
                  (printed = b.draft.scope.introducedName table ↔
                    b.draft.scope.active = true ∨ given = table) := by
  intro b member onRows written key listed given column parts table involved same
  have tables := tablesAreKnown_runUnder mode escaper calls b member
  rcases Draft.exists_rowStatement? onRows written with ⟨row, isRow⟩
  refine ⟨tables.partOf_statement isRow involved, Draft.partOf_statement_of_mem_keys isRow listed,
    _, tables.fill_keyFragment parts involved same, ?_⟩
  by_cases active : b.draft.scope.active = true
  · simp [active]
  · rcases tables.exists_entry involved with ⟨i, e, found, rfl⟩
    rw [Scope.introducedName_eq (s := b.draft.scope) tables.sound found]
    simp [active]

/-- Calls that lead to keys which name their tables in both ways: by names and by aliases, of which
one was chosen. -/
def bothWays : List (AliasMode × Call) :=
  [(.auto, .edit (.setTableAlias "users" "u")), (.auto, .edit (.select ["name"] "users")),
    (.auto, .edit (.join .left "users" "posts" [("u.id", "T0.user_id")])),
    (.auto, .edit (.addWhere {} [.equal "posts.state" (.integer 1)]))]

theorem printedKey_runUnder_bothWays :
    let b := (runUnder ⟨{ draft := .empty .auto, escaper := .mysql }, []⟩ bothWays).current
    b.draft.isOnRows = true ∧ (b.draft.compile b.escaper).sql ≠ "" ∧
      ⟨some "posts", "T0.user_id"⟩ ∈ b.draft.keys b.escaper ∧
      Text.splitQualified? "T0.user_id" = some ("T0", "user_id") ∧
      "posts" ∈ b.draft.tablesInvolved ∧
      b.draft.scope.resolve? "T0" = b.draft.scope.resolve? "posts" ∧
      (b.draft.scope.introduction "posts").PartOf (b.draft.statement b.escaper) ∧
      (b.draft.scope.keyFragment ⟨some "posts", "T0.user_id"⟩).fill b.draft.scope.qualifierOf =
        b.draft.scope.introducedName "posts" ++ "." ++ "user_id" := by
  intro b
  have onRows : b.draft.isOnRows = true := by decide +kernel
  have written : (b.draft.compile b.escaper).sql ≠ "" := by decide +kernel
  have listed : ⟨some "posts", "T0.user_id"⟩ ∈ b.draft.keys b.escaper := by decide +kernel
  have parts : Text.splitQualified? "T0.user_id" = some ("T0", "user_id") := by decide +kernel
  have involved : "posts" ∈ b.draft.tablesInvolved := by decide +kernel
  have same : b.draft.scope.resolve? "T0" = b.draft.scope.resolve? "posts" := by decide +kernel
  have active : b.draft.scope.active = true := by decide +kernel
  rcases printedKey_runUnder .auto .mysql bothWays b (current_mem_builders _) onRows written _
    listed "T0" "user_id" parts "posts" involved same with ⟨introduced, -, printed, text, named⟩
  rw [named.2 (.inl active)] at text
  exact ⟨onRows, written, listed, parts, involved, same, introduced, text⟩

/-- Calls on one table for which an alias was chosen, which a column of the select list and a field
of a condition are named by. -/
def unintroduced : List (AliasMode × Call) :=
  [(.auto, .edit (.setTableAlias "users" "u")), (.auto, .edit (.select ["u.name"] "users")),
    (.auto, .edit (.addWhere {} [.equal "u.id" (.integer 5)]))]

/-- A key can be qualified by an alias under which no table is introduced. -/
theorem printedKey_ne_unintroduced :
    let b := (runUnder ⟨{ draft := .empty .auto, escaper := .mysql }, []⟩ unintroduced).current
    ⟨none, "u.id"⟩ ∈ b.draft.keys b.escaper ∧
      Text.splitQualified? "u.id" = some ("u", "id") ∧ "users" ∈ b.draft.tablesInvolved ∧
      b.draft.scope.resolve? "u" = b.draft.scope.resolve? "users" ∧
      b.draft.scope.introducedName "users" = "users" ∧
      (b.draft.compile b.escaper).sql = "SELECT name FROM users WHERE (u.id = '5')" := by
  intro b
  exact ⟨by decide +kernel, by decide +kernel, by decide +kernel, by decide +kernel,
    by decide +kernel, Draft.sql_of_joins_eq_nil (by decide +kernel) (by decide +kernel)⟩

end Session

end SqlQuery
