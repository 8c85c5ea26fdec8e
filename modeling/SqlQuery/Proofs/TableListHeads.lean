import SqlQuery.Proofs.StatementVerb

/-!
What the items of a list of tables start with.

An item starts with a declared table that no structured join brings in.  If there is no such table,
as where a table is joined with itself or the joins lead back to each of the declared tables, the
list is one item that consists of joins alone and starts with the first one
(`FromItem.ofDeclared_of_freeTables_eq_nil`).
-/

namespace SqlQuery

theorem Text.startsWith_intercalate (separator text : String) (texts : List String) :
    StartsWith text (separator.intercalate (text :: texts)) := by
  cases texts with
  | nil => exact ⟨"", by simp⟩
  | cons next texts =>
    rw [String.intercalate_cons_cons, String.append_assoc]
    exact ⟨_, rfl⟩

namespace FromItem

variable {tables : List String} {joins : List Join}

/-- Without a table to start from, the list is one item of all joins, the first one first. -/
theorem ofDeclared_of_freeTables_eq_nil {first : Join} {others : List Join}
    (brought : freeTables tables (first :: others) = []) :
    ∃ rest, rest.Perm others ∧ ofDeclared tables (first :: others) = [⟨none, first :: rest⟩] := by
  have orphans := Placement.orphans_perm (first :: others)
  rw [ofDeclared_eq_addOrphans, brought, below]
  rw [Placement.orphans] at orphans ⊢
  exact ⟨_, orphans.cons_inv, rfl⟩

end FromItem

/-! ## Drafts -/

namespace Draft

/-- The item starts with a declared table, as this is introduced by its own name. -/
def StartsWithTable (d : Draft) (item : FromItem) : Prop :=
  ∃ table ∈ d.tables, item.head = some table ∧ d.scope.Declares table ∧
    Text.StartsWith ((d.scope.introduction table).fill d.scope.qualifierOf) (d.scope.itemText item)

variable {d : Draft}

theorem TablesAreKnown.startsWithTable (tables : d.TablesAreKnown) {item : FromItem}
    {table : String} (declared : table ∈ d.tables) (head : item.head = some table) :
    d.StartsWithTable item := by
  refine ⟨table, declared, head, Scope.declares_of_known (tables.known table declared), ?_⟩
  unfold Scope.itemText
  rw [head]
  exact Text.startsWith_intercalate " " _ _

/-- All items start with a declared table exactly if there is one that no join brings in. -/
theorem TablesAreKnown.forall_startsWithTable_iff (tables : d.TablesAreKnown)
    (declared : d.tables ≠ []) :
    (∀ item ∈ FromItem.ofDeclared d.tables d.joins, d.StartsWithTable item) ↔
      ∃ table ∈ d.tables, ∀ j ∈ d.joins, j.right? ≠ some table := by
  rw [← FromItem.freeTables_ne_nil_iff]
  constructor
  · intro headed brought
    cases joins : d.joins with
    | nil =>
      rcases List.exists_mem_of_ne_nil _ declared with ⟨table, member⟩
      exact FromItem.freeTables_ne_nil_iff.2 ⟨table, member, by simp [joins]⟩ brought
    | cons first others =>
      rw [joins] at headed brought
      rcases FromItem.ofDeclared_of_freeTables_eq_nil brought with ⟨rest, -, items⟩
      rcases headed ⟨none, first :: rest⟩ (by simp [items]) with ⟨table, -, head, -⟩
      cases head
  · intro free item listed
    rcases FromItem.exists_head_of_freeTables_ne_nil free listed with ⟨table, member, head⟩
    exact tables.startsWithTable member head

/-- Where joins bring in all tables, the only item starts with the first join. -/
theorem exists_ofDeclared_of_brought (declared : d.tables ≠ [])
    (brought : ∀ table ∈ d.tables, ∃ j ∈ d.joins, j.right? = some table) :
    ∃ first others rest, d.joins = first :: others ∧ rest.Perm others ∧
      FromItem.ofDeclared d.tables d.joins = [⟨none, first :: rest⟩] ∧
      Text.StartsWith ((d.scope.join first).fill d.scope.qualifierOf)
        (d.scope.itemText ⟨none, first :: rest⟩) := by
  have allBrought : FromItem.freeTables d.tables d.joins = [] := by
    by_contra free
    rcases FromItem.freeTables_ne_nil_iff.1 free with ⟨table, member, unbrought⟩
    rcases brought table member with ⟨j, inJoins, brings⟩
    exact unbrought j inJoins brings
  rcases List.exists_mem_of_ne_nil _ declared with ⟨table, member⟩
  rcases brought table member with ⟨j, inJoins, -⟩
  rcases List.exists_cons_of_ne_nil (List.ne_nil_of_mem inJoins) with ⟨first, others, joins⟩
  rw [joins] at allBrought ⊢
  rcases FromItem.ofDeclared_of_freeTables_eq_nil allBrought with ⟨rest, same, only⟩
  exact ⟨first, others, rest, rfl, same, only, Text.startsWith_intercalate " " _ _⟩

/-- The items stand behind the words that the list of tables follows. -/
theorem TablesAreKnown.exists_sql_eq (tables : d.TablesAreKnown) {escaper : Escaper}
    {row : RowStatement} (isRow : d.rowStatement? escaper = some row) (declared : d.tables ≠ []) :
    ∃ before behind, (d.compile escaper).sql =
      before ++ row.keyword ++ " " ++
        ", ".intercalate ((FromItem.ofDeclared d.tables d.joins).map d.scope.itemText) ++
          behind := by
  have present := Fragment.isBlank_of_fill_ne_empty (tables.fill_fromList_ne_empty declared)
  have text := row.fill_write d.scope.qualifierOf present
    (d.predicates escaper (row.others d.fromList))
  rw [← statement_of_rowStatement? isRow, fill_fromList_of_known tables.named tables.known] at text
  exact ⟨_, _, text⟩

end Draft

/-! ## Sessions -/

namespace Session

/-- After any calls on a new builder that lead to a statement on rows, the list of tables in it is a
comma list of items.  All of these start with the declaration of a declared table exactly if there
is a declared table that no join brings in.  Otherwise there is one item, which consists of all
joins and starts with the first of them. -/
theorem tableListHeads_runUnder (mode : AliasMode) (escaper : Escaper)
    (calls : List (AliasMode × Call)) :
    ∀ b ∈ (runUnder ⟨{ draft := .empty mode, escaper }, []⟩ calls).builders,
      b.draft.isOnRows = true → (b.draft.compile b.escaper).sql ≠ "" →
        let items := FromItem.ofDeclared b.draft.tables b.draft.joins
        (∃ row, b.draft.rowStatement? b.escaper = some row ∧ ∃ before behind,
          (b.draft.compile b.escaper).sql =
            before ++ row.keyword ++ " " ++ ", ".intercalate (items.map b.draft.scope.itemText) ++
              behind) ∧
        ((∀ item ∈ items, b.draft.StartsWithTable item) ↔
          ∃ table ∈ b.draft.tables, ∀ j ∈ b.draft.joins, j.right? ≠ some table) ∧
        ((∀ table ∈ b.draft.tables, ∃ j ∈ b.draft.joins, j.right? = some table) →
          ∃ first others rest, b.draft.joins = first :: others ∧ rest.Perm others ∧
            items = [⟨none, first :: rest⟩] ∧
            Text.StartsWith ((b.draft.scope.join first).fill b.draft.scope.qualifierOf)
              (b.draft.scope.itemText ⟨none, first :: rest⟩)) := by
  intro b member onRows written items
  have tables := tablesAreKnown_runUnder mode escaper calls b member
  rcases Draft.exists_rowStatement? onRows written with ⟨row, isRow⟩
  have declared : b.draft.tables ≠ [] := by
    intro none
    simp [Draft.rowStatement?, none] at isRow
  exact ⟨⟨row, isRow, tables.exists_sql_eq isRow declared⟩,
    tables.forall_startsWithTable_iff declared, Draft.exists_ofDeclared_of_brought declared⟩

/-- Calls whose joins lead from a selected table to a cycle of two other tables. -/
def cycleBelow : List (AliasMode × Call) :=
  [(.auto, .edit (.select ["*"] "users")),
    (.auto, .edit (.join .left "users" "posts" [("id", "user_id")])),
    (.auto, .edit (.join .inner "posts" "tags" [("id", "post_id")])),
    (.auto, .edit (.join .inner "tags" "posts" [("post_id", "id")]))]

theorem tableListHeads_runUnder_cycleBelow :
    let b := (runUnder ⟨{ draft := .empty .auto, escaper := .mysql }, []⟩ cycleBelow).current
    b.draft.isOnRows = true ∧ (b.draft.compile b.escaper).sql ≠ "" ∧
      b.draft.tables = ["users", "posts", "tags"] ∧
      ∀ item ∈ FromItem.ofDeclared b.draft.tables b.draft.joins, b.draft.StartsWithTable item := by
  intro b
  have onRows : b.draft.isOnRows = true := by decide +kernel
  have written : (b.draft.compile b.escaper).sql ≠ "" := by decide +kernel
  have free : ∃ table ∈ b.draft.tables, ∀ j ∈ b.draft.joins, j.right? ≠ some table := by
    decide +kernel
  have heads := tableListHeads_runUnder .auto .mysql cycleBelow b (current_mem_builders _) onRows
    written
  exact ⟨onRows, written, by decide +kernel, heads.2.1.2 free⟩

/-- Calls that join a table with itself. -/
def selfJoined : List (AliasMode × Call) :=
  [(.auto, .edit (.select ["*"] "users")),
    (.auto, .edit (.join .inner "users" "users" [("id", "manager_id")]))]

/-- A list of tables can start with a join. -/
theorem tableListHeads_selfJoined :
    let b := (runUnder ⟨{ draft := .empty .auto, escaper := .mysql }, []⟩ selfJoined).current
    let item : FromItem := ⟨none, [.structured .inner "users" "users" [("id", "manager_id")]]⟩
    b.draft.tables = ["users"] ∧
      FromItem.ofDeclared b.draft.tables b.draft.joins = [item] ∧ ¬b.draft.StartsWithTable item ∧
      (b.draft.compile b.escaper).sql =
        "SELECT * FROM INNER JOIN users ON id = manager_id" := by
  intro b item
  have joins : b.draft.joins = [.structured .inner "users" "users" [("id", "manager_id")]] := by
    decide +kernel
  have brought : FromItem.freeTables b.draft.tables
      [.structured .inner "users" "users" [("id", "manager_id")]] = [] := by
    decide +kernel
  have items : FromItem.ofDeclared b.draft.tables b.draft.joins = [item] := by
    rcases FromItem.ofDeclared_of_freeTables_eq_nil brought with ⟨rest, same, items⟩
    rw [joins, items, List.perm_nil.1 same]
  have list : b.draft.fromList =
      [.text "INNER JOIN ", .text "users", .text " ON ", .text "id", .text " = ",
        .text "manager_id"] := by
    unfold Draft.fromList Scope.fromList
    rw [items]
    decide +kernel
  have headless : ¬b.draft.StartsWithTable item := by
    rintro ⟨table, -, head, -⟩
    cases head
  exact ⟨by decide +kernel, items, headless, Draft.sql_of_fromList list (by decide +kernel)⟩

end Session

end SqlQuery
