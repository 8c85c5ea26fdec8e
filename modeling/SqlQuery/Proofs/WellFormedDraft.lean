import SqlQuery.Proofs.WrittenColumn

/-!
What the drafts of a session have in common.

Statements are put together without looking twice at a draft: a list of columns is printed on the
understanding that each of them is a text, tuples on the understanding that the columns of a row are
among those of the insertion.  Some thirty calls edit a draft, and each has to leave it such that
this is right.  `Draft.IsWellFormed` collects the facts, and `Session.isWellFormed_runUnder` shows
that they hold of every draft that calls on a new builder lead to.

The facts about tables are those of `Draft.TablesAreKnown`.  The other ones make up
`Draft.ListsAreSound`, which no call can break; that a row has no column twice comes with the row.
-/

namespace SqlQuery

/-! ## Drafts with sound lists -/

namespace Draft

/-- The lists of the draft hold nothing twice and nothing that would be printed as nothing. -/
structure ListsAreSound (d : Draft) : Prop where
  /-- No two columns of the select list have the same resolved name. -/
  columns : (d.columns.map Column.resolvedName).Nodup
  written : ∀ c ∈ d.columns ++ d.groupBy ++ d.orderBy, c.IsWritten
  groups : ∀ g ∈ d.wheres ++ d.having, g.conditions ≠ []
  /-- A row has columns, and they are among those of the insertion. -/
  rows : ∀ r ∈ d.rows, r.columns ≠ [] ∧ ∀ column ∈ r.columns, column ∈ d.insertColumns
  insertColumns : d.insertColumns.Nodup
  assignments : d.assignments.columns.Nodup

/-- Declaring tables changes the alias table and the declared tables, and no other part. -/
theorem exists_foldl_declare_eq (d : Draft) (names : List String) :
    ∃ aliases tables, names.foldl declare d = { d with aliases, tables } := by
  induction names generalizing d with
  | nil => exact ⟨d.aliases, d.tables, rfl⟩
  | cons table names ih =>
    rcases d.exists_declare_eq table with ⟨aliases, tables, declared⟩
    rw [List.foldl_cons, declared]
    exact ih { d with aliases, tables }

@[simp] theorem columns_declare (d : Draft) (table : String) :
    (d.declare table).columns = d.columns := by
  rcases d.exists_declare_eq table with ⟨aliases, tables, declared⟩
  rw [declared]

namespace ListsAreSound

variable {d : Draft}

theorem empty (mode : AliasMode) : (Draft.empty mode).ListsAreSound := by
  constructor <;> simp [Draft.empty, Row.columns, Row.empty]

theorem declare (lists : d.ListsAreSound) (table : String) : (d.declare table).ListsAreSound := by
  rcases d.exists_declare_eq table with ⟨aliases, tables, declared⟩
  rw [declared]
  exact { lists with }

/-- The lists are sound after several tables are declared, by induction on these. -/
theorem foldl_declare (lists : d.ListsAreSound) (names : List String) :
    (names.foldl Draft.declare d).ListsAreSound := by
  rcases d.exists_foldl_declare_eq names with ⟨aliases, tables, declared⟩
  rw [declared]
  exact { lists with }

/-- Columns that are read can be selected, beside those of the select list or in their place. -/
theorem select (lists : d.ListsAreSound) (action : Option Action) {columns : List Column}
    (old : columns = [] ∨ columns = d.columns) (table : Option String) (texts : List String) :
    ListsAreSound { d with
      action
      columns := Column.addAllTo columns (Column.parseAll table texts) } := by
  refine { lists with columns := ?_, written := ?_ }
  · apply Column.nodup_addAllTo
    rcases old with rfl | rfl
    · exact List.nodup_nil
    · exact lists.columns
  · intro c member
    rw [List.append_assoc] at member
    rcases List.mem_append.1 member with selected | listed
    · rcases Column.mem_of_mem_addAllTo selected with before | added
      · rcases old with rfl | rfl
        · cases before
        · exact lists.written c (by simp [before])
      · exact Column.isWritten_of_mem_parseAll added
    · exact lists.written c (by rw [List.append_assoc]; exact List.mem_append_right _ listed)

/-- The added columns are parsed from items, so each is written. -/
theorem addGroupBy (lists : d.ListsAreSound) (table : Option String) (texts : List String) :
    ListsAreSound { d with groupBy := d.groupBy ++ Column.parseAll table texts } := by
  refine { lists with written := ?_ }
  intro c member
  simp only [List.mem_append] at member
  rcases member with (selected | grouped | added) | ordered
  · exact lists.written c (by simp [selected])
  · exact lists.written c (by simp [grouped])
  · exact Column.isWritten_of_mem_parseAll added
  · exact lists.written c (by simp [ordered])

theorem addOrderBy (lists : d.ListsAreSound) (table : Option String) (texts : List String) :
    ListsAreSound { d with orderBy := d.orderBy ++ Column.parseAll table texts } := by
  refine { lists with written := ?_ }
  intro c member
  rcases List.mem_append.1 member with before | listed
  · exact lists.written c (List.mem_append_left _ before)
  · rcases List.mem_append.1 listed with ordered | added
    · exact lists.written c (List.mem_append_right _ ordered)
    · exact Column.isWritten_of_mem_parseAll added

/-- A group without conditions is not added, so every group of the list has some. -/
theorem addWhere {b : Builder} (lists : b.draft.ListsAreSound) (conditions : List Condition)
    (options : GroupOptions) : (b.addWhere conditions options).draft.ListsAreSound := by
  unfold Builder.addWhere
  split
  case isTrue => exact lists
  case isFalse present =>
    refine { lists with groups := ?_ }
    intro g member
    rw [Builder.draft_edit, List.append_assoc, List.mem_append, List.mem_append,
      List.mem_singleton] at member
    rcases member with before | rfl | after
    · exact lists.groups g (List.mem_append_left _ before)
    · simpa using present
    · exact lists.groups g (List.mem_append_right _ after)

theorem addHaving {b : Builder} (lists : b.draft.ListsAreSound) (conditions : List Condition)
    (options : GroupOptions) : (b.addHaving conditions options).draft.ListsAreSound := by
  unfold Builder.addHaving
  split
  case isTrue => exact lists
  case isFalse present =>
    refine { lists with groups := ?_ }
    intro g member
    rw [Builder.draft_edit, ← List.append_assoc, List.mem_append, List.mem_singleton] at member
    rcases member with before | rfl
    · exact lists.groups g before
    · simpa using present

/-- The columns of the insertion can become more. -/
theorem nameColumns (lists : d.ListsAreSound) (columns : List String) :
    ListsAreSound { d with insertColumns := columns.foldl addNew d.insertColumns } := by
  refine { lists with rows := ?_, insertColumns := nodup_foldl_addNew lists.insertColumns columns }
  intro r member
  refine ⟨(lists.rows r member).1, fun column inRow => ?_⟩
  exact mem_foldl_addNew.2 (.inl ((lists.rows r member).2 column inRow))

/-- A row without values is not added, and its columns are collected once each. -/
theorem addRow (lists : d.ListsAreSound) (r : Row) : (d.addRow r).ListsAreSound := by
  unfold Draft.addRow
  split
  case isTrue => exact lists
  case isFalse present =>
    have named := lists.nameColumns r.columns
    refine { named with rows := ?_ }
    intro other member
    rcases List.mem_append.1 member with before | added
    · exact named.rows other before
    · rw [List.mem_singleton.1 added]
      refine ⟨by simpa [Row.isEmpty, Row.columns] using present, fun column inRow => ?_⟩
      exact mem_foldl_addNew.2 (.inr inRow)

/-- The lists are sound after several rows are added, by induction on these. -/
theorem foldl_addRow (lists : d.ListsAreSound) (rows : List Row) :
    (rows.foldl Draft.addRow d).ListsAreSound := by
  induction rows generalizing d with
  | nil => exact lists
  | cons r rows ih => exact ih (lists.addRow r)

theorem setAction (lists : d.ListsAreSound) (action : Option Action) :
    ListsAreSound { d with action } := { lists with }

theorem setJoins (lists : d.ListsAreSound) (aliases : AliasTable) (joins : List Join) :
    ListsAreSound { d with aliases, joins } := { lists with }

end ListsAreSound

end Draft

open Draft

/-! ## Calls -/

/-- One call keeps the lists sound. -/
theorem Edit.listsAreSound_apply (mode : AliasMode) {b : Builder} (lists : b.draft.ListsAreSound)
    (e : Edit) : (e.apply mode b).draft.ListsAreSound := by
  cases e with
  | select columns table =>
    exact (lists.declare table).select (some .select) (.inl rfl) (some table) columns
  | declareTables names => exact lists.foldl_declare (Text.allItems names)
  | setColumns columns => exact lists.select _ (.inl rfl) none columns
  | addColumns columns => exact lists.select _ (.inr rfl) none columns
  | addColumnsOf table columns =>
    have same : b.draft.columns = (b.draft.declare table).columns :=
      (columns_declare b.draft table).symm
    let declared := b.draft.declare table
    exact (lists.declare table).select declared.action (.inr same) (some table) columns
  | addWhere options conditions => exact lists.addWhere conditions options
  | addHaving options conditions => exact lists.addHaving conditions options
  | groupBy table columns => exact lists.addGroupBy table columns
  | orderBy table columns => exact lists.addOrderBy table columns
  | join kind left right on => exact (lists.declare left).setJoins _ _
  | joinRaw left sql => exact (lists.declare left).setJoins _ _
  | upsert r => exact (lists.setAction (some .upsert)).addRow r
  | insertRows rows => exact (lists.setAction (some .insert)).foldl_addRow rows
  | insertTuples columns tuples =>
    exact ((lists.nameColumns columns).setAction (some .insert)).foldl_addRow _
  | update r conditions =>
    refine ListsAreSound.addWhere ?_ conditions {}
    exact { lists with assignments := Row.nodup _ }
  | delete conditions table =>
    exact ListsAreSound.addWhere ((lists.declare table).setAction (some .delete)) conditions {}
  | truncate table => exact (lists.declare table).setAction (some .truncate)
  | setVerb verb => exact lists.setAction _
  | reset => exact .empty mode
  | rebuild => exact lists
  | setEscaper escaper => exact lists
  | _ => exact { lists with }

/-- A reading registers a table at most. -/
theorem Reading.exists_draft_run_eq (b : Builder) (r : Reading) :
    ∃ aliases, (r.run b).1.draft = { b.draft with aliases } := by
  have same : b.compile.draft = { b.draft with aliases := b.draft.aliases } := b.draft_compile
  cases r with
  | aliasFor table =>
    change ∃ aliases, (b.aliasFor table).1.draft = { b.draft with aliases }
    unfold Builder.aliasFor
    split
    · exact ⟨b.draft.aliases, rfl⟩
    · exact ⟨b.draft.aliases.register table, rfl⟩
  | referenceCount table => exact ⟨_, same⟩
  | compile => exact ⟨_, same⟩
  | sql => exact ⟨_, same⟩
  | execute executor single => exact ⟨_, same⟩
  | _ => exact ⟨b.draft.aliases, rfl⟩

theorem Reading.listsAreSound_run {b : Builder} (lists : b.draft.ListsAreSound) (r : Reading) :
    (r.run b).1.draft.ListsAreSound := by
  rcases r.exists_draft_run_eq b with ⟨aliases, same⟩
  rw [same]
  exact { lists with }

/-! ## Well-formed drafts -/

namespace Session

/-- By induction on the calls, all builders of a session have sound lists. -/
theorem listsAreSound_runUnder (mode : AliasMode) (escaper : Escaper)
    (calls : List (AliasMode × Call)) :
    ∀ b ∈ (runUnder ⟨{ draft := .empty mode, escaper }, []⟩ calls).builders,
      b.draft.ListsAreSound := by
  refine forall_builders_runUnder (P := fun b => b.draft.ListsAreSound) ?_ ?_ ?_
  · exact fun mode e _ b lists => e.listsAreSound_apply mode lists
  · exact fun r b lists => r.listsAreSound_run lists
  · intro b isStart
    rw [List.mem_singleton.1 isStart]
    exact .empty mode

end Session

namespace Draft

/-- What the draft says has a place in its statement, and none of it stands there twice. -/
structure IsWellFormed (d : Draft) : Prop extends d.TablesAreKnown, d.ListsAreSound where
  /-- A row has one value under a column. -/
  rowColumns : ∀ r ∈ d.rows, r.columns.Nodup

/-- Every column of the draft has a text, in whichever of its lists it is. -/
theorem ListsAreSound.isWritten_of_mem {d : Draft} (lists : d.ListsAreSound) {cs : List Column}
    (isList : cs = d.columns ∨ cs = d.groupBy ∨ cs = d.orderBy) {c : Column} (member : c ∈ cs) :
    c.IsWritten := by
  apply lists.written
  rcases isList with rfl | rfl | rfl <;> simp [member]

end Draft

namespace Session

/-- Whatever the calls on a new builder are, every draft that they lead to is well formed, and its
lists of columns are printed with one item, which is not empty, for each of their columns. -/
theorem isWellFormed_runUnder (mode : AliasMode) (escaper : Escaper)
    (calls : List (AliasMode × Call)) :
    ∀ b ∈ (runUnder ⟨{ draft := .empty mode, escaper }, []⟩ calls).builders,
      b.draft.IsWellFormed ∧
        ∀ cs, cs = b.draft.columns ∨ cs = b.draft.groupBy ∨ cs = b.draft.orderBy →
          (b.draft.scope.columns cs).fill b.draft.scope.qualifierOf =
              ", ".intercalate (cs.map b.draft.scope.columnText) ∧
            ∀ item ∈ cs.map b.draft.scope.columnText, item ≠ "" := by
  intro b member
  have tables := tablesAreKnown_runUnder mode escaper calls b member
  have lists := listsAreSound_runUnder mode escaper calls b member
  refine ⟨⟨tables, lists, fun r _ => r.nodup⟩, fun cs isList => ?_⟩
  have written : ∀ c ∈ cs, c.IsWritten := fun c => lists.isWritten_of_mem isList
  refine ⟨b.draft.scope.fill_columns written, fun item listed => ?_⟩
  rcases List.mem_map.1 listed with ⟨c, inList, rfl⟩
  exact written c inList _

/-- Calls that name tables and columns twice and with blanks, state empty groups, set a column of a
row again, go back to a saved draft and rebuild it. -/
def repeated : List (AliasMode × Call) :=
  [(.auto, .edit (.select ["id, COUNT(*) AS n, , id", " NOW() "] " users ")),
    (.auto, .edit (.join .left " users" "posts" [("id", "user_id")])),
    (.auto, .edit (.groupBy none ["users.id,"])), (.auto, .edit (.addWhere {} [])), (.auto, .save),
    (.auto, .edit (.upsert (.ofList [("id", .natural 1), ("name", .null), ("id", .natural 2)]))),
    (.auto, .restore), (.auto, .edit (.addColumnsOf "users " ["u.id, n AS m"])),
    (.auto, .read (.aliasFor "tags")),
    (.auto, .edit (.insertTuples ["id", "id", "tag"] [[.natural 1, .natural 2, .null], []])),
    (.auto, .edit (.update (.ofList [("tag", .text "x")]) [.raw "id = 1"])),
    (.auto, .edit .rebuild)]

theorem isWellFormed_runUnder_repeated :
    let b := (runUnder ⟨{ draft := .empty .auto, escaper := .mysql }, []⟩ repeated).current
    b.draft.columns.length = 4 ∧ b.draft.rows.length = 1 ∧
      b.draft.IsWellFormed ∧
        ∀ cs, cs = b.draft.columns ∨ cs = b.draft.groupBy ∨ cs = b.draft.orderBy →
          (b.draft.scope.columns cs).fill b.draft.scope.qualifierOf =
              ", ".intercalate (cs.map b.draft.scope.columnText) ∧
            ∀ item ∈ cs.map b.draft.scope.columnText, item ≠ "" := by
  intro b
  exact ⟨by decide +kernel, by decide +kernel,
    isWellFormed_runUnder .auto .mysql repeated b (current_mem_builders _)⟩

end Session

end SqlQuery
