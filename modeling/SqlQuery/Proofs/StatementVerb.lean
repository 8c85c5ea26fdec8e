import SqlQuery.Proofs.JoinOrder
import SqlQuery.Proofs.UpsertDecision
import SqlQuery.Proofs.WellFormedDraft

/-!
When a statement is empty, and how it starts otherwise.

A clause without a body goes together with its keyword, so a statement could in principle lose its
verb and keep what stands behind it.  It never does.  A draft that calls on a new builder lead to
either says too little for its action (`Draft.SaysTooLittle`), and then nothing is printed, or its
statement starts with its verb and the tables that it is about (`Draft.IsHeaded`).
-/

namespace SqlQuery

/-! ## Texts that are not empty -/

/-- Texts of which one is not empty do not make up the empty text. -/
theorem Text.intercalate_ne_empty {separator text : String} {texts : List String}
    (member : text ∈ texts) (present : text ≠ "") : separator.intercalate texts ≠ "" := by
  induction texts with
  | nil => cases member
  | cons first texts ih =>
    cases texts with
    | nil =>
      rw [String.intercalate_singleton, ← List.mem_singleton.1 member]
      exact present
    | cons second texts =>
      rw [String.intercalate_cons_cons]
      intro none
      rcases String.append_eq_empty_iff.1 none with ⟨before, rest⟩
      rcases List.mem_cons.1 member with rfl | later
      · exact present (String.append_eq_empty_iff.1 before).1
      · exact ih later rest

namespace Fragment

variable {qualifierOf : Nat → String}

/-- One part with a text is enough for the whole to have one. -/
theorem fill_separated_ne_empty {separator : String} {fs : List Fragment} {f : Fragment}
    (member : f ∈ fs) (written : f.fill qualifierOf ≠ "") :
    (separated separator fs).fill qualifierOf ≠ "" := by
  rw [fill_separated]
  exact Text.intercalate_ne_empty (List.mem_map_of_mem member) written

theorem fill_joined_ne_empty {separator : String} {fs : List Fragment} {f : Fragment}
    (member : f ∈ fs) (written : f.fill qualifierOf ≠ "") :
    (joined separator fs).fill qualifierOf ≠ "" := by
  refine fill_separated_ne_empty (List.mem_filter.2 ⟨member, ?_⟩) written
  simp [isBlank_of_fill_ne_empty written]

end Fragment

/-- What stands behind the list of tables is set off from it by a space. -/
theorem RowStatement.fill_behind (row : RowStatement) (predicates : List Fragment)
    (qualifierOf : Nat → String) :
    (row.behind predicates).fill qualifierOf = "" ∨
      Text.StartsWith " " ((row.behind predicates).fill qualifierOf) := by
  unfold behind
  generalize List.filter _ _ = parts
  cases parts with
  | nil => exact .inl rfl
  | cons f parts => exact .inr ⟨_, rfl⟩

/-! ## Tables and columns -/

/-- A join that brings in a table is a text, whatever the table is called. -/
theorem Scope.fill_join_ne_empty {s : Scope} {j : Join} {right : String}
    (brings : j.right? = some right) : (s.join j).fill s.qualifierOf ≠ "" := by
  cases j with
  | raw left sql => cases brings
  | structured kind left _ on =>
    simp only [join]
    split <;> simp [Piece.fill]

namespace Draft

/-! ## Drafts that say too little -/

/-- The draft says less than a statement of its action needs: it has no action or no table, no row
to add or no value to change to. -/
def SaysTooLittle (d : Draft) : Prop :=
  d.action = none ∨ d.tables = [] ∨
    (d.action = some .insert ∨ d.action = some .upsert) ∧ d.rows = [] ∨
      d.action = some .update ∧ d.assignments.entries = []

instance (d : Draft) : Decidable d.SaysTooLittle := inferInstanceAs (Decidable (_ ∨ _))

variable {d : Draft} {escaper : Escaper}

theorem insertStatement_of_rows_eq_nil (none : d.rows = []) : d.insertStatement escaper = [] := by
  unfold insertStatement
  rw [none]
  split <;> rfl

theorem updateStatement_of_entries_eq_nil {r : Row} (none : r.entries = []) :
    d.updateStatement escaper r = [] := by
  unfold updateStatement
  rw [if_pos (by simp [Row.isEmpty, none])]

/-- A draft that says too little has no statement, by cases on what it lacks. -/
theorem SaysTooLittle.statement_eq_nil (little : d.SaysTooLittle) : d.statement escaper = [] := by
  unfold statement
  split
  case isTrue => rfl
  case isFalse declared =>
    rcases little with action | undeclared | ⟨adds, none⟩ | ⟨changes, none⟩
    · rw [action]
    · exact absurd (by simp [undeclared]) declared
    · have inserts : d.insertStatement escaper = [] := insertStatement_of_rows_eq_nil none
      rcases adds with action | action
      · rw [action]
        exact inserts
      · rw [action]
        dsimp only
        have changes : d.updateStatement escaper (d.rows.head?.getD .empty) = [] :=
          updateStatement_of_entries_eq_nil (by rw [none]; rfl)
        rw [upsertStatement, inserts, changes, ite_self]
    · rw [changes]
      exact updateStatement_of_entries_eq_nil none

/-- With a declared table, the list of tables has a text: an item starts with a table or a join. -/
theorem TablesAreKnown.fill_fromList_ne_empty (tables : d.TablesAreKnown)
    (declared : d.tables ≠ []) : d.fromList.fill d.scope.qualifierOf ≠ "" := by
  rcases List.exists_mem_of_ne_nil _ declared with ⟨table, member⟩
  -- Any declared table will do: either an item is headed by it, or a join of an item brings it in.
  have some : ∃ item ∈ FromItem.ofDeclared d.tables d.joins,
      (d.scope.fromItem item).fill d.scope.qualifierOf ≠ "" := by
    rcases FromItem.mem_heads_or_brought d.tables d.joins member with
      isHead | ⟨item, listed, j, inside, brings⟩
    · rcases List.mem_map.1 isHead with ⟨item, listed, head⟩
      have written := Scope.fill_introduction_ne_empty (s := d.scope) (tables.known table member)
        (tables.named table member)
      exact ⟨item, listed, Fragment.fill_separated_ne_empty (by simp [head]) written⟩
    · have parts := List.mem_append_right (item.head.map d.scope.introduction).toList
        (List.mem_map_of_mem (f := d.scope.join) inside)
      exact ⟨item, listed, Fragment.fill_separated_ne_empty parts (Scope.fill_join_ne_empty brings)⟩
  rcases some with ⟨item, listed, written⟩
  exact Fragment.fill_joined_ne_empty (List.mem_map_of_mem listed) written

/-- The select list is a star or has columns with texts. -/
theorem ListsAreSound.fill_selectList_ne_empty (lists : d.ListsAreSound) :
    d.selectList.fill d.scope.qualifierOf ≠ "" := by
  unfold selectList
  split
  case isTrue => simp [Piece.fill]
  case isFalse named =>
    rcases List.exists_mem_of_ne_nil d.columns (by simpa using named) with ⟨c, member⟩
    have written := d.scope.fill_column_ne_empty (lists.isWritten_of_mem (.inl rfl) member)
    exact Fragment.fill_joined_ne_empty (List.mem_map_of_mem member) written

/-- Where a table is declared there is one that rows can be added to. -/
theorem exists_primary? (declared : d.tables ≠ []) :
    ∃ table ∈ d.tables, d.primary? = some table := by
  rcases List.exists_cons_of_ne_nil declared with ⟨table, others, parts⟩
  exact ⟨table, by simp [parts], by simp [primary?, parts]⟩

/-- The whole text of an insertion that has rows to add.  A table without a name is left out
together with the space behind it. -/
theorem fill_insertStatement_of_rows (escaper : Escaper) (qualifierOf : Nat → String)
    {table : String} (primary : d.primary? = some table) (rows : d.rows ≠ [])
    (columns : d.insertColumns ≠ []) :
    (d.insertStatement escaper).fill qualifierOf =
      "INSERT INTO " ++ (if table = "" then "" else table ++ " ") ++
        "(" ++ ", ".intercalate d.insertColumns ++ ") VALUES " ++
        ", ".intercalate (d.rows.map (tuple escaper d.insertColumns)) := by
  have tuples : ", ".intercalate (d.rows.map (tuple escaper d.insertColumns)) ≠ "" := by
    rcases List.exists_mem_of_ne_nil _ rows with ⟨r, member⟩
    exact Text.intercalate_ne_empty (List.mem_map_of_mem member) (by simp [tuple])
  unfold insertStatement
  rw [primary, ← String.toList_inj]
  dsimp only
  rw [if_neg (by simp [rows, columns])]
  by_cases blank : table = "" <;>
    simp [Fragment.joined, Fragment.separated, Fragment.clause, Fragment.isBlank, Piece.fill,
      blank, tuples]

/-- The text of an insertion, part by part. -/
theorem fill_insertStatement (escaper : Escaper) (qualifierOf : Nat → String) {table : String}
    (primary : d.primary? = some table) (named : table ≠ "") (rows : d.rows ≠ [])
    (columns : d.insertColumns ≠ []) :
    (d.insertStatement escaper).fill qualifierOf =
      "INSERT INTO " ++ table ++ " (" ++ ", ".intercalate d.insertColumns ++ ") VALUES " ++
        ", ".intercalate (d.rows.map (tuple escaper d.insertColumns)) := by
  rw [fill_insertStatement_of_rows escaper qualifierOf primary rows columns, if_neg named,
    ← String.toList_inj]
  simp

/-! ## How statements start -/

/-- The verb that the statement starts with. -/
def verb (d : Draft) : String :=
  match d.action with
  | none => ""
  | some .select => "SELECT"
  | some .insert => "INSERT INTO"
  | some .upsert => if d.isOnRows then "UPDATE" else "INSERT INTO"
  | some .update => "UPDATE"
  | some .delete => "DELETE FROM"
  | some .truncate => "TRUNCATE"

/-- What a selection selects from its tables.  Other statements have nothing between the verb and
the tables. -/
def selection (d : Draft) : String :=
  if d.action = some .select then
    (if d.distinct then "DISTINCT " else "") ++ d.selectList.fill d.scope.qualifierOf ++ " FROM "
  else ""

/-- The tables that the statement is about: the list of them all, or the one that rows are added
to. -/
def target (d : Draft) : String :=
  if d.isOnRows then d.fromList.fill d.scope.qualifierOf
  else if d.action = some .truncate then ", ".intercalate d.tables
  else d.primary?.getD ""

/-- The text starts with the verb, the selection and the tables of the draft.  What comes next, if
anything does, is set off by a space. -/
def HasHead (d : Draft) (text : String) : Prop :=
  ∃ rest, text = d.verb ++ " " ++ d.selection ++ d.target ++ rest ∧
    (rest = "" ∨ Text.StartsWith " " rest)

/-- What stands before the list of tables is the verb and the selection. -/
theorem before_of_rowStatement? {row : RowStatement} (isRow : d.rowStatement? escaper = some row)
    (written : d.selectList.isBlank = false) :
    row.before.fill d.scope.qualifierOf ++ row.keyword ++ " " =
      d.verb ++ " " ++ d.selection := by
  have change {r : Row} (isChange : d.change? escaper r = some row) :
      row.before = [] ∧ row.keyword = "UPDATE" := by
    unfold change? at isChange
    split at isChange
    case isTrue => cases isChange
    case isFalse =>
      rw [← Option.some.inj isChange]
      exact ⟨rfl, rfl⟩
  unfold rowStatement? at isRow
  split at isRow
  case isTrue => cases isRow
  case isFalse =>
    split at isRow
    case h_1 action =>
      rw [← Option.some.inj isRow]
      have select : Fragment.isBlank [.text "SELECT"] = false := rfl
      have distinct : Fragment.isBlank [.text "DISTINCT"] = false := rfl
      have none : Fragment.isBlank [] = true := rfl
      rw [← String.toList_inj]
      cases isDistinct : d.distinct <;>
        simp [RowStatement.before, verb, selection, action, isDistinct, select, distinct, none,
          written, Piece.fill]
    case h_2 action =>
      rcases change isRow with ⟨before, keyword⟩
      simp [before, keyword, verb, selection, action]
    case h_3 action =>
      split at isRow
      case isTrue survives =>
        rcases change isRow with ⟨before, keyword⟩
        simp [before, keyword, verb, selection, isOnRows, action, survives]
      case isFalse => cases isRow
    case h_4 action =>
      rw [← Option.some.inj isRow]
      simp [RowStatement.before, verb, selection, action]
    case h_5 => cases isRow

/-- What a draft that does not say too little says. -/
theorem exists_action_of_enough (enough : ¬d.SaysTooLittle) :
    ∃ action, d.action = some action ∧ d.tables ≠ [] ∧
      (action = .insert ∨ action = .upsert → d.rows ≠ []) ∧
        (action = .update → d.assignments.entries ≠ []) := by
  simp only [SaysTooLittle, not_or, not_and] at enough
  rcases enough with ⟨acts, declared, rows, values⟩
  rcases Option.ne_none_iff_exists'.1 acts with ⟨action, isAction⟩
  refine ⟨action, isAction, declared, fun adds => rows ?_, fun changes => values ?_⟩
  · exact adds.imp (fun same => by rw [isAction, same]) (fun same => by rw [isAction, same])
  · rw [isAction, changes]

/-- Where rows are added there are columns of theirs. -/
theorem ListsAreSound.insertColumns_ne_nil (lists : d.ListsAreSound) (rows : d.rows ≠ []) :
    d.insertColumns ≠ [] := by
  rcases List.exists_mem_of_ne_nil _ rows with ⟨r, member⟩
  rcases lists.rows r member with ⟨some, known⟩
  rcases List.exists_mem_of_ne_nil _ some with ⟨column, inRow⟩
  exact List.ne_nil_of_mem (known column inRow)

theorem exists_change?_of_values {r : Row} (values : r.entries ≠ []) :
    ∃ row, d.change? escaper r = some row := by
  unfold change?
  rw [if_neg (by simpa [Row.isEmpty] using values)]
  exact ⟨_, rfl⟩

/-- A draft that says enough and is on rows has a statement on rows. -/
theorem exists_rowStatement?_of_enough (lists : d.ListsAreSound) (enough : ¬d.SaysTooLittle)
    (onRows : d.isOnRows = true) : ∃ row, d.rowStatement? escaper = some row := by
  rcases exists_action_of_enough enough with ⟨action, isAction, declared, rows, values⟩
  unfold isOnRows at onRows
  unfold rowStatement?
  rw [if_neg (by simpa using declared)]
  rw [isAction] at onRows ⊢
  cases action with
  | select => exact ⟨_, rfl⟩
  | update => exact exists_change?_of_values (values rfl)
  | delete => exact ⟨_, rfl⟩
  | upsert =>
    dsimp only at onRows ⊢
    rw [if_pos onRows]
    apply exists_change?_of_values
    rcases List.exists_cons_of_ne_nil (rows (.inr rfl)) with ⟨r, others, parts⟩
    have inRow := (lists.rows r (by simp [parts])).1
    simpa [parts, Row.columns] using inRow
  | insert => cases onRows
  | truncate => cases onRows

theorem verb_ne_empty {action : Action} (isAction : d.action = some action) : d.verb ≠ "" := by
  unfold verb
  rw [isAction]
  cases action with
  | upsert =>
    dsimp only
    split <;> simp
  | _ => simp

/-- The target names a table. -/
theorem target_ne_empty (tables : d.TablesAreKnown) (declared : d.tables ≠ []) :
    d.target ≠ "" := by
  rcases exists_primary? declared with ⟨table, member, primary⟩
  unfold target
  split
  case isTrue => exact tables.fill_fromList_ne_empty declared
  case isFalse =>
    split
    case isTrue => exact Text.intercalate_ne_empty member (tables.named table member)
    case isFalse => simpa [primary] using tables.named table member

/-- A statement on rows starts with its verb and its target. -/
theorem hasHead_of_isOnRows (tables : d.TablesAreKnown) (lists : d.ListsAreSound)
    (enough : ¬d.SaysTooLittle) (onRows : d.isOnRows = true) :
    d.HasHead (d.compile escaper).sql := by
  have isStatement : ∃ row, d.rowStatement? escaper = some row :=
    exists_rowStatement?_of_enough lists enough onRows
  rcases isStatement with ⟨row, isRow⟩
  rcases exists_action_of_enough enough with ⟨-, -, declared, -, -⟩
  have selected := Fragment.isBlank_of_fill_ne_empty lists.fill_selectList_ne_empty
  have listed := Fragment.isBlank_of_fill_ne_empty (tables.fill_fromList_ne_empty declared)
  have text := row.fill_write d.scope.qualifierOf listed
    (d.predicates escaper (row.others d.fromList))
  rw [← statement_of_rowStatement? isRow, before_of_rowStatement? isRow selected] at text
  have isTarget : d.target = d.fromList.fill d.scope.qualifierOf := by rw [target, if_pos onRows]
  refine ⟨(row.behind (d.predicates escaper (row.others d.fromList))).fill d.scope.qualifierOf, ?_,
    row.fill_behind _ _⟩
  rw [isTarget, ← text]
  rfl

/-- A draft that adds rows, because it is an insertion or because no condition survives, has the
statement of an insertion. -/
theorem statement_of_not_isOnRows (declared : d.tables ≠ []) (onRows : d.isOnRows = false)
    (inserts : d.action = some .insert ∨ d.action = some .upsert) :
    d.statement escaper = d.insertStatement escaper := by
  unfold statement
  rw [if_neg (by simpa using declared)]
  rcases inserts with action | action
  · rw [action]
  · rw [action]
    simp only [isOnRows, action] at onRows
    dsimp only
    rw [upsertStatement, isEmpty_whereGroups, onRows, if_pos (by rfl)]

/-- An insertion starts with its verb and the primary table. -/
theorem hasHead_of_insertStatement (tables : d.TablesAreKnown) (lists : d.ListsAreSound)
    (declared : d.tables ≠ []) (rows : d.rows ≠ []) (onRows : d.isOnRows = false)
    (inserts : d.action = some .insert ∨ d.action = some .upsert) :
    d.HasHead (d.compile escaper).sql := by
  rcases exists_primary? declared with ⟨table, member, primary⟩
  have text := fill_insertStatement escaper d.scope.qualifierOf primary
    (tables.named table member) rows (lists.insertColumns_ne_nil rows)
  have verb : d.verb = "INSERT INTO" := by
    rcases inserts with action | action <;> simp [verb, action, onRows]
  have selection : d.selection = "" := by
    rcases inserts with action | action <;> simp [selection, action]
  have isTarget : d.target = table := by
    rcases inserts with action | action <;> simp [target, action, onRows, primary]
  refine ⟨" " ++ ("(" ++ ", ".intercalate d.insertColumns ++ ") VALUES " ++
    ", ".intercalate (d.rows.map (tuple escaper d.insertColumns))), ?_, .inr ⟨_, rfl⟩⟩
  change (d.statement escaper).fill d.scope.qualifierOf = _
  rw [statement_of_not_isOnRows declared onRows inserts, text, verb, selection, isTarget,
    ← String.toList_inj]
  simp

/-- A truncation starts with its verb and all declared tables. -/
theorem hasHead_of_truncate (tables : d.TablesAreKnown) (declared : d.tables ≠ [])
    (truncates : d.action = some .truncate) : d.HasHead (d.compile escaper).sql := by
  rcases List.exists_mem_of_ne_nil _ declared with ⟨table, member⟩
  have listed : ", ".intercalate d.tables ≠ "" :=
    Text.intercalate_ne_empty member (tables.named table member)
  have onRows : d.isOnRows = false := by simp [isOnRows, truncates]
  refine ⟨"", ?_, .inl rfl⟩
  change (d.statement escaper).fill d.scope.qualifierOf = _
  unfold statement
  rw [if_neg (by simpa using declared), truncates, ← String.toList_inj]
  simp [truncateStatement, Fragment.clause, Fragment.isBlank, Piece.fill, listed, verb, selection,
    target, truncates, onRows]

/-- A draft that says enough has a statement that starts with its verb and its tables. -/
theorem hasHead_compile (tables : d.TablesAreKnown) (lists : d.ListsAreSound)
    (enough : ¬d.SaysTooLittle) : d.HasHead (d.compile escaper).sql := by
  rcases exists_action_of_enough enough with ⟨action, isAction, declared, rows, -⟩
  by_cases onRows : d.isOnRows = true
  · exact hasHead_of_isOnRows tables lists enough onRows
  · rw [Bool.not_eq_true] at onRows
    cases action with
    | insert =>
      have some := rows (.inl rfl)
      exact hasHead_of_insertStatement tables lists declared some onRows (.inl isAction)
    | upsert =>
      have some := rows (.inr rfl)
      exact hasHead_of_insertStatement tables lists declared some onRows (.inr isAction)
    | truncate => exact hasHead_of_truncate tables declared isAction
    | _ => simp [isOnRows, isAction] at onRows

/-- The text is a statement of the draft that starts as it should: no part of its start is empty. -/
structure IsHeaded (d : Draft) (text : String) : Prop where
  head : d.HasHead text
  verb : d.verb ≠ ""
  selectList : d.selectList.fill d.scope.qualifierOf ≠ ""
  target : d.target ≠ ""

theorem isHeaded_compile (tables : d.TablesAreKnown) (lists : d.ListsAreSound)
    (enough : ¬d.SaysTooLittle) : d.IsHeaded (d.compile escaper).sql := by
  rcases exists_action_of_enough enough with ⟨action, isAction, declared, -, -⟩
  constructor
  case head => exact hasHead_compile tables lists enough
  case verb => exact verb_ne_empty isAction
  case selectList => exact lists.fill_selectList_ne_empty
  case target => exact target_ne_empty tables declared

/-- Nothing is compiled if and only if the draft says too little. -/
theorem compile_eq_empty_iff (tables : d.TablesAreKnown) (lists : d.ListsAreSound) :
    (d.compile escaper).sql = "" ↔ d.SaysTooLittle := by
  constructor
  · intro empty
    by_contra enough
    have head : d.HasHead (d.compile escaper).sql := hasHead_compile tables lists enough
    rcases head with ⟨rest, text, -⟩
    rw [empty] at text
    simp at text
  · intro little
    change (d.statement escaper).fill d.scope.qualifierOf = ""
    rw [little.statement_eq_nil]
    rfl

end Draft

/-! ## Sessions -/

/-- The only error of reading the statement is that it is empty. -/
theorem Builder.sql?_eq_error_iff (b : Builder) :
    b.sql? = .error .emptyStatement ↔ b.compilation.sql = "" := by
  unfold sql?
  split
  case isTrue empty => simpa using empty
  case isFalse written => simpa using written

namespace Session

/-- After any calls on a new builder, and whatever the escaper is, the statement is empty exactly if
the draft says too little, and asking for it fails exactly then.  In all other cases it starts with
the verb of its action and the tables that it is about, and nothing in this is empty. -/
theorem isHeaded_runUnder (mode : AliasMode) (escaper : Escaper)
    (calls : List (AliasMode × Call)) :
    ∀ b ∈ (runUnder ⟨{ draft := .empty mode, escaper }, []⟩ calls).builders,
      b.compilation = b.draft.compile b.escaper ∧
        (b.sql? = .error .emptyStatement ↔ b.draft.SaysTooLittle) ∧
          ∀ escaper', ((b.draft.compile escaper').sql = "" ↔ b.draft.SaysTooLittle) ∧
            (¬b.draft.SaysTooLittle → b.draft.IsHeaded (b.draft.compile escaper').sql) := by
  intro b member
  have tables := tablesAreKnown_runUnder mode escaper calls b member
  have lists := listsAreSound_runUnder mode escaper calls b member
  have compilation := (answers_runUnder (.empty mode) escaper calls b member).1.compilation_eq
  refine ⟨compilation, ?_, fun escaper' => ⟨?_, fun enough => ?_⟩⟩
  · rw [b.sql?_eq_error_iff, compilation, Draft.compile_eq_empty_iff tables lists]
  · exact Draft.compile_eq_empty_iff tables lists
  · exact Draft.isHeaded_compile tables lists enough

/-- Calls that save a draft of clauses alone, and then make it an upsert on one of two tables that
are joined to each other. -/
def headless : List (AliasMode × Call) :=
  [(.auto, .edit (.limit 3)), (.auto, .edit (.addWhere {} [.raw "users.id = 1"])),
    (.auto, .edit (.setAction .upsert)), (.auto, .edit (.declareTables [" users, "])),
    (.auto, .save), (.auto, .edit (.join .left "posts" "users" [])),
    (.auto, .edit (.upsert (.ofList [("name", .text "x")])))]

theorem isHeaded_runUnder_headless :
    let s := runUnder ⟨{ draft := .empty .auto, escaper := .mysql }, []⟩ headless
    (∃ b ∈ s.saved, b.draft.SaysTooLittle ∧ b.sql? = .error .emptyStatement) ∧
      ¬s.current.draft.SaysTooLittle ∧
        s.current.draft.IsHeaded (s.current.draft.compile .mysql).sql ∧
          (s.current.draft.compile .mysql).sql ≠ "" := by
  intro s
  have kept : (s.saved.head?.any fun b => b.draft.SaysTooLittle) = true := by decide +kernel
  have enough : ¬s.current.draft.SaysTooLittle := by decide +kernel
  rcases (Option.any_eq_true _ _).1 kept with ⟨b, isFirst, little⟩
  have member : b ∈ s.saved := List.mem_of_head? isFirst
  rw [decide_eq_true_eq] at little
  have fails := isHeaded_runUnder .auto .mysql headless b (List.mem_cons_of_mem _ member)
  have starts := isHeaded_runUnder .auto .mysql headless s.current (current_mem_builders s)
  refine ⟨⟨b, member, little, fails.2.1.2 little⟩, enough, (starts.2.2 .mysql).2 enough, ?_⟩
  exact fun empty => enough ((starts.2.2 .mysql).1.1 empty)

end Session

end SqlQuery
