import Mathlib.Data.List.Perm.Basic
import SqlQuery.Proofs.DraftTexts
import SqlQuery.Proofs.StatementVerb

/-!
Tuples of values that are added under a list of columns.

Each tuple becomes a row with its values under the columns that it reaches
(`Row.entries_ofList_zip`), and the rows are printed under all columns.  So a value stands where it
stood in its tuple, and a default in the place of each value that is missing (`Draft.tuple_zip`).  A
tuple without values becomes a row without columns, which a draft does not take: of the tuples
given, those become rows that have a value (`Builder.draft_insertTuples`).
-/

namespace SqlQuery

namespace Text

/-- Texts with a separator between every two, and one more behind the last, are the texts with a
separator behind each. -/
theorem toList_intercalate_append (separator : String) {texts : List String} (some : texts ≠ []) :
    (separator.intercalate texts ++ separator).toList =
      texts.flatMap fun text => (text ++ separator).toList := by
  induction texts with
  | nil => exact absurd rfl some
  | cons text texts ih =>
    cases texts with
    | nil => simp
    | cons next texts =>
      have rest := ih (List.cons_ne_nil next texts)
      rw [List.flatMap_cons, ← rest, String.intercalate_cons_cons]
      simp

/-- To leave out a text, and not all of them, leaves out a separator. -/
theorem length_intercalate_filter_lt {α : Type} {separator : String} {f : α → String}
    {keep : α → Bool} {xs : List α} {x : α} (visible : separator ≠ "") (member : x ∈ xs)
    (lost : keep x = false) (kept : xs.filter keep ≠ []) :
    (separator.intercalate ((xs.filter keep).map f)).length <
      (separator.intercalate (xs.map f)).length := by
  have all : xs.map f ≠ [] := List.ne_nil_of_mem (List.mem_map_of_mem member)
  have some : (xs.filter keep).map f ≠ [] := fun none => kept (List.map_eq_nil_iff.1 none)
  have whole := congrArg List.length (toList_intercalate_append separator all)
  have part := congrArg List.length (toList_intercalate_append separator some)
  have parts := ((List.filter_append_perm keep xs).flatMap_right
    fun x => (f x ++ separator).toList).length_eq
  have leftOut : 0 < ((xs.filter (!keep ·)).flatMap fun x => (f x ++ separator).toList).length := by
    obtain ⟨c, isChar⟩ := List.exists_mem_of_ne_nil separator.toList (by simpa using visible)
    have isLost : x ∈ xs.filter (!keep ·) := List.mem_filter.2 ⟨member, by simp [lost]⟩
    have inText : c ∈ (f x ++ separator).toList := by simp [isChar]
    exact List.length_pos_of_mem (List.mem_flatMap.2 ⟨x, isLost, inText⟩)
  rw [List.flatMap_append, List.length_append] at parts
  rw [List.flatMap_map, String.length_toList, String.length_append] at whole part
  omega

end Text

/-! ## Rows of tuples -/

namespace Row

/-- The columns that a tuple reaches are the first ones. -/
theorem map_fst_zip_prefix_columns (columns : List String) (values : List Value) :
    (columns.zip values).map Prod.fst <+: columns := by
  induction columns generalizing values with
  | nil => exact List.prefix_refl []
  | cons c columns ih =>
    cases values with
    | nil => exact List.nil_prefix
    | cons v values => exact List.cons_prefix_cons.2 ⟨rfl, ih values⟩

/-- Under columns that are all different, a tuple is a row as it stands. -/
theorem entries_ofList_zip {columns : List String} (distinct : columns.Nodup)
    (values : List Value) : (ofList (columns.zip values)).entries = columns.zip values :=
  entries_setAll_of_nodup (r := .empty)
    (distinct.sublist (map_fst_zip_prefix_columns columns values).sublist)

theorem map_find?_zip {columns : List String} (distinct : columns.Nodup) (values : List Value) :
    (columns.map fun column => ((columns.zip values).find? (·.1 = column)).map Prod.snd) =
      (List.range columns.length).map (values[·]?) := by
  induction columns generalizing values with
  | nil => rfl
  | cons c columns ih =>
    obtain ⟨new, distinct⟩ := List.nodup_cons.1 distinct
    rw [List.length_cons, List.range_succ_eq_map, List.map_cons, List.map_cons, List.map_map]
    cases values with
    | nil => simp [Function.comp_def]
    | cons v values =>
      have later : ∀ other ∈ columns,
          (((c :: columns).zip (v :: values)).find? (·.1 = other)).map Prod.snd =
            ((columns.zip values).find? (·.1 = other)).map Prod.snd := by
        intro other member
        have different : c ≠ other := fun same => new (same ▸ member)
        simp [different]
      rw [List.map_congr_left later, ih distinct]
      simp [Function.comp_def]

/-- Under each of its columns the row has the value in the same place of the tuple. -/
theorem map_get?_ofList_zip {columns : List String} (distinct : columns.Nodup)
    (values : List Value) :
    columns.map (ofList (columns.zip values)).get? =
      (List.range columns.length).map (values[·]?) := by
  change columns.map (fun column =>
    ((ofList (columns.zip values)).entries.find? (·.1 = column)).map Prod.snd) = _
  rw [entries_ofList_zip distinct]
  exact map_find?_zip distinct values

end Row

/-! ## Drafts of tuples -/

namespace Draft

theorem foldl_addNew_of_nodup {texts added : List String} (distinct : (texts ++ added).Nodup) :
    added.foldl addNew texts = texts ++ added := by
  induction added generalizing texts with
  | nil => rw [List.append_nil, List.foldl_nil]
  | cons text added ih =>
    have new : text ∉ texts := fun old =>
      (List.nodup_append.1 distinct).2.2 text old text List.mem_cons_self rfl
    rw [List.foldl_cons, addNew_of_not_mem new, ih (by simpa using distinct), ← List.append_cons]

theorem foldl_addNew_of_subset {texts added : List String} (known : added ⊆ texts) :
    added.foldl addNew texts = texts := by
  induction added with
  | nil => rfl
  | cons text added ih =>
    rw [List.foldl_cons, addNew_of_mem (known List.mem_cons_self),
      ih fun other member => known (List.mem_cons_of_mem text member)]

/-- Rows whose columns are known are added as they are, but for those that have none. -/
theorem foldl_addRow_of_known {d : Draft} {rows : List Row}
    (known : ∀ r ∈ rows, r.columns ⊆ d.insertColumns) :
    rows.foldl addRow d = { d with rows := d.rows ++ rows.filter (!·.isEmpty) } := by
  induction rows generalizing d with
  | nil => simp
  | cons r rows ih =>
    have others := fun other member => known other (List.mem_cons_of_mem r member)
    rw [List.foldl_cons, addRow]
    split
    case isTrue empty => rw [ih others, List.filter_cons_of_neg (by simp [empty])]
    case isFalse present =>
      rw [foldl_addNew_of_subset (known r List.mem_cons_self),
        ih (d := { d with rows := d.rows ++ [r] }) others,
        List.filter_cons_of_pos (by simpa using present)]
      simp

/-! ## The text of an insertion -/

/-- The items of a tuple under a number of columns: its values, as far as there are columns, and the
default for every column beyond them. -/
def tupleItems (escaper : Escaper) (columns : Nat) (values : List Value) : List String :=
  (List.range columns).map fun place =>
    (values[place]?.map (·.assigned escaper)).getD "DEFAULT"

/-- A tuple under a number of columns, with all its items in parentheses. -/
def tupleText (escaper : Escaper) (columns : Nat) (values : List Value) : String :=
  "(" ++ ", ".intercalate (tupleItems escaper columns values) ++ ")"

/-- The statement that adds the given tuples to a table.  To add none takes no statement. -/
def insertionText (escaper : Escaper) (table : String) (columns : List String)
    (tuples : List (List Value)) : String :=
  if tuples.isEmpty then ""
  else
    "INSERT INTO " ++ (if table = "" then "" else table ++ " ") ++
      "(" ++ ", ".intercalate columns ++ ") VALUES " ++
        ", ".intercalate (tuples.map (tupleText escaper columns.length))

/-- The row of a tuple is printed with the items of the tuple. -/
theorem tuple_zip (escaper : Escaper) {columns : List String} (distinct : columns.Nodup)
    (values : List Value) :
    tuple escaper columns (.ofList (columns.zip values)) =
      tupleText escaper columns.length values := by
  have item : itemText escaper (.ofList (columns.zip values)) = fun column =>
      (((Row.ofList (columns.zip values)).get? column).map (·.assigned escaper)).getD
        "DEFAULT" := by
    funext column
    cases found : (Row.ofList (columns.zip values)).get? column <;> simp [itemText, found]
  have items := congrArg (List.map fun v? : Option Value =>
    (v?.map (·.assigned escaper)).getD "DEFAULT") (Row.map_get?_ofList_zip distinct values)
  rw [List.map_map, List.map_map] at items
  rw [tuple_eq, item]
  exact congrArg (fun texts => "(" ++ ", ".intercalate texts ++ ")") items

variable {d : Draft} {escaper : Escaper} {table : String} {columns : List String}
  {tuples : List (List Value)}

/-- A draft that has just the rows of the given tuples prints their insertion. -/
theorem fill_insertStatement_zip (qualifierOf : Nat → String) (primary : d.primary? = some table)
    (distinct : columns.Nodup) (named : columns ≠ []) (columnsOf : d.insertColumns = columns)
    (rowsOf : d.rows = tuples.map fun values => .ofList (columns.zip values)) :
    (d.insertStatement escaper).fill qualifierOf = insertionText escaper table columns tuples := by
  by_cases none : tuples = []
  case pos =>
    rw [insertStatement_of_rows_eq_nil (by rw [rowsOf, none, List.map_nil]), insertionText,
      if_pos (by rw [none, List.isEmpty_nil])]
    rfl
  case neg =>
    have printed : d.rows.map (tuple escaper columns) =
        tuples.map (tupleText escaper columns.length) := by
      rw [rowsOf, List.map_map]
      exact List.map_congr_left fun values _ => tuple_zip escaper distinct values
    have rows : d.rows ≠ [] := by simpa [rowsOf] using none
    have text := fill_insertStatement_of_rows escaper qualifierOf primary rows
      (by rw [columnsOf]; exact named)
    rw [columnsOf, printed] at text
    rw [insertionText, if_neg (by simpa using none)]
    exact text

/-- To leave out tuples that do not have values shortens the statement, if there are any. -/
theorem insertionText_filter_eq_iff :
    insertionText escaper table columns (tuples.filter (!·.isEmpty)) =
      insertionText escaper table columns tuples ↔ [] ∉ tuples := by
  constructor
  case mpr =>
    intro valued
    have all : ∀ values ∈ tuples, (!values.isEmpty) = true := by
      intro values member
      cases values with
      | nil => exact absurd member valued
      | cons => rfl
    rw [List.filter_eq_self.2 all]
  case mp =>
    intro same member
    have full := List.ne_nil_of_mem member
    -- Without tuples there is no text at all, and otherwise fewer tuples make a shorter one.
    by_cases none : tuples.filter (!·.isEmpty) = []
    case pos =>
      have text := congrArg String.toList same
      simp [insertionText, none, full] at text
    case neg =>
      have visible : ", " ≠ "" := by decide
      have shorter := Text.length_intercalate_filter_lt (f := tupleText escaper columns.length)
        visible member rfl none
      have length := congrArg String.length same
      simp only [insertionText, List.isEmpty_iff, none, full, if_false, String.length_append]
        at length
      omega

end Draft

namespace Builder

variable {b : Builder} {table : String} {columns : List String} {tuples : List (List Value)}

/-- On a draft without rows, the rows of the tuples are those that have a value. -/
theorem draft_insertTuples (tuples : List (List Value)) (noRows : b.draft.rows = [])
    (noColumns : b.draft.insertColumns = []) (distinct : columns.Nodup) (named : columns ≠ []) :
    (b.insertTuples columns tuples).draft =
      { b.draft with
        action := some .insert
        insertColumns := columns
        rows := (tuples.filter (!·.isEmpty)).map fun values =>
          .ofList (columns.zip values) } := by
  have empty : ∀ values : List Value,
      (Row.ofList (columns.zip values)).isEmpty = values.isEmpty := by
    intro values
    rw [Row.isEmpty, Row.entries_ofList_zip distinct]
    cases columns with
    | nil => exact absurd rfl named
    | cons c columns => cases values <;> rfl
  have declared : columns.foldl Draft.addNew b.draft.insertColumns = columns := by
    rw [noColumns, Draft.foldl_addNew_of_nodup (by simpa using distinct), List.nil_append]
  unfold insertTuples insertRows
  dsimp only [edit]
  rw [declared, Draft.foldl_addRow_of_known, noRows, List.nil_append, List.filter_map]
  · simp [Function.comp_def, empty]
  · intro r listed
    rcases List.mem_map.1 listed with ⟨values, _, rfl⟩
    rw [Row.columns, Row.entries_ofList_zip distinct]
    exact (Row.map_fst_zip_prefix_columns columns values).subset

/-- On a draft without rows, tuples of values are printed in order, each with as many items as there
are columns: its values in their places, the default where they end, and nothing of the values
beyond the columns.  But a tuple without values is not printed, so the text has all the tuples that
were given exactly if none is empty. -/
theorem sql_insertTuples (primary : b.draft.primary? = some table) (noRows : b.draft.rows = [])
    (noColumns : b.draft.insertColumns = []) (distinct : columns.Nodup) (named : columns ≠ []) :
    (b.insertTuples columns tuples).compilation.sql =
        Draft.insertionText b.escaper table columns (tuples.filter (!·.isEmpty)) ∧
      ((b.insertTuples columns tuples).compilation.sql =
          Draft.insertionText b.escaper table columns tuples ↔ [] ∉ tuples) := by
  have draft := draft_insertTuples tuples noRows noColumns distinct named
  have declared : b.draft.tables.isEmpty = false := by
    cases tables : b.draft.tables with
    | nil => simp [Draft.primary?, tables] at primary
    | cons => rfl
  have text : (b.insertTuples columns tuples).compilation.sql =
      Draft.insertionText b.escaper table columns (tuples.filter (!·.isEmpty)) := by
    change ((b.insertTuples columns tuples).draft.statement b.escaper).fill
      (b.insertTuples columns tuples).draft.scope.qualifierOf = _
    rw [draft, Draft.statement, if_neg (by simp [declared])]
    exact Draft.fill_insertStatement_zip _ primary distinct named rfl rfl
  exact ⟨text, text ▸ Draft.insertionText_filter_eq_iff⟩

/-- A tuple that is too short, one that fits and one that is too long, under two columns. -/
theorem sql_insertTuples_ragged :
    let b := (Builder.empty .auto).declareTables ["users", "posts"]
    let columns := ["name", "age"]
    let tuples : List (List Value) :=
      [[.text "a"], [.text "b", .integer 2], [.null, .raw "NOW()", .text "x"]]
    b.draft.primary? = some "users" ∧ b.draft.rows = [] ∧ b.draft.insertColumns = [] ∧
      columns.Nodup ∧ columns ≠ [] ∧ [] ∉ tuples ∧
      (b.insertTuples columns tuples).compilation.sql =
        "INSERT INTO users (name, age) VALUES ('a', DEFAULT), ('b', '2'), (NULL, NOW())" := by
  intro b columns tuples
  have primary : b.draft.primary? = some "users" := by decide +kernel
  have noRows : b.draft.rows = [] := by decide +kernel
  have noColumns : b.draft.insertColumns = [] := by decide +kernel
  have distinct : columns.Nodup := by decide +kernel
  have named : columns ≠ [] := by decide +kernel
  have valued : [] ∉ tuples := by decide +kernel
  have text := (sql_insertTuples primary noRows noColumns distinct named).2.2 valued
  have printed : Draft.insertionText b.escaper "users" columns tuples =
      "INSERT INTO users (name, age) VALUES ('a', DEFAULT), ('b', '2'), (NULL, NOW())" := by
    decide +kernel
  exact ⟨primary, noRows, noColumns, distinct, named, valued, text.trans printed⟩

/-- The tuple without values should be printed as `(DEFAULT, DEFAULT)` and is not printed. -/
theorem sql_insertTuples_ne_insertionText :
    let b := (Builder.empty .auto).declareTables ["users"]
    let columns := ["name", "age"]
    let tuples : List (List Value) := [[.text "a", .text "1"], [], [.text "c"]]
    b.draft.primary? = some "users" ∧ b.draft.rows = [] ∧ b.draft.insertColumns = [] ∧
      Draft.insertionText b.escaper "users" columns tuples =
        "INSERT INTO users (name, age) VALUES ('a', '1'), (DEFAULT, DEFAULT), ('c', DEFAULT)" ∧
      (b.insertTuples columns tuples).compilation.sql =
        "INSERT INTO users (name, age) VALUES ('a', '1'), ('c', DEFAULT)" := by
  decide +kernel

end Builder

end SqlQuery
