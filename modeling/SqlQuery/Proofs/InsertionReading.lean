import SqlQuery.Proofs.DraftTexts
import SqlQuery.Proofs.StatementVerb
import SqlQuery.Proofs.TextReader

/-!
The rows that a statement adds.

Rows come in with columns of their own, in orders of their own, and are printed as tuples under one
list of columns.  `Text.readInsertion?` reads an insertion as a database does, and
`Session.readInsertion?_runUnder` shows that it gets back what the draft holds: the table, the
columns, and one tuple for each row, with each value of the row at the one place of its column.
-/

namespace SqlQuery

/-! ## Reading an insertion -/

/-- What stands in a tuple under a column. -/
inductive Item
  | default
  | null
  | string (s : String)
deriving DecidableEq, Repr

/-- What a statement adds to a table. -/
structure Insertion where
  table : String
  columns : List String
  tuples : List (List Item)
deriving DecidableEq, Repr

namespace Text

/-- A name has any characters but quotes, commas and parentheses. -/
def isNamePart (c : Char) : Bool := !(c == '\x27' || c == ',' || c == '(' || c == ')')

/-- The text can be read as a name. -/
def IsName (s : String) : Prop := s ≠ "" ∧ ∀ c ∈ s.toList, isNamePart c = true

instance (s : String) : Decidable (IsName s) :=
  have := List.decidableBAll (fun c => isNamePart c = true) s.toList
  inferInstanceAs (Decidable (_ ∧ _))

/-- Reads a name. -/
def readName? (s : List Char) : Option (String × List Char) :=
  match s.takeWhile isNamePart with
  | [] => none
  | name => some (String.ofList name, s.dropWhile isNamePart)

/-- Reads the name of a table, which a space separates from a parenthesis.  The name may have spaces
of its own, so the separating one is the last. -/
def readTable? (s : List Char) : Option (String × List Char) :=
  let name := s.takeWhile isNamePart
  if name.getLast? = some ' ' then
    some (String.ofList name.dropLast, s.dropWhile isNamePart)
  else none

/-- Reads an item of a tuple. -/
def readItem? (s : List Char) : Option (Item × List Char) :=
  match s with
  | '\x27' :: s =>
    (readQuoted? ([unescape ·]) s).map fun (read, rest) => (.string (String.ofList read), rest)
  | s =>
    match s.dropPrefix? "NULL".toList with
    | some rest => some (.null, rest)
    | none => (s.dropPrefix? "DEFAULT".toList).map fun rest => (.default, rest)

/-- Reads a whole text as an insertion. -/
def readInsertion? (text : String) : Option Insertion := do
  let s ← text.toList.dropPrefix? "INSERT INTO ".toList
  let (table, s) ← readTable? s
  let (columns, s) ← readTuple? readName? s
  let s ← s.dropPrefix? " VALUES ".toList
  let (tuples, s) ← readList? (readTuple? readItem?) s
  if s.isEmpty then some ⟨table, columns, tuples⟩ else none

/-! ## Names -/

theorem dropPrefix?_append (s tail : List Char) : (s ++ tail).dropPrefix? s = some tail :=
  List.dropPrefix?_append_of_beq tail (beq_self_eq_true s)

theorem isNamePart_of_endsElement {c : Char} {tail : List Char} (ends : EndsElement (c :: tail)) :
    isNamePart c = false := by
  rcases ends c rfl with rfl | rfl <;> rfl

/-- A name is read up to what ends an element of a list. -/
theorem readName?_append {name : String} (isName : IsName name) {tail : List Char}
    (ends : EndsElement tail) : readName? (name.toList ++ tail) = some (name, tail) := by
  rcases isName with ⟨present, parts⟩
  have stops : tail.takeWhile isNamePart = [] ∧ tail.dropWhile isNamePart = tail := by
    cases tail with
    | nil => exact ⟨rfl, rfl⟩
    | cons c tail => simp [isNamePart_of_endsElement ends]
  have whole : name.toList ≠ [] := by simpa using present
  unfold readName?
  rw [List.takeWhile_append_of_pos parts, List.dropWhile_append_of_pos parts, stops.1, stops.2,
    List.append_nil]
  rcases List.exists_cons_of_ne_nil whole with ⟨c, rest, same⟩
  rw [same]
  change some (String.ofList (c :: rest), tail) = _
  rw [← same, String.ofList_toList]

/-- The table is read up to the space before the columns. -/
theorem readTable?_append {table : String} (isName : IsName table) (tail : List Char) :
    readTable? (table.toList ++ ' ' :: '(' :: tail) = some (table, '(' :: tail) := by
  have read :
      (table.toList ++ ' ' :: '(' :: tail).takeWhile isNamePart = table.toList ++ [' '] := by
    rw [List.takeWhile_append_of_pos isName.2]
    rfl
  have left : (table.toList ++ ' ' :: '(' :: tail).dropWhile isNamePart = '(' :: tail := by
    rw [List.dropWhile_append_of_pos isName.2]
    rfl
  unfold readTable?
  rw [read, left]
  simp

end Text

/-! ## Items -/

/-- What stands for a value in a tuple. -/
def Value.item (v : Value) : Item :=
  match v.shown? with
  | some shown => .string shown
  | none => .null

/-- What stands for the row under a column: its value there, or the default if it has none. -/
def Row.item (r : Row) (column : String) : Item :=
  match r.get? column with
  | some v => v.item
  | none => .default

/-- A row has the value of each of its entries under the column of it. -/
theorem Row.get?_of_mem {r : Row} {entry : String × Value} (member : entry ∈ r.entries) :
    r.get? entry.1 = some entry.2 := by
  rcases r with ⟨entries, distinct⟩
  induction entries with
  | nil => cases member
  | cons first entries ih =>
    rw [List.map_cons, List.nodup_cons] at distinct
    rcases List.mem_cons.1 member with rfl | later
    · simp [get?]
    · have other : first.1 ≠ entry.1 := fun same => distinct.1 (same ▸ List.mem_map_of_mem later)
      simpa [get?, other] using ih distinct.2 later

/-- No value of the row is an expression. -/
def Row.IsData (r : Row) : Prop := ∀ entry ∈ r.entries, entry.2.isExpression = false

instance (r : Row) : Decidable r.IsData :=
  inferInstanceAs (Decidable (∀ entry ∈ r.entries, entry.2.isExpression = false))

namespace Text

theorem readItem?_default (tail : List Char) :
    readItem? ("DEFAULT".toList ++ tail) = some (.default, tail) := by
  simp [readItem?, List.dropPrefix?]

theorem readItem?_null (tail : List Char) :
    readItem? ("NULL".toList ++ tail) = some (.null, tail) := by
  simp [readItem?, List.dropPrefix?]

/-- A string in quotes is read as the text it escapes, up to its closing quote. -/
theorem readItem?_quoted {escaped s : String} (escapes : Escapes escaped.toList s.toList)
    {tail : List Char} (ends : EndsElement tail) :
    readItem? (("'" ++ escaped ++ "'").toList ++ tail) = some (.string s, tail) := by
  have other : tail.head? ≠ some '\x27' := by
    intro isNext
    rcases ends '\x27' isNext with same | same <;> cases same
  have read := readQuoted?_of_escapes unescapes_unescape escapes other
  simp [readItem?, read]

/-- A value in a tuple is read back as what stands for it. -/
theorem readItem?_assigned {v : Value} (data : v.isExpression = false) {tail : List Char}
    (ends : EndsElement tail) :
    readItem? ((v.assigned .mysql).toList ++ tail) = some (v.item, tail) := by
  unfold Value.assigned Value.item
  cases shown : v.shown? with
  | none =>
    obtain rfl := Value.eq_null_of_shown?_eq_none data shown
    exact readItem?_null tail
  | some text =>
    rcases Value.exists_literal?_of_shown? shown with ⟨escaped, written, escapes⟩
    rw [written]
    exact readItem?_quoted escapes ends

/-- The items of a row are read back as what stands for it under each column. -/
theorem readsBack_itemText {r : Row} (data : r.IsData) (columns : List String) :
    ReadsBack readItem? (fun c => (Draft.itemText .mysql r c).toList) r.item columns := by
  intro c _ tail ends
  change readItem? ((Draft.itemText .mysql r c).toList ++ tail) = some (r.item c, tail)
  unfold Draft.itemText Row.item
  cases found : r.get? c with
  | none => exact readItem?_default tail
  | some v =>
    rcases Option.map_eq_some_iff.1 found with ⟨entry, isEntry, rfl⟩
    exact readItem?_assigned (data entry (List.mem_of_find?_eq_some isEntry)) ends

/-- The characters of a tuple are those of its items, in parentheses and with commas. -/
theorem toList_tuple (columns : List String) (r : Row) :
    (Draft.tuple .mysql columns r).toList =
      '(' :: [',', ' '].intercalate
        (columns.map fun c => (Draft.itemText .mysql r c).toList) ++ [')'] := by
  rw [Draft.tuple_eq]
  simp [List.map_map, Function.comp_def]

/-- Tuples are read back, whatever follows them, if no value is an expression. -/
theorem readsBack_tuple {rows : List Row} (data : ∀ r ∈ rows, r.IsData) {columns : List String}
    (some : columns ≠ []) :
    ReadsBack (readTuple? readItem?) (fun r => (Draft.tuple .mysql columns r).toList)
      (fun r => columns.map r.item) rows := by
  intro r member tail _
  have read := readTuple?_parenthesized (readsBack_itemText (data r member) columns) some tail
  simpa [toList_tuple] using read

theorem readsBack_toList {names : List String} (isName : ∀ name ∈ names, IsName name) :
    ReadsBack readName? String.toList id names :=
  fun name member _ ends => readName?_append (isName name member) ends

end Text

namespace Draft

variable {d : Draft}

/-- An insertion is read back as the table, the columns and the rows of the draft. -/
theorem readInsertion?_insertStatement {table : String} (primary : d.primary? = some table)
    (isName : Text.IsName table) (columnNames : ∀ c ∈ d.insertColumns, Text.IsName c)
    (rows : d.rows ≠ []) (columns : d.insertColumns ≠ []) (data : ∀ r ∈ d.rows, r.IsData)
    (qualifierOf : Nat → String) :
    Text.readInsertion? ((d.insertStatement .mysql).fill qualifierOf) =
      some ⟨table, d.insertColumns, d.rows.map fun r => d.insertColumns.map r.item⟩ := by
  have names := Text.readTuple?_parenthesized (Text.readsBack_toList columnNames) columns
  have ends : ∀ c ∈ ([] : List Char).head?, c = ')' := by simp
  have tuples := Text.readList?_intercalate (Text.readsBack_tuple data columns) rows ends
  have text : ((d.insertStatement .mysql).fill qualifierOf).toList =
      "INSERT INTO ".toList ++ (table.toList ++ ' ' :: '(' ::
        ([',', ' '].intercalate (d.insertColumns.map String.toList) ++ ')' ::
          (" VALUES ".toList ++ ([',', ' '].intercalate
            (d.rows.map fun r => (tuple .mysql d.insertColumns r).toList) ++ [])))) := by
    rw [fill_insertStatement .mysql qualifierOf primary isName.1 rows columns]
    simp [Function.comp_def]
  unfold Text.readInsertion?
  rw [text, Text.dropPrefix?_append]
  simp only [Option.bind_eq_bind, Option.bind_some, Text.readTable?_append isName]
  rw [← List.cons_append, names]
  simp only [Option.bind_some, Text.dropPrefix?_append, tuples, List.map_id]
  rfl

end Draft

/-! ## Sessions -/

namespace Session

/-- After any calls on a new builder, an insertion that is not empty is read back as its table, the
columns of its rows, and one tuple for each row, in their order, with one item under each column.
Every value of a row stands in the tuple of the row under its own column, and nowhere else. -/
theorem readInsertion?_runUnder (mode : AliasMode) (escaper : Escaper)
    (calls : List (AliasMode × Call)) :
    ∀ b ∈ (runUnder ⟨{ draft := .empty mode, escaper }, []⟩ calls).builders,
      b.escaper = .mysql → b.draft.action = some .insert →
        (∀ table ∈ b.draft.primary?, Text.IsName table) →
          (∀ column ∈ b.draft.insertColumns, Text.IsName column) →
            (∀ r ∈ b.draft.rows, r.IsData) → b.compilation.sql ≠ "" →
              ∃ table, b.draft.primary? = some table ∧
                Text.readInsertion? b.compilation.sql =
                  some ⟨table, b.draft.insertColumns,
                    b.draft.rows.map fun r => b.draft.insertColumns.map r.item⟩ ∧
                ∀ r ∈ b.draft.rows, ∀ entry ∈ r.entries,
                  b.draft.insertColumns.count entry.1 = 1 ∧ r.columns.count entry.1 = 1 ∧
                    r.item entry.1 = entry.2.item := by
  intro b member isMysql inserts tableName columnNames data written
  have tables := tablesAreKnown_runUnder mode escaper calls b member
  have lists := listsAreSound_runUnder mode escaper calls b member
  have compilation := (answers_runUnder (.empty mode) escaper calls b member).1.compilation_eq
  rw [compilation, isMysql] at written ⊢
  have enough := mt (Draft.compile_eq_empty_iff tables lists).2 written
  rcases Draft.exists_action_of_enough enough with ⟨action, isAction, declared, rows, -⟩
  rcases Draft.exists_primary? declared with ⟨table, -, primary⟩
  have someRow : b.draft.rows ≠ [] :=
    rows (.inl (Option.some.inj (isAction.symm.trans inserts)))
  have statement : b.draft.statement .mysql = b.draft.insertStatement .mysql :=
    Draft.statement_of_not_isOnRows declared (by simp [Draft.isOnRows, inserts]) (.inl inserts)
  refine ⟨table, primary, ?_, fun r inRows entry inRow => ⟨?_, ?_, ?_⟩⟩
  · change Text.readInsertion? ((b.draft.statement .mysql).fill b.draft.scope.qualifierOf) = _
    rw [statement]
    exact Draft.readInsertion?_insertStatement primary (tableName table primary) columnNames someRow
      (lists.insertColumns_ne_nil someRow) data _
  · have named := (lists.rows r inRows).2 entry.1 (List.mem_map_of_mem inRow)
    exact List.count_eq_one_of_mem lists.insertColumns named
  · exact List.count_eq_one_of_mem r.nodup (List.mem_map_of_mem inRow)
  · rw [Row.item, Row.get?_of_mem inRow]

/-- Calls that add rows with columns of their own, in different orders, twice, with values that look
like the end of a tuple, and without any column at all. -/
def assorted : List (AliasMode × Call) :=
  [(.auto, .edit (.declareTables ["users"])),
    (.auto, .edit (.upsert (.ofList [("name", .text "O'Hara, (Bo)"), ("age", .null)]))),
    (.auto, .edit (.insertTuples ["id", "name", "id"]
      [[.natural 1, .text "\\'), ('", .bool true, .null], []])),
    (.auto, .edit (.insertRows
      [.ofList [("age", .integer (-3)), ("id", .natural 2), ("age", .integer 40)], .empty]))]

theorem readInsertion?_runUnder_assorted :
    let b := (runUnder ⟨{ draft := .empty .auto, escaper := .mysql }, []⟩ assorted).current
    b.escaper = .mysql ∧ b.draft.action = some .insert ∧
      Text.readInsertion? b.compilation.sql =
        some ⟨"users", ["name", "age", "id"],
          [[.string "O'Hara, (Bo)", .null, .default],
            [.string "\\'), ('", .default, .string "1"],
            [.default, .string "40", .string "2"]]⟩ := by
  intro b
  have inserts : b.draft.action = some .insert := by decide +kernel
  have isUsers : b.draft.primary? = some "users" := by decide +kernel
  have columns : b.draft.insertColumns = ["name", "age", "id"] := by decide +kernel
  have tableName : ∀ table ∈ b.draft.primary?, Text.IsName table := by
    rw [isUsers]
    decide
  have columnNames : ∀ column ∈ b.draft.insertColumns, Text.IsName column := by
    rw [columns]
    decide
  have data : ∀ r ∈ b.draft.rows, r.IsData := by decide +kernel
  have written : b.compilation.sql ≠ "" := by decide +kernel
  rcases readInsertion?_runUnder .auto .mysql assorted b (current_mem_builders _) rfl inserts
    tableName columnNames data written with ⟨table, primary, read, -⟩
  obtain rfl : table = "users" := Option.some.inj (primary.symm.trans isUsers)
  refine ⟨rfl, inserts, ?_⟩
  rw [read]
  decide +kernel

end Session

end SqlQuery
