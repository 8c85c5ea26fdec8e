import SqlQuery.Proofs.ColumnGrammar
import SqlQuery.Proofs.FromLayout

/-!
Columns as items of a list.

The items that a list of columns is cut into are trimmed and not empty, and the column that such an
item is read as is written as a text that is not empty either, whatever qualifies it
(`Column.isWritten_parse`).  So each column of a list is an item of the printed list
(`Scope.fill_columns`).
-/

namespace SqlQuery

/-! ## Items -/

namespace Text

/-- The items of a list are trimmed, and none is empty. -/
theorem mem_items {list item : String} (member : item ∈ items list) :
    trim item = item ∧ item ≠ "" := by
  rcases List.mem_map.1 member with ⟨s, kept, rfl⟩
  rcases List.mem_filter.1 kept with ⟨piece, present⟩
  rcases List.mem_map.1 piece with ⟨t, -, rfl⟩
  constructor
  · rw [trim, String.toList_ofList, trimChars_trimChars]
  · rw [ne_eq, String.ofList_eq_empty_iff]
    simpa using present

theorem mem_allItems {lists : List String} {item : String} (member : item ∈ allItems lists) :
    trim item = item ∧ item ≠ "" := by
  rcases List.mem_flatMap.1 member with ⟨list, -, listed⟩
  exact mem_items listed

theorem ne_nil_of_isIdentifier {s : List Char} (identifier : isIdentifier s = true) : s ≠ [] := by
  rintro rfl
  cases identifier

/-- Both parts of a qualified name are there. -/
theorem ne_empty_of_splitQualified? {s table column : String}
    (split : splitQualified? s = some (table, column)) : table ≠ "" ∧ column ≠ "" := by
  unfold splitQualified? at split
  dsimp only at split
  split at split
  case h_1 name _ =>
    split at split
    case isTrue parts =>
      simp only [Bool.and_eq_true, Bool.or_eq_true] at parts
      simp only [Option.some.injEq, Prod.mk.injEq] at split
      rw [← split.1, ← split.2, ne_eq, ne_eq, String.ofList_eq_empty_iff,
        String.ofList_eq_empty_iff]
      refine ⟨ne_nil_of_isIdentifier parts.1, ?_⟩
      rcases parts.2 with identifier | star
      · exact ne_nil_of_isIdentifier identifier
      · rw [beq_iff_eq.1 star]
        exact List.cons_ne_nil _ _
    case isFalse => cases split
  case h_2 => cases split

end Text

/-! ## Columns that are written -/

namespace Column

/-- The column is a text that is not empty, whatever qualifies it. -/
def IsWritten (c : Column) : Prop := ∀ qualifier, c.render qualifier ≠ ""

theorem isWritten_within {table : Option String} {c : Column} :
    (c.within table).IsWritten ↔ c.IsWritten := Iff.rfl

theorem isWritten_verbatim {table : Option String} {sql : String} (written : sql ≠ "") :
    IsWritten ⟨table, .verbatim sql⟩ := fun _ => written

/-- A named column is written if it has a name or a function around it. -/
theorem isWritten_named {table : Option String} {c : NamedColumn}
    (written : c.application.isSome = true ∨ c.name ≠ "") : IsWritten ⟨table, .named c⟩ := by
  intro qualifier
  rcases written with applied | named
  · rcases Option.isSome_iff_exists.1 applied with ⟨a, application⟩
    simp [render, NamedColumn.opening, application, Application.opening]
  · cases qualifier with
    | none => simp [render, named]
    | some q =>
      simp only [render]
      split <;> simp [named]

/-! ## Columns read from their text -/

/-- A head is a function call, or it is a name. -/
theorem Head.IsRead.isSome_or_ne_nil {head : Head} (isRead : head.IsRead) :
    head.application.isSome = true ∨ head.argument ≠ [] := by
  obtain ⟨application, argument⟩ := head
  cases application with
  | some a => exact .inl rfl
  | none => exact .inr isRead.1

/-- What the grammar reads has a name. -/
theorem isWritten_of_read? {s : List Char} {c : Column} (read : read? s = some c) :
    c.IsWritten := by
  obtain ⟨head, rest, modifier, output, isHead, -, -, rfl⟩ := read?_eq_some_iff.1 read
  have some := (isRead_of_readHead? isHead).isSome_or_ne_nil
  unfold Head.column
  split
  case h_1 table name parts =>
    exact isWritten_named (.inr (Text.ne_empty_of_splitQualified? parts).2)
  case h_2 =>
    refine isWritten_named (some.imp_right fun argument => ?_)
    rwa [ne_eq, String.ofList_eq_empty_iff]

/-- A column that is parsed from a text with content is written. -/
theorem isWritten_parse {spec : String} (written : Text.trim spec ≠ "") :
    (parse spec).IsWritten := by
  unfold parse
  cases read : read? spec.toList with
  | none => exact isWritten_verbatim written
  | some c => exact isWritten_of_read? read

/-- The columns that are parsed from lists are written, since no item is blank. -/
theorem isWritten_of_mem_parseAll {table : Option String} {lists : List String} {c : Column}
    (member : c ∈ parseAll table lists) : c.IsWritten := by
  rcases List.mem_map.1 member with ⟨spec, listed, rfl⟩
  rcases Text.mem_allItems listed with ⟨trimmed, present⟩
  exact isWritten_within.2 (isWritten_parse (by rwa [trimmed]))

/-! ## Columns told apart by their resolved names -/

/-- Whether a column is added depends on its resolved name. -/
theorem addTo_eq (columns : List Column) (c : Column) :
    addTo columns c =
      if c.resolvedName ∈ columns.map resolvedName then columns else columns ++ [c] := by
  have listed : columns.any (·.resolvedName == c.resolvedName) = true ↔
      c.resolvedName ∈ columns.map resolvedName := by
    simp only [List.any_eq_true, beq_iff_eq, List.mem_map]
  simp only [addTo, listed]

/-- Columns that are told apart by their resolved names stay so. -/
theorem nodup_addAllTo {columns : List Column} (distinct : (columns.map resolvedName).Nodup)
    (added : List Column) : ((addAllTo columns added).map resolvedName).Nodup := by
  induction added generalizing columns with
  | nil => exact distinct
  | cons c added ih =>
    apply ih
    rw [addTo_eq]
    split
    case isTrue => exact distinct
    case isFalse new =>
      rw [List.map_append]
      refine List.nodup_append.2 ⟨distinct, List.nodup_singleton _, ?_⟩
      rintro name listed _ isNew rfl
      rw [List.map_singleton, List.mem_singleton] at isNew
      exact new (isNew ▸ listed)

/-- The columns of a list are old ones or added ones. -/
theorem mem_of_mem_addAllTo {columns added : List Column} {c : Column}
    (member : c ∈ addAllTo columns added) : c ∈ columns ∨ c ∈ added := by
  induction added generalizing columns with
  | nil => exact .inl member
  | cons first added ih =>
    rcases ih member with earlier | later
    · rw [addTo_eq] at earlier
      split at earlier
      case isTrue => exact .inl earlier
      case isFalse =>
        rw [List.mem_append, List.mem_singleton] at earlier
        exact earlier.imp_right fun isFirst => by simp [isFirst]
    · exact .inr (List.mem_cons_of_mem _ later)

end Column

/-! ## Lists of columns -/

namespace Scope

variable (s : Scope)

/-- A column that is written has a text. -/
theorem fill_column_ne_empty {c : Column} (written : c.IsWritten) :
    (s.column c).fill s.qualifierOf ≠ "" := by
  rw [fill_column]
  exact written _

/-- A column as an item of a list: with the qualifier of its table, where it takes one. -/
def columnText (c : Column) : String :=
  c.render ((c.table.bind s.qualify?).map s.qualifierOf)

/-- A list of columns is a comma list with one item for each. -/
theorem fill_columns {cs : List Column} (written : ∀ c ∈ cs, c.IsWritten) :
    (s.columns cs).fill s.qualifierOf = ", ".intercalate (cs.map s.columnText) := by
  have each : ∀ f ∈ cs.map s.column, f.isBlank = false := by
    intro f member
    rcases List.mem_map.1 member with ⟨c, listed, rfl⟩
    exact Fragment.isBlank_of_fill_ne_empty (s.fill_column_ne_empty (written c listed))
  unfold columns
  rw [fill_joined _ _ (.inl each), List.map_map]
  congr 1
  exact List.map_congr_left fun c _ => s.fill_column c s.qualifierOf

end Scope

end SqlQuery
