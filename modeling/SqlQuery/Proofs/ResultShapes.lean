import SqlQuery.Outcome
import SqlQuery.Proofs.ColumnReading
import SqlQuery.Proofs.PaddedNames

/-!
The shape of the result of a selection.

A selection of one column returns one value of each row, and a star returns all of them.  Which of
the two a select list is, is decided by the names of its columns.  That this works for expressions
rests on how columns come into a select list: they were all read from a text
(`Session.isParsed_of_mem_columns`), and a text that is nothing but a star is never read as an
expression (`Column.IsParsed.body_ne_verbatim_star`).  But a function of a star, which returns one
value, has the name of a star as well.
-/

namespace SqlQuery

/-! ## Stars -/

namespace Column

/-- The column stands for all columns, of its table if it has one. -/
def isBareStar (c : Column) : Bool :=
  match c.body with
  | .named column => column.application.isNone && column.name == "*"
  | .verbatim _ => false

/-- The column is a function of a star, such as `COUNT(*)`. -/
def isStarCall (c : Column) : Bool :=
  match c.body with
  | .named column => column.application.isSome && column.name == "*"
  | .verbatim _ => false

/-- The column was read from a text, its table apart. -/
def IsParsed (c : Column) : Prop := ∃ spec, c.body = (parse spec).body

theorem isParsed_of_mem_parseAll {table : Option String} {lists : List String} {c : Column}
    (member : c ∈ parseAll table lists) : c.IsParsed := by
  rcases List.mem_map.1 member with ⟨spec, -, rfl⟩
  exact ⟨spec, rfl⟩

/-- A star is read as the column that stands for all columns, not as an expression. -/
theorem IsParsed.body_ne_verbatim_star {c : Column} (parsed : c.IsParsed) :
    c.body ≠ .verbatim "*" := by
  rcases parsed with ⟨spec, body⟩
  rw [body]
  rcases parse_cases spec with ⟨head, modifier, output, -, -, -, column⟩ | verbatim
  · obtain ⟨table, named, shape⟩ := exists_column_eq head modifier output
    rw [column, shape]
    exact nofun
  · intro star
    have isStar : Text.trim spec = "*" := by
      rw [verbatim] at star
      exact ColumnBody.verbatim.inj star
    have named : (parse "*").body ≠ .verbatim "*" := by decide +kernel
    rw [← parse_trim, isStar] at star
    exact named star

/-- Of the columns that were read, those have the name of a star that stand for all columns or are a
function of a star. -/
theorem IsParsed.isStar_eq {c : Column} (parsed : c.IsParsed) :
    c.isStar = (c.isBareStar || c.isStarCall) := by
  have noExpression := parsed.body_ne_verbatim_star
  obtain ⟨table, body⟩ := c
  cases body with
  | named column => cases application : column.application <;>
      simp [isStar, isBareStar, isStarCall, name, application]
  | verbatim sql =>
    have other : sql ≠ "*" := fun star => noExpression (congrArg ColumnBody.verbatim star)
    simpa [isStar, isBareStar, isStarCall, name] using other

end Column

/-! ## Select lists of a run -/

theorem Edit.mem_columns_apply {mode : AliasMode} {b : Builder} {e : Edit} {c : Column}
    (member : c ∈ (e.apply mode b).draft.columns) :
    c ∈ b.draft.columns ∨ ∃ table lists, c ∈ Column.parseAll table lists := by
  rw [Edit.draft_apply, Edit.columns_draftAfter] at member
  cases e with
  | select specs table | setColumns specs =>
    rcases Column.mem_of_mem_addAllTo member with old | new
    · cases old
    · exact .inr ⟨_, _, new⟩
  | addColumns specs | addColumnsOf table specs =>
    exact (Column.mem_of_mem_addAllTo member).imp_right fun new => ⟨_, _, new⟩
  | reset => cases member
  | _ => exact .inl member

/-- The select lists of a run that starts with an empty one have columns that were read. -/
theorem Session.isParsed_of_mem_columns (mode : AliasMode) (escaper : Escaper)
    (calls : List (AliasMode × Call)) :
    ∀ b ∈ (runUnder ⟨{ draft := .empty mode, escaper }, []⟩ calls).builders,
      ∀ c ∈ b.draft.columns, c.IsParsed := by
  refine forall_builders_runUnder (P := fun b => ∀ c ∈ b.draft.columns, c.IsParsed) ?_ ?_ ?_
  · intro mode e _ b before c member
    rcases Edit.mem_columns_apply member with old | ⟨table, lists, new⟩
    · exact before c old
    · exact Column.isParsed_of_mem_parseAll new
  · intro reading b before c member
    rcases reading.exists_draft_run_eq b with ⟨aliases, same⟩
    rw [same] at member
    exact before c member
  · intro b isStart c member
    rw [List.mem_singleton.1 isStart] at member
    cases member

/-! ## Shapes -/

namespace Shape

/-- What a selection of one column returns. -/
def ofColumn (single : Bool) : Shape := if single then .scalar else .column

/-- What any other selection returns. -/
def ofRows (single : Bool) : Shape := if single then .row else .rows

theorem ofRows_ne_ofColumn (single : Bool) : ofRows single ≠ ofColumn single := by
  cases single <;> decide

end Shape

namespace Draft

variable {d : Draft}

theorem selectsMany_eq_false_iff :
    d.selectsMany = false ↔ ∃ c, d.columns = [c] ∧ c.isStar = false := by
  unfold selectsMany
  rcases d.columns with - | ⟨c, - | ⟨next, rest⟩⟩ <;> simp

theorem resultShape_of_select (selects : d.action = some .select) (single : Bool) :
    d.resultShape single = if d.selectsMany then .ofRows single else .ofColumn single := by
  unfold resultShape
  rw [selects]
  cases single <;> cases d.selectsMany <;> rfl

end Draft

namespace Session

/-- In every selection that calls on a new builder lead to, one value of each row is expected if the
select list has one column that neither stands for all columns nor is a function of a star, and all
values are expected otherwise. -/
theorem resultShape_runUnder (mode : AliasMode) (escaper : Escaper)
    (calls : List (AliasMode × Call)) :
    ∀ b ∈ (runUnder ⟨{ draft := .empty mode, escaper }, []⟩ calls).builders,
      b.draft.action = some .select → ∀ single,
        (b.resultShape single = .ofColumn single ↔
          ∃ c, b.draft.columns = [c] ∧ c.isBareStar = false ∧ c.isStarCall = false) ∧
        (b.resultShape single = .ofColumn single ∨ b.resultShape single = .ofRows single) := by
  intro b reached selects single
  have shape : b.resultShape single =
      if b.draft.selectsMany then .ofRows single else .ofColumn single :=
    Draft.resultShape_of_select selects single
  have one : b.draft.selectsMany = false ↔
      ∃ c, b.draft.columns = [c] ∧ c.isBareStar = false ∧ c.isStarCall = false := by
    rw [Draft.selectsMany_eq_false_iff]
    refine exists_congr fun c => and_congr_right fun columns => ?_
    have parsed : c.IsParsed :=
      isParsed_of_mem_columns mode escaper calls b reached c (by simp [columns])
    rw [parsed.isStar_eq, Bool.or_eq_false_iff]
  rw [← one, shape]
  cases b.draft.selectsMany
  case false => exact ⟨iff_of_true rfl rfl, .inl rfl⟩
  case true => exact ⟨iff_of_false (Shape.ofRows_ne_ofColumn single) nofun, .inr rfl⟩

/-- An expression takes the place of a star, and is given a second time. -/
theorem resultShape_runUnder_expression :
    let calls : List (AliasMode × Call) :=
      [(.auto, .edit (.select ["users.*", "id"] "users")), (.auto, .edit (.groupBy none ["name"])),
        (.auto, .edit (.setColumns ["MAX(born - died)", " MAX(born - died)"]))]
    let s := runUnder ⟨{ draft := .empty .auto, escaper := .mysql }, []⟩ calls
    s.current.draft.action = some .select ∧ s.current.resultShape false = .column := by
  intro calls s
  have selects : s.current.draft.action = some .select := by decide +kernel
  have columns : s.current.draft.columns = [⟨none, .verbatim "MAX(born - died)"⟩] := by
    decide +kernel
  have shape := resultShape_runUnder .auto .mysql calls s.current s.current_mem_builders selects
    false
  exact ⟨selects, shape.1.2 ⟨_, columns, rfl, rfl⟩⟩

/-- The one value that a count of all rows returns is taken for a whole row. -/
theorem resultShape_runUnder_count :
    let s := runUnder ⟨{ draft := .empty .auto, escaper := .mysql }, []⟩
      [(.auto, .edit (.select ["COUNT(*)"] "users"))]
    s.current ∈ s.builders ∧ s.current.draft.action = some .select ∧
      s.current.draft.columns =
        [⟨some "users", .named ⟨some ⟨"COUNT", false⟩, "*", none, none⟩⟩] ∧
      s.current.draft.columns.all (!·.isBareStar) ∧ s.current.resultShape true = .row := by
  refine ⟨current_mem_builders _, ?_⟩
  decide +kernel

end Session

end SqlQuery
