import SqlQuery.Proofs.ColumnGrammar
import SqlQuery.Proofs.PrintedKeys

/-!
Columns that are printed and read again.

A column that was read from a text is printed as a text from which it is read again, and a qualifier
before its name changes its table and nothing else (`Column.parse_render`).
-/

namespace SqlQuery

open Text

namespace Column

/-! ## Blanks around a column -/

/-- A column is read from its text without the blanks around it. -/
theorem read?_trimChars (s : List Char) : read? (trimChars s) = read? s := by
  have parts : trimChars s ++ (trimStart s).rtakeWhile isBlank = trimStart s :=
    List.rdropWhile_append_rtakeWhile ..
  have blank : ∀ c ∈ (trimStart s).rtakeWhile isBlank, isBlank c = true :=
    fun c member => List.mem_rtakeWhile_imp member
  have isHead := readHead?_append_blanks (trimChars s) blank
  rw [parts] at isHead
  unfold read?
  rw [trimStart_trimChars, isHead]
  cases readHead? (trimChars s) with
  | none => rfl
  | some read =>
    obtain ⟨head, rest⟩ := read
    have isTail := readTail?_append_blanks rest blank
    simp only [Option.map_some, Option.bind_eq_bind, Option.bind_some, isTail]

theorem parse_trim (spec : String) : parse (trim spec) = parse spec := by
  unfold parse
  rw [toList_trim, read?_trimChars, trim_trim]

/-! ## Printed columns -/

theorem isPlain_of_isNameChar {c : Char} (name : isNameChar c = true) : isPlain c = true := by
  have noParenthesis : isParenthesis c = false := by
    rw [← Bool.not_eq_true]
    intro parenthesis
    simp only [isParenthesis, Bool.or_eq_true, beq_iff_eq] at parenthesis
    rcases parenthesis with rfl | rfl <;> cases name
  simp [isPlain, isBlank_of_isNameChar name, noParenthesis]

theorem exists_written_eq {head : Head} (isRead : head.IsRead) :
    ∃ c s, head.written = c :: s ∧ isBlank c = false := by
  obtain ⟨application, argument⟩ := head
  cases application with
  | some a =>
    obtain ⟨identifier, -, -⟩ := isRead
    obtain ⟨c, s, function⟩ := List.exists_cons_of_ne_nil (ne_nil_of_isFoldedIdentifier identifier)
    refine ⟨c, s ++ (("(" ++ if a.distinct then "DISTINCT " else "").toList ++ (argument ++ [')'])),
      ?_, isBlank_of_isFoldedIdentifier identifier (by simp [function])⟩
    simp [Head.written, Application.opening, function]
  | none =>
    obtain ⟨present, plain⟩ := isRead
    obtain ⟨c, s, rfl⟩ := List.exists_cons_of_ne_nil present
    have first := plain c (.head _)
    simp only [isPlain, Bool.and_eq_true, Bool.not_eq_true'] at first
    exact ⟨c, s, rfl, first.1⟩

theorem parenthesis_notMem_of_isFoldedIdentifier {s : List Char}
    (identifier : isFoldedIdentifier s = true) : '(' ∉ s := fun member => by
  cases isNameChar_of_isFoldedIdentifier identifier member

theorem parenthesis_notMem_writtenTail {modifier output : Option String}
    (isTail : IsTail modifier output) : '(' ∉ writtenTail modifier output := by
  intro member
  rcases List.mem_append.1 member with inModifier | inOutput
  · cases modifier with
    | none => cases inModifier
    | some m =>
      rcases List.mem_cons.1 inModifier with space | inWord
      · cases space
      · exact parenthesis_notMem_of_isFoldedIdentifier (isTail.modifier m rfl).1 inWord
  · cases output with
    | none => cases inOutput
    | some o =>
      rcases List.mem_append.1 inOutput with inKeyword | inWord
      · simp at inKeyword
      · exact parenthesis_notMem_of_isFoldedIdentifier (isTail.output o rfl) inWord

/-- What follows a printed head starts with a blank. -/
theorem head?_writtenTail (modifier output : Option String) :
    (writtenTail modifier output).head?.any isPlain = false := by
  cases modifier <;> cases output <;> rfl

/-- The parts of a column are read again as they are printed. -/
theorem parse_written {head : Head} {modifier output : Option String} (isRead : head.IsRead)
    (named : head.NamesColumn) (isTail : IsTail modifier output) :
    parse (String.ofList (head.written ++ writtenTail modifier output)) =
      head.column modifier output := by
  have start : trimStart (head.written ++ writtenTail modifier output) =
      head.written ++ writtenTail modifier output := by
    obtain ⟨c, s, text, present⟩ := exists_written_eq isRead
    rw [text]
    exact trimStart_eq_self present
  have isHead := readHead?_written isRead (parenthesis_notMem_writtenTail isTail)
    (head?_writtenTail modifier output)
  rw [← start] at isHead
  have read := read?_eq_some_iff.2
    ⟨head, _, modifier, output, isHead, readTail?_written isTail, named, rfl⟩
  rw [parse, String.toList_ofList, read]
  rfl

/-- A column is printed as its head, its modifier and its output name. -/
theorem opening_append_closing (c : NamedColumn) (name : String) :
    c.opening ++ name ++ c.closing = String.ofList
      ((Head.mk c.application name.toList).written ++ writtenTail c.modifier c.output) := by
  obtain ⟨application, _, modifier, output⟩ := c
  rw [← String.toList_inj]
  cases application <;> cases modifier <;> cases output <;>
    simp [NamedColumn.opening, NamedColumn.closing, Head.written, writtenTail]

theorem render_none (table : Option String) (c : NamedColumn) :
    render none ⟨table, .named c⟩ = String.ofList
      ((Head.mk c.application c.name.toList).written ++ writtenTail c.modifier c.output) :=
  opening_append_closing c c.name

theorem render_some (table : Option String) {c : NamedColumn} (noStar : c.name ≠ "*") (q : String) :
    render (some q) ⟨table, .named c⟩ = String.ofList
      ((Head.mk c.application (q ++ "." ++ c.name).toList).written ++
        writtenTail c.modifier c.output) := by
  have kept : isStar ⟨table, .named c⟩ = false := beq_eq_false_iff_ne.2 noStar
  simp only [render, kept, Bool.false_eq_true, if_false]
  exact opening_append_closing c (q ++ "." ++ c.name)

/-- A column with the qualifier that it came with is printed as its parts are, a star apart. -/
theorem render_table_column {head : Head} {modifier output : Option String}
    (noStar : ¬((head.column modifier output).isStar = true ∧
      (head.column modifier output).table.isSome = true)) :
    (head.column modifier output).render (head.column modifier output).table =
      String.ofList (head.written ++ writtenTail modifier output) := by
  unfold Head.column at noStar ⊢
  cases parts : splitQualified? (String.ofList head.argument) with
  | none =>
    dsimp only
    rw [render_none, String.toList_ofList]
  | some names =>
    obtain ⟨table, name⟩ := names
    rw [parts] at noStar
    have noStar : name ≠ "*" := fun star => noStar ⟨beq_iff_eq.2 star, rfl⟩
    dsimp only
    rw [render_some _ noStar, ← eq_of_splitQualified? parts, String.toList_ofList]

/-! ## Qualifiers -/

theorem splitQualified?_of_isIdentifier {table column : String}
    (isTable : isIdentifier table.toList = true) (isColumn : isIdentifier column.toList = true) :
    splitQualified? (table ++ "." ++ column) = some (table, column) := by
  have dotless : ∀ c ∈ table.toList, (c != '.') = true := by
    intro c member
    rw [bne_iff_ne]
    rintro rfl
    cases isNameChar_of_isIdentifier isTable member
  have text : (table ++ "." ++ column).toList = table.toList ++ '.' :: column.toList := by simp
  have parts := takeWhile_dropWhile_append dotless (s := '.' :: column.toList) rfl
  simp [splitQualified?, text, parts, isTable, isColumn]

section Qualified

variable {q name : List Char} (isTable : isIdentifier q = true)
  (isColumn : isIdentifier name = true)

include isTable isColumn

theorem mem_qualified {c : Char} (member : c ∈ q ++ '.' :: name) :
    isNameChar c = true ∨ c = '.' := by
  rcases List.mem_append.1 member with inTable | rest
  · exact .inl (isNameChar_of_isIdentifier isTable inTable)
  · rcases List.mem_cons.1 rest with dot | inColumn
    · exact .inr dot
    · exact .inl (isNameChar_of_isIdentifier isColumn inColumn)

theorem isPlain_of_mem_qualified {c : Char} (member : c ∈ q ++ '.' :: name) :
    isPlain c = true := by
  rcases mem_qualified isTable isColumn member with nameChar | rfl
  · exact isPlain_of_isNameChar nameChar
  · decide

theorem isRead_qualified {head : Head} (isRead : head.IsRead) :
    (Head.mk head.application (q ++ '.' :: name)).IsRead := by
  have plain := fun c => isPlain_of_mem_qualified isTable isColumn (c := c)
  simp only [isPlain, Bool.and_eq_true, Bool.not_eq_true'] at plain
  obtain ⟨application, argument⟩ := head
  cases application with
  | some a =>
    obtain ⟨identifier, -, -⟩ := isRead
    exact ⟨identifier, fun c member => (plain c member).2,
      isArgument_of_no_blank a.distinct fun c member => (plain c member).1⟩
  | none =>
    exact ⟨List.append_ne_nil_of_right_ne_nil _ (List.cons_ne_nil _ _),
      fun c => isPlain_of_mem_qualified isTable isColumn⟩

/-- A qualified name is one argument. -/
theorem namesColumn_qualified (application : Option Application) :
    (Head.mk application (q ++ '.' :: name)).NamesColumn := by
  rintro ⟨-, compound⟩
  simp only [isCompound, Bool.or_eq_true, List.any_eq_true, beq_iff_eq] at compound
  rcases compound with empty | ⟨c, member, separator⟩
  · simp at empty
  · rcases mem_qualified isTable isColumn member with nameChar | rfl
    · rcases separator with (rfl | rfl) | rfl <;> cases nameChar
    · revert separator
      decide

end Qualified

/-- The parts of a head's column, its name and its table apart, are given. -/
theorem exists_column_eq (head : Head) (modifier output : Option String) :
    ∃ table name, head.column modifier output =
      ⟨table, .named ⟨head.application, name, modifier, output⟩⟩ := by
  unfold Head.column
  split
  · exact ⟨_, _, rfl⟩
  · exact ⟨_, _, rfl⟩

/-- A column of an identifier is read with any qualifier as a column of that table. -/
theorem parse_render_qualifier {head : Head} {modifier output : Option String}
    (isRead : head.IsRead) (isTail : IsTail modifier output)
    (isColumn : isIdentifier (head.column modifier output).name.toList = true) {q : String}
    (isTable : isIdentifier q.toList = true) :
    parse ((head.column modifier output).render (some q)) =
      { head.column modifier output with table := some q } := by
  obtain ⟨table, name, column⟩ := exists_column_eq head modifier output
  rw [column] at isColumn ⊢
  change isIdentifier name.toList = true at isColumn
  have noStar : name ≠ "*" := by
    rintro rfl
    cases isColumn
  have printed : (q ++ "." ++ name).toList = q.toList ++ '.' :: name.toList := by simp
  have isRead' := isRead_qualified isTable isColumn isRead
  have named := namesColumn_qualified isTable isColumn head.application
  rw [← printed] at isRead' named
  rw [render_some table noStar, parse_written isRead' named isTail, Head.column]
  dsimp only
  rw [String.ofList_toList, splitQualified?_of_isIdentifier isTable isColumn]

theorem parse_cases (spec : String) :
    (∃ head modifier output, Head.IsRead head ∧ Head.NamesColumn head ∧ IsTail modifier output ∧
      parse spec = head.column modifier output) ∨ parse spec = ⟨none, .verbatim (trim spec)⟩ := by
  unfold parse
  cases read : read? spec.toList with
  | none => exact .inr rfl
  | some c =>
    obtain ⟨head, rest, modifier, output, isHead, isTail, named, rfl⟩ := read?_eq_some_iff.1 read
    exact .inl ⟨head, modifier, output, isRead_of_readHead? isHead, named,
      isTail_of_readTail? isTail, rfl⟩

/-- A column is read again from the text it is printed as: with the qualifier it came with it is the
same column, a star apart, which never takes one; and a column named by an identifier is the same,
with any qualifier, but for its table. -/
theorem parse_render (spec : String) :
    (¬((parse spec).isStar = true ∧ (parse spec).table.isSome = true) →
      parse ((parse spec).render (parse spec).table) = parse spec) ∧
    ((parse spec).isVerbatim = false → isIdentifier (parse spec).name.toList = true →
      ∀ q : String, isIdentifier q.toList = true →
        parse ((parse spec).render (some q)) = { parse spec with table := some q }) := by
  rcases parse_cases spec with ⟨head, modifier, output, isRead, named, isTail, column⟩ | verbatim
  · rw [column]
    constructor
    · intro noStar
      rw [render_table_column noStar]
      exact parse_written isRead named isTail
    · intro _ isColumn q isTable
      exact parse_render_qualifier isRead isTail isColumn isTable
  · constructor
    · intro _
      have printed : (parse spec).render (parse spec).table = trim spec := by rw [verbatim]; rfl
      rw [printed, parse_trim]
    · intro isNamed
      rw [verbatim] at isNamed
      cases isNamed

/-- Spaces and keywords are printed in one way, and the column is the same.  A call on two arguments
is a verbatim column. -/
theorem parse_render_call :
    parse " count ( distinct\n u.id )  desc as N" =
      ⟨some "u", .named ⟨some ⟨"count", true⟩, "id", some "desc", some "N"⟩⟩ ∧
    parse "count(DISTINCT u.id) desc AS N" = parse " count ( distinct\n u.id )  desc as N" ∧
    parse "count(DISTINCT posts.id) desc AS N" =
      { parse " count ( distinct\n u.id )  desc as N" with table := some "posts" } ∧
    parse "COUNT(id, name)" = parse " COUNT(id, name)\t" := by
  have call := parse_render " count ( distinct\n u.id )  desc as N"
  have verbatim := parse_render " COUNT(id, name)\t"
  refine ⟨by decide +kernel, call.1 (by decide +kernel), call.2 (by decide +kernel)
    (by decide +kernel) "posts" (by decide), verbatim.1 (by decide +kernel)⟩

end Column

end SqlQuery
