import SqlQuery.Proofs.ColumnReading
import SqlQuery.Proofs.PaddedNames

/-!
Columns that are function calls, and what may stand in the parentheses of one.

A call can be written with blanks between its parts and with anything as its argument
(`Column.CallText`).  Whether the argument is a name, which takes a qualifier, or an expression,
which takes none, is told by single characters: an argument is an expression if it is empty or has a
space, a tab, a comma or a parenthesis (`Column.CallText.isVerbatim_parse_iff`).  An expression
without any of these is taken for a name.
-/

namespace SqlQuery

open Text

/-! ## Words and blanks -/

namespace Text

/-- What is not blank stands in a word. -/
theorem exists_mem_words {s : List Char} {c : Char} (member : c ∈ s) (present : isBlank c = false) :
    ∃ word ∈ words s, c ∈ word := by
  have inRun : ∃ run ∈ runs s, c ∈ run := by
    induction s with
    | nil => cases member
    | cons d s ih =>
      obtain ⟨first, others, parts⟩ := List.exists_cons_of_ne_nil (runs_ne_nil s)
      rcases List.mem_cons.1 member with rfl | later
      · exact ⟨c :: first, by simp [runs, present, parts], .head _⟩
      · obtain ⟨run, isRun, inside⟩ := ih later
        unfold runs
        split
        case isTrue => exact ⟨run, .tail _ isRun, inside⟩
        case isFalse =>
          rw [parts] at isRun ⊢
          rcases List.mem_cons.1 isRun with rfl | isOther
          · exact ⟨d :: run, .head _, .tail _ inside⟩
          · exact ⟨run, .tail _ isOther, inside⟩
  obtain ⟨run, isRun, inside⟩ := inRun
  exact ⟨run, List.mem_filter.2 ⟨isRun, by simp [List.ne_nil_of_mem inside]⟩, inside⟩

theorem words_blanks_append {blanks : List Char} (blank : ∀ c ∈ blanks, isBlank c = true)
    (s : List Char) : words (blanks ++ s) = words s := by
  induction blanks with
  | nil => rw [List.nil_append]
  | cons c blanks ih =>
    rw [List.cons_append, words_cons_blank (blank c (.head _)),
      ih fun d member => blank d (.tail _ member)]

/-- The blanks are there: at least one. -/
structure IsGap (gap : List Char) : Prop where
  present : gap ≠ []
  blank : ∀ c ∈ gap, isBlank c = true

theorem IsGap.head? {gap : List Char} (isGap : IsGap gap) (s : List Char) :
    (gap ++ s).head?.all isBlank = true := by
  obtain ⟨c, blanks, rfl⟩ := List.exists_cons_of_ne_nil isGap.present
  exact isGap.blank c (.head _)

/-- A word behind a gap is the first word. -/
theorem IsGap.words_append {gap word s : List Char} (isGap : IsGap gap)
    (identifier : isFoldedIdentifier word = true) (apart : s.head?.all isBlank = true) :
    words (gap ++ (word ++ s)) = word :: words s := by
  rw [words_blanks_append isGap.blank]
  exact Text.words_append (fun c => isBlank_of_isFoldedIdentifier identifier)
    (ne_nil_of_isFoldedIdentifier identifier) apart

/-- A text that starts with an identifier starts there when blanks are cut off. -/
theorem trimStart_blanks_append {blanks word : List Char} (blank : ∀ c ∈ blanks, isBlank c = true)
    (identifier : isFoldedIdentifier word = true) (s : List Char) :
    trimStart (blanks ++ (word ++ s)) = word ++ s := by
  obtain ⟨c, w, rfl⟩ := List.exists_cons_of_ne_nil (ne_nil_of_isFoldedIdentifier identifier)
  have present : isBlank c = false := isBlank_of_isFoldedIdentifier identifier (.head _)
  rw [trimStart, List.dropWhile_append_of_pos blank]
  exact trimStart_eq_self present

theorem isBlank_of_trimChars_eq_self {c : Char} {s : List Char}
    (trimmed : trimChars (c :: s) = c :: s) : isBlank c = false := by
  have start : (c :: s).dropWhile isBlank = c :: s := by
    have same := trimStart_trimChars (c :: s)
    rwa [trimmed] at same
  have stops := List.head?_dropWhile_not isBlank (c :: s)
  rw [start] at stops
  exact stops

/-- What folds to a keyword folds to identifier characters. -/
theorem isFoldedIdentifier_of_isKeyword {keyword word : List Char}
    (isKeyword : isKeyword keyword word = true) (identifier : isIdentifier keyword = true) :
    isFoldedIdentifier word = true := by
  rw [isFoldedIdentifier, beq_iff_eq.1 isKeyword]
  exact identifier

end Text

namespace Column

/-! ## Calls as they are written -/

/-- What stands between the parenthesis that opens a call and its argument: blanks, and possibly the
word `DISTINCT` among them. -/
inductive IsOpening : Bool → List Char → Prop
  | blanks {blanks : List Char} (blank : ∀ c ∈ blanks, isBlank c = true) : IsOpening false blanks
  | distinct {blanks word gap : List Char} (blank : ∀ c ∈ blanks, isBlank c = true)
    (keyword : isKeyword ['d', 'i', 's', 't', 'i', 'n', 'c', 't'] word = true)
    (isGap : IsGap gap) : IsOpening true (blanks ++ (word ++ gap))

/-- An output name as it may be written at the end of a column, or none. -/
inductive IsOutputText : Option String → List Char → Prop
  | absent {blanks : List Char} (blank : ∀ c ∈ blanks, isBlank c = true) : IsOutputText none blanks
  | named {gap keyword between name blanks : List Char} (isGap : IsGap gap)
    (isAs : isKeyword ['a', 's'] keyword = true) (isBetween : IsGap between)
    (identifier : isFoldedIdentifier name = true) (blank : ∀ c ∈ blanks, isBlank c = true) :
    IsOutputText (some (String.ofList name)) (gap ++ (keyword ++ (between ++ (name ++ blanks))))

/-- A modifier and an output name as they may be written after a call, or none of them.  The word
`AS` may stand there as well, and is no modifier. -/
inductive IsTailText : Option String → Option String → List Char → Prop
  | plain {output : Option String} {s : List Char} (isOutput : IsOutputText output s) :
    IsTailText none output s
  | modified {output : Option String} {gap word s : List Char} (isGap : IsGap gap)
    (identifier : isFoldedIdentifier word = true) (isOutput : IsOutputText output s) :
    IsTailText (modifierOf word) output (gap ++ (word ++ s))

/-- A function call in its parts, as it is written: the function, the word `DISTINCT` or not, the
argument, which may be any text, a modifier and an output name, and blanks between them. -/
structure CallText where
  before : List Char
  function : List Char
  gap : List Char
  distinct : Bool
  opening : List Char
  argument : List Char
  after : List Char
  modifier : Option String
  output : Option String
  tail : List Char
  isBefore : ∀ c ∈ before, isBlank c = true
  isFunction : isFoldedIdentifier function = true
  isGap : ∀ c ∈ gap, isBlank c = true
  isOpening : IsOpening distinct opening
  /-- The blanks around the argument are not part of it. -/
  trimmed : trimChars argument = argument
  isAfter : ∀ c ∈ after, isBlank c = true
  /-- The word `DISTINCT` and blanks are not part of the argument. -/
  unmarked : distinct = false → IsUnmarked (argument ++ after)
  isTail : IsTailText modifier output tail

namespace CallText

/-- What stands between the parentheses. -/
def inner (t : CallText) : List Char := t.opening ++ (t.argument ++ t.after)

/-- The call, from its function to its end. -/
def called (t : CallText) : List Char :=
  t.function ++ (t.gap ++ '(' :: (t.inner ++ ')' :: t.tail))

/-- The whole text of the column. -/
def text (t : CallText) : String := String.ofList (t.before ++ t.called)

/-- What is read where the argument is a name. -/
def head (t : CallText) : Head := ⟨some ⟨String.ofList t.function, t.distinct⟩, t.argument⟩

end CallText

/-! ## Reading the parts -/

/-- Without the mark, the argument is all of the text, trimmed. -/
theorem splitDistinct_of_isUnmarked {s : List Char} (unmarked : IsUnmarked (trimStart s)) :
    splitDistinct s = (false, trimChars s) := by
  unfold splitDistinct
  dsimp only
  split
  case h_1 c rest marked =>
    rw [if_neg (by simp [unmarked c rest marked])]
    rfl
  case h_2 => rfl

/-- With the mark, the argument starts behind the gap. -/
theorem splitDistinct_of_marked {s word gap argument : List Char}
    (keyword : isKeyword ['d', 'i', 's', 't', 'i', 'n', 'c', 't'] word = true) (isGap : IsGap gap)
    (parts : trimStart s = word ++ (gap ++ argument)) :
    splitDistinct s = (true, trimChars (gap ++ argument)) := by
  obtain ⟨c, blanks, rfl⟩ := List.exists_cons_of_ne_nil isGap.present
  have first : isBlank c = true := isGap.blank c (.head _)
  have marked : afterKeyword? ['d', 'i', 's', 't', 'i', 'n', 'c', 't'] (trimStart s) =
      some (c :: (blanks ++ argument)) :=
    afterKeyword?_eq_some_iff.2 ⟨word, parts, beq_iff_eq.1 keyword⟩
  have cut : trimChars (c :: (blanks ++ argument)) = trimChars (blanks ++ argument) := by
    simp [trimChars, trimStart, first]
  unfold splitDistinct
  dsimp only
  rw [marked, List.cons_append, cut]
  exact if_pos first

/-- The argument of a call is found among the blanks around it. -/
theorem splitDistinct_of_isOpening {distinct : Bool} {opening argument after : List Char}
    (isOpening : IsOpening distinct opening) (trimmed : trimChars argument = argument)
    (isAfter : ∀ c ∈ after, isBlank c = true)
    (unmarked : distinct = false → IsUnmarked (argument ++ after)) :
    splitDistinct (opening ++ (argument ++ after)) = (distinct, argument) := by
  have cut {blanks : List Char} (blank : ∀ c ∈ blanks, isBlank c = true) :
      trimChars (blanks ++ (argument ++ after)) = argument := by
    have padded : Padded argument (blanks ++ (argument ++ after)) :=
      ⟨blanks, after, List.all_eq_true.2 blank, List.all_eq_true.2 isAfter, by simp⟩
    rw [padded.trimChars_eq, trimmed]
  cases isOpening with
  | blanks blank =>
    have start : IsUnmarked (trimStart (opening ++ (argument ++ after))) := by
      rw [trimStart, List.dropWhile_append_of_pos blank]
      cases argument with
      | nil =>
        rw [List.nil_append, List.dropWhile_eq_nil_iff.2 isAfter]
        intro c rest marked
        cases marked
      | cons c s =>
        have present := isBlank_of_trimChars_eq_self trimmed
        rw [List.cons_append, List.dropWhile_cons_of_neg (by simp [present])]
        exact unmarked rfl
    rw [splitDistinct_of_isUnmarked start, cut blank]
  | @distinct blanks word gap blank keyword isGap =>
    have identifier := isFoldedIdentifier_of_isKeyword keyword rfl
    have start : trimStart (blanks ++ (word ++ gap) ++ (argument ++ after)) =
        word ++ (gap ++ (argument ++ after)) := by
      rw [List.append_assoc, List.append_assoc]
      exact trimStart_blanks_append blank identifier _
    rw [splitDistinct_of_marked keyword isGap start, cut isGap.blank]

theorem IsOutputText.head? {output : Option String} {s : List Char}
    (isOutput : IsOutputText output s) : s.head?.all isBlank = true := by
  cases isOutput with
  | absent blank =>
    cases s with
    | nil => rfl
    | cons c s => exact blank c (.head _)
  | named isGap => exact isGap.head? _

/-- An output name is read as two words, `AS` and the name, and without one there is none. -/
theorem IsOutputText.words {output : Option String} {s : List Char}
    (isOutput : IsOutputText output s) :
    output = none ∧ words s = [] ∨ ∃ keyword name, output = some (String.ofList name) ∧
      words s = [keyword, name] ∧ isKeyword ['a', 's'] keyword = true ∧
      isFoldedIdentifier name = true := by
  cases isOutput with
  | absent blank =>
    left
    have none := words_append_blanks [] blank
    exact ⟨rfl, none⟩
  | @named gap keyword between name blanks isGap isAs isBetween identifier blank =>
    right
    refine ⟨keyword, name, rfl, ?_, isAs, identifier⟩
    have isLast : blanks.head?.all isBlank = true := (IsOutputText.absent blank).head?
    have none : Text.words blanks = [] := words_append_blanks [] blank
    rw [isGap.words_append (isFoldedIdentifier_of_isKeyword isAs rfl) (isBetween.head? _),
      isBetween.words_append identifier isLast, none]

/-- A modifier and an output name are read in whatever way they are written. -/
theorem readTail?_of_isTailText {modifier output : Option String} {s : List Char}
    (isTail : IsTailText modifier output s) : readTail? s = some (modifier, output) := by
  cases isTail with
  | plain isOutput =>
    have apart := isOutput.head?
    rcases isOutput.words with ⟨rfl, words⟩ | ⟨keyword, name, rfl, words, isAs, identifier⟩
    · simp [readTail?, apart, words]
    · simp [readTail?, apart, words, isAs, identifier]
  | @modified output gap word rest isGap identifier isOutput =>
    have apart := isGap.head? (word ++ rest)
    have first := isGap.words_append identifier isOutput.head?
    rcases isOutput.words with ⟨rfl, words⟩ | ⟨keyword, name, rfl, words, isAs, named⟩
    · unfold readTail?
      rw [if_pos apart, first, words]
      simp [identifier]
    · unfold readTail?
      rw [if_pos apart, first, words]
      simp [isAs, identifier, named]

/-! ## Parentheses -/

theorem isParenthesis_of_isBlank {c : Char} (blank : isBlank c = true) :
    isParenthesis c = false := by
  rw [← Bool.not_eq_true]
  intro parenthesis
  simp only [isParenthesis, Bool.or_eq_true, beq_iff_eq] at parenthesis
  rcases parenthesis with rfl | rfl <;> cases blank

theorem isParenthesis_of_isFoldedIdentifier {s : List Char}
    (identifier : isFoldedIdentifier s = true) {c : Char} (member : c ∈ s) :
    isParenthesis c = false := by
  rw [← Bool.not_eq_true]
  intro parenthesis
  have name := isNameChar_of_isFoldedIdentifier identifier member
  simp only [isParenthesis, Bool.or_eq_true, beq_iff_eq] at parenthesis
  rcases parenthesis with rfl | rfl <;> cases name

/-- What stands between the opening parenthesis and the argument has no parenthesis of its own. -/
theorem isParenthesis_of_isOpening {distinct : Bool} {opening : List Char}
    (isOpening : IsOpening distinct opening) : ∀ c ∈ opening, isParenthesis c = false := by
  intro c member
  cases isOpening with
  | blanks blank => exact isParenthesis_of_isBlank (blank c member)
  | distinct blank keyword isGap =>
    have identifier := isFoldedIdentifier_of_isKeyword keyword rfl
    rcases List.mem_append.1 member with inBlanks | rest
    · exact isParenthesis_of_isBlank (blank c inBlanks)
    · rcases List.mem_append.1 rest with inWord | inGap
      · exact isParenthesis_of_isFoldedIdentifier identifier inWord
      · exact isParenthesis_of_isBlank (isGap.blank c inGap)

/-- A tail that is read has words of identifier characters only. -/
theorem isFoldedIdentifier_of_readTail? {s : List Char} {tail : Option String × Option String}
    (read : readTail? s = some tail) : ∀ word ∈ words s, isFoldedIdentifier word = true := by
  unfold readTail? at read
  split at read
  case isFalse => cases read
  case isTrue =>
  split at read
  case h_1 none => simp [none]
  case h_2 word one =>
    split at read
    case isFalse => cases read
    case isTrue identifier => simpa [one] using identifier
  case h_3 keyword name two =>
    split at read
    case isFalse => cases read
    case isTrue named =>
      have isAs := isFoldedIdentifier_of_isKeyword named.1 rfl
      simp [two, isAs, named.2]
  case h_4 word keyword name three =>
    split at read
    case isFalse => cases read
    case isTrue named =>
      have isAs := isFoldedIdentifier_of_isKeyword named.2.1 rfl
      simp [three, named.1, isAs, named.2.2]
  case h_5 => cases read

theorem isParenthesis_of_readTail? {s : List Char} {tail : Option String × Option String}
    (read : readTail? s = some tail) {c : Char} (member : c ∈ s) : isParenthesis c = false := by
  cases blank : isBlank c with
  | true => exact isParenthesis_of_isBlank blank
  | false =>
    obtain ⟨word, isWord, inside⟩ := exists_mem_words member blank
    exact isParenthesis_of_isFoldedIdentifier
      (isFoldedIdentifier_of_readTail? read word isWord) inside

/-- A column has one pair of parentheses at most. -/
theorem countP_isParenthesis_of_read? {s : List Char} {c : Column} (read : read? s = some c) :
    s.countP isParenthesis ≤ 2 := by
  obtain ⟨head, rest, modifier, output, isHead, isTail, -, -⟩ := read?_eq_some_iff.1 read
  have noneIn {t : List Char} (free : ∀ c ∈ t, isParenthesis c = false) :
      t.countP isParenthesis = 0 := List.countP_eq_zero.2 fun c member => by simp [free c member]
  have behind := noneIn fun c => isParenthesis_of_readTail? isTail (c := c)
  have before := noneIn fun c member => isParenthesis_of_isBlank
    (List.mem_takeWhile_imp (l := s) (p := isBlank) member)
  have parts : s.countP isParenthesis = (trimStart s).countP isParenthesis := by
    have whole := List.takeWhile_append_dropWhile (p := isBlank) (l := s)
    rw [← whole, List.countP_append, before, Nat.zero_add, whole]
    rfl
  rcases (Option.orElse_eq_some _ _ _).1 isHead with call | ⟨-, name⟩
  · obtain ⟨function, gap, inner, identifier, blank, free, text, -⟩ :=
      readCall?_eq_some_iff.1 call
    have isFunction := noneIn fun c => isParenthesis_of_isFoldedIdentifier identifier (c := c)
    have isGap := noneIn fun c member => isParenthesis_of_isBlank (blank c member)
    rw [parts, text]
    simp [List.countP_append, isFunction, isGap, noneIn free, behind, isParenthesis]
  · obtain ⟨name, -, plain, -, text, -⟩ := readName?_eq_some_iff.1 name
    have isName := noneIn fun c member => by
      have := plain c member
      simp only [isPlain, Bool.and_eq_true, Bool.not_eq_true'] at this
      exact this.2
    rw [parts, text, List.countP_append, isName, behind]
    exact Nat.zero_le 2

/-! ## Reading a call -/

/-- The argument is seen to be an expression: it is empty, or has a space, a tab, a comma or a
parenthesis. -/
def IsSeenExpression (argument : List Char) : Prop :=
  argument = [] ∨ ∃ c ∈ argument, c = ' ' ∨ c = '\t' ∨ c = ',' ∨ c = '(' ∨ c = ')'

/-- The argument names a column, or all columns, possibly of a table. -/
def IsColumnName (argument : List Char) : Prop :=
  isIdentifier argument = true ∨ argument = ['*'] ∨ ∃ table column,
    argument = table ++ '.' :: column ∧ isIdentifier table = true ∧
    (isIdentifier column = true ∨ column = ['*'])

/-- An argument is seen to be an expression for its blanks and commas, or for a parenthesis in it.
-/
theorem isSeenExpression_iff {argument : List Char} :
    IsSeenExpression argument ↔
      isCompound argument = true ∨ ∃ c ∈ argument, isParenthesis c = true := by
  simp only [IsSeenExpression, isCompound, isParenthesis, Bool.or_eq_true, List.isEmpty_iff,
    List.any_eq_true, beq_iff_eq]
  constructor
  · rintro (empty | ⟨c, member, rfl | rfl | rfl | parenthesis⟩)
    · exact .inl (.inl empty)
    · exact .inl (.inr ⟨_, member, by simp⟩)
    · exact .inl (.inr ⟨_, member, by simp⟩)
    · exact .inl (.inr ⟨_, member, by simp⟩)
    · exact .inr ⟨c, member, parenthesis⟩
  · rintro ((empty | ⟨c, member, separator⟩) | ⟨c, member, parenthesis⟩)
    · exact .inl empty
    · exact .inr ⟨c, member, by rcases separator with (rfl | rfl) | rfl <;> simp⟩
    · exact .inr ⟨c, member, by simp [parenthesis]⟩

theorem splitQualified?_eq_none {argument : List Char} (notName : ¬IsColumnName argument) :
    splitQualified? (String.ofList argument) = none := by
  unfold splitQualified?
  dsimp only
  rw [String.toList_ofList]
  split
  case h_1 column after =>
    split
    case isTrue parts =>
      simp only [Bool.and_eq_true, Bool.or_eq_true, beq_iff_eq] at parts
      have whole := List.takeWhile_append_dropWhile (p := (· != '.')) (l := argument)
      rw [after] at whole
      exact absurd (.inr (.inr ⟨_, column, whole.symm, parts⟩)) notName
    case isFalse => rfl
  case h_2 => rfl

namespace CallText

variable (t : CallText)

theorem trimStart_text : trimStart t.text.toList = t.called := by
  rw [text, String.toList_ofList]
  exact trimStart_blanks_append t.isBefore t.isFunction _

/-- An argument with a parenthesis is not one of a column. -/
theorem read?_text_eq_none {c : Char} (member : c ∈ t.argument)
    (parenthesis : isParenthesis c = true) : read? t.text.toList = none := by
  rw [Option.eq_none_iff_forall_ne_some]
  intro column read
  -- The call has a pair of its own, so that another parenthesis is one more than a column can have.
  have atMost := countP_isParenthesis_of_read? read
  have inside : 0 < t.argument.countP isParenthesis :=
    List.countP_pos_iff.2 ⟨c, member, parenthesis⟩
  have pair : isParenthesis '(' = true ∧ isParenthesis ')' = true := by decide
  rw [text, String.toList_ofList] at atMost
  simp only [called, inner, List.countP_append, List.countP_cons, pair.1, pair.2, if_true] at atMost
  omega

/-- The head of a call is read up to its closing parenthesis. -/
theorem readHead?_called (free : ∀ c ∈ t.argument, isParenthesis c = false) :
    readHead? t.called = some (t.head, t.tail) := by
  have inner : ∀ c ∈ t.inner, isParenthesis c = false := by
    intro c member
    rcases List.mem_append.1 member with inOpening | rest
    · exact isParenthesis_of_isOpening t.isOpening c inOpening
    · rcases List.mem_append.1 rest with inArgument | inAfter
      · exact free c inArgument
      · exact isParenthesis_of_isBlank (t.isAfter c inAfter)
  have parts : splitDistinct t.inner = (t.distinct, t.argument) :=
    splitDistinct_of_isOpening t.isOpening t.trimmed t.isAfter t.unmarked
  refine (Option.orElse_eq_some _ _ _).2 (.inl (readCall?_eq_some_iff.2 ?_))
  exact ⟨t.function, t.gap, t.inner, t.isFunction, t.isGap, inner, rfl, by rw [parts]; rfl⟩

/-- A call on an expression that is seen to be one is a verbatim column. -/
theorem parse_text_of_isSeenExpression (isSeen : IsSeenExpression t.argument) :
    parse t.text = ⟨none, .verbatim (trim t.text)⟩ := by
  have unread : read? t.text.toList = none := by
    by_cases parenthesis : ∃ c ∈ t.argument, isParenthesis c = true
    case pos =>
      obtain ⟨c, member, isParenthesis⟩ := parenthesis
      exact t.read?_text_eq_none member isParenthesis
    case neg =>
      have compound : isCompound t.argument = true :=
        (isSeenExpression_iff.1 isSeen).resolve_right parenthesis
      have free : ∀ c ∈ t.argument, isParenthesis c = false := by simpa using parenthesis
      rw [Option.eq_none_iff_forall_ne_some]
      intro column read
      obtain ⟨head, rest, -, -, isHead, -, named, -⟩ := read?_eq_some_iff.1 read
      rw [t.trimStart_text, t.readHead?_called free] at isHead
      obtain ⟨rfl, -⟩ := Prod.mk.inj (Option.some.inj isHead)
      exact named ⟨rfl, compound⟩
  rw [parse, unread]
  rfl

/-- A call on any other argument is a column with that name. -/
theorem parse_text (unseen : ¬IsSeenExpression t.argument) :
    parse t.text = t.head.column t.modifier t.output := by
  rw [isSeenExpression_iff, not_or] at unseen
  have free : ∀ c ∈ t.argument, isParenthesis c = false := by simpa using unseen.2
  have isHead := t.readHead?_called free
  rw [← t.trimStart_text] at isHead
  have named : t.head.NamesColumn := fun compound => unseen.1 compound.2
  have read := read?_eq_some_iff.2 ⟨t.head, t.tail, t.modifier, t.output, isHead,
    readTail?_of_isTailText t.isTail, named, rfl⟩
  rw [parse, read]
  rfl

/-- The call as it is printed on the given argument. -/
def printed (argument : String) : String :=
  String.ofList
    ((Head.mk t.head.application argument.toList).written ++ writtenTail t.modifier t.output)

/-- Where the argument is no column's name and is not seen to be an expression, the qualifier is put
before it. -/
theorem render_parse_text (expression : ¬IsColumnName t.argument)
    (unseen : ¬IsSeenExpression t.argument) (q : String) :
    (parse t.text).render (some q) = t.printed (q ++ "." ++ String.ofList t.argument) := by
  have noStar : String.ofList t.argument ≠ "*" := by
    intro star
    have isStar : t.argument = ['*'] := by simpa using congrArg String.toList star
    exact expression (.inr (.inl isStar))
  have column : t.head.column t.modifier t.output =
      ⟨none, .named ⟨t.head.application, String.ofList t.argument, t.modifier, t.output⟩⟩ := by
    have unsplit : splitQualified? (String.ofList t.head.argument) = none :=
      splitQualified?_eq_none expression
    rw [Head.column, unsplit]
    rfl
  rw [t.parse_text unseen, column]
  exact render_some none noStar q

/-- A call is a verbatim column exactly if its argument is seen to be an expression. -/
theorem isVerbatim_parse_iff :
    (parse t.text).isVerbatim = true ↔ IsSeenExpression t.argument := by
  by_cases isSeen : IsSeenExpression t.argument
  case pos =>
    rw [t.parse_text_of_isSeenExpression isSeen]
    exact iff_of_true rfl isSeen
  case neg =>
    obtain ⟨table, name, column⟩ := exists_column_eq t.head t.modifier t.output
    rw [t.parse_text isSeen, column]
    exact iff_of_false nofun isSeen

end CallText

/-! ## Where qualifiers are put -/

/-- What has been read as the name of a column has no space, tab or parenthesis. -/
theorem Head.unspaced {head : Head} (isRead : head.IsRead) (named : head.NamesColumn) :
    head.argument ≠ [] ∧
      ∀ c ∈ head.argument, c ≠ ' ' ∧ c ≠ '\t' ∧ isParenthesis c = false := by
  obtain ⟨application, argument⟩ := head
  cases application with
  | some a =>
    have single : ¬isCompound argument = true := fun compound => named ⟨rfl, compound⟩
    obtain ⟨-, free, -⟩ := isRead
    simp only [isCompound, Bool.or_eq_true, List.isEmpty_iff, List.any_eq_true, beq_iff_eq,
      not_or] at single
    refine ⟨single.1, fun c member => ⟨?_, ?_, free c member⟩⟩
    · rintro rfl
      exact single.2 ⟨' ', member, by simp⟩
    · rintro rfl
      exact single.2 ⟨'\t', member, by simp⟩
  | none =>
    obtain ⟨present, plain⟩ := isRead
    refine ⟨present, fun c member => ?_⟩
    have plain := plain c member
    simp only [isPlain, Bool.and_eq_true, Bool.not_eq_true'] at plain
    refine ⟨?_, ?_, plain.2⟩ <;> rintro rfl <;> cases plain.1

/-- A column that is read has a name without spaces and parentheses. -/
theorem unspaced_name_column {head : Head} (isRead : head.IsRead) (named : head.NamesColumn)
    (modifier output : Option String) :
    (head.column modifier output).name ≠ "" ∧
      ∀ c ∈ (head.column modifier output).name.toList,
        c ≠ ' ' ∧ c ≠ '\t' ∧ isParenthesis c = false := by
  obtain ⟨present, unspaced⟩ := Head.unspaced isRead named
  unfold Head.column
  cases parts : splitQualified? (String.ofList head.argument) with
  | none =>
    change String.ofList head.argument ≠ "" ∧ ∀ c ∈ (String.ofList head.argument).toList, _
    rw [String.toList_ofList]
    exact ⟨by simpa using present, unspaced⟩
  | some names =>
    obtain ⟨table, name⟩ := names
    have whole := congrArg String.toList (eq_of_splitQualified? parts)
    rw [String.toList_ofList, String.toList_append] at whole
    refine ⟨(ne_empty_of_splitQualified? parts).2, fun c member => unspaced c ?_⟩
    rw [whole]
    exact List.mem_append_right _ member

/-- A qualifier changes nothing, or it is put before the name of the column and nothing else is
changed. -/
theorem render_some_cases (c : Column) (q : String) :
    c.render (some q) = c.render none ∨ c.name ≠ "*" ∧ ∃ before after,
      c.render none = before ++ c.name ++ after ∧
      c.render (some q) = before ++ (q ++ "." ++ c.name) ++ after := by
  obtain ⟨table, body⟩ := c
  cases body with
  | verbatim sql => exact .inl rfl
  | named column =>
    by_cases star : column.name = "*"
    case pos =>
      left
      simp [render, isStar, name, star]
    case neg =>
      right
      refine ⟨star, column.opening, column.closing, rfl, ?_⟩
      simp [render, isStar, name, star]

/-- A call on something that is no column's name is printed as it was written, whatever qualifier is
asked for, if the argument is empty or has a space, a tab, a comma or a parenthesis.  Otherwise the
argument is taken for a name, and gets the qualifier.  And whatever a column was read from, the
qualifier stands directly before what was taken for its name, which is neither empty nor a star and
has no space, tab or parenthesis. -/
theorem render_parse_callText {t : CallText} (expression : ¬IsColumnName t.argument) :
    ((parse t.text).isVerbatim = true ↔ IsSeenExpression t.argument) ∧
    (IsSeenExpression t.argument → ∀ q, (parse t.text).render q = trim t.text) ∧
    (¬IsSeenExpression t.argument → ∀ q,
      (parse t.text).render (some q) = t.printed (q ++ "." ++ String.ofList t.argument)) ∧
    ∀ spec q, (parse spec).render (some q) = (parse spec).render none ∨
      ∃ before name after,
        (parse spec).render none = before ++ name ++ after ∧
        (parse spec).render (some q) = before ++ (q ++ "." ++ name) ++ after ∧
        name ≠ "" ∧ name ≠ "*" ∧
        ∀ c ∈ name.toList, c ≠ ' ' ∧ c ≠ '\t' ∧ isParenthesis c = false := by
  refine ⟨t.isVerbatim_parse_iff, fun isSeen q => ?_, t.render_parse_text expression,
    fun spec q => ?_⟩
  · rw [t.parse_text_of_isSeenExpression isSeen]
    rfl
  · rcases render_some_cases (parse spec) q with same | ⟨noStar, before, after, plain, qualified⟩
    · exact .inl same
    · rcases parse_cases spec with ⟨head, modifier, output, isRead, named, -, column⟩ | verbatim
      · have unspaced := unspaced_name_column isRead named modifier output
        rw [← column] at unspaced
        exact .inr ⟨before, (parse spec).name, after, plain, qualified, unspaced.1, noStar,
          unspaced.2⟩
      · rw [verbatim]
        exact .inl rfl

/-- What is neither an identifier, nor dotted, nor a star is no column. -/
theorem not_isColumnName {argument : List Char} (dotless : '.' ∉ argument)
    (unnamed : isIdentifier argument = false) (noStar : argument ≠ ['*']) :
    ¬IsColumnName argument := by
  rintro (identifier | star | ⟨table, column, parts, -, -⟩)
  · rw [unnamed] at identifier
    cases identifier
  · exact noStar star
  · rw [parts] at dotless
    exact dotless (by simp)

/-- A sum over an expression, spread out and with a modifier and an output name. -/
def spacedSum : CallText where
  before := " ".toList
  function := "sum".toList
  gap := " ".toList
  distinct := true
  opening := "\n".toList ++ ("distinct".toList ++ "  ".toList)
  argument := "price * (qty + 1)".toList
  after := " ".toList
  modifier := modifierOf "desc".toList
  output := some (String.ofList "total".toList)
  tail := "  ".toList ++ ("desc".toList ++ (" ".toList ++ ("As".toList ++ (" ".toList ++
    ("total".toList ++ "\t".toList)))))
  isBefore := List.all_eq_true.1 rfl
  isFunction := by decide
  isGap := List.all_eq_true.1 rfl
  isOpening := .distinct (List.all_eq_true.1 rfl) (by decide) ⟨by decide, List.all_eq_true.1 rfl⟩
  trimmed := by decide
  isAfter := List.all_eq_true.1 rfl
  unmarked := nofun
  isTail := .modified ⟨by decide, List.all_eq_true.1 rfl⟩ (by decide)
    (.named ⟨by decide, List.all_eq_true.1 rfl⟩ (by decide)
      ⟨by decide, List.all_eq_true.1 rfl⟩ (by decide) (List.all_eq_true.1 rfl))

theorem render_parse_spacedSum :
    ¬IsColumnName spacedSum.argument ∧ (parse spacedSum.text).isVerbatim = true ∧
      (parse spacedSum.text).render (some "T0") =
        "sum (\ndistinct  price * (qty + 1) )  desc As total" := by
  have expression : ¬IsColumnName spacedSum.argument :=
    not_isColumnName (by decide) (by decide) (by decide)
  have isSeen : IsSeenExpression spacedSum.argument := .inr ⟨' ', by decide, .inl rfl⟩
  obtain ⟨verbatim, unchanged, -⟩ := render_parse_callText expression
  have trimmed : trim spacedSum.text = "sum (\ndistinct  price * (qty + 1) )  desc As total" := by
    decide +kernel
  exact ⟨expression, verbatim.2 isSeen, (unchanged isSeen _).trans trimmed⟩

/-- A sum over an expression without spaces, and nothing around it. -/
def denseSum : CallText where
  before := []
  function := "SUM".toList
  gap := []
  distinct := false
  opening := []
  argument := "price*qty".toList
  after := []
  modifier := none
  output := none
  tail := []
  isBefore := nofun
  isFunction := by decide
  isGap := nofun
  isOpening := .blanks nofun
  trimmed := by decide
  isAfter := nofun
  unmarked := fun _ _ _ marked => by cases marked
  isTail := .plain (.absent nofun)

/-- A product that is written without spaces is taken for a column's name. -/
theorem render_parse_denseSum :
    denseSum.text = "SUM(price*qty)" ∧ ¬IsColumnName denseSum.argument ∧
      (parse denseSum.text).isVerbatim = false ∧
      (parse denseSum.text).render (some "T0") = "SUM(T0.price*qty)" :=
  ⟨rfl, not_isColumnName (by decide) (by decide) (by decide), by decide +kernel, by decide +kernel⟩

end Column

end SqlQuery
