import Mathlib.Data.List.DropRight
import SqlQuery.Proofs.TextReader

/-!
Where a quoted literal ends.

A reader that starts at the opening quote of a string reads what was escaped and stops behind the
closing quote (`Text.readString?_quoted`), so no two texts have the same literal.  The literal
itself has no quote that could be taken for the closing one: each has an odd number of backslashes
before it (`Text.Escapes.quotesAreEscaped`), and the characters that may not stand in a string as
they are have given way to letters.
-/

namespace SqlQuery

namespace Text

/-! ## Reading a string from its opening quote -/

/-- The string that a text starts with, and what follows its closing quote. -/
def readString? (s : String) : Option (String × String) :=
  match s.toList with
  | '\x27' :: inside =>
    (readQuoted? ([unescape ·]) inside).map fun (read, rest) =>
      (String.ofList read, String.ofList rest)
  | _ => none

/-- An escaped text in quotes is read up to its closing quote, as long as there is no other quote
behind that. -/
theorem readString?_quoted {escaped rest : String} {s : List Char}
    (escapes : Escapes escaped.toList s) (ends : rest.toList.head? ≠ some '\x27') :
    readString? ("'" ++ escaped ++ "'" ++ rest) = some (String.ofList s, rest) := by
  have parts : ("'" ++ escaped ++ "'" ++ rest).toList =
      '\x27' :: (escaped.toList ++ '\x27' :: rest.toList) := by simp
  simp only [readString?, parts, readQuoted?_of_escapes unescapes_unescape escapes ends,
    Option.map_some, String.ofList_toList]

/-! ## Quotes inside a literal -/

/-- A character behind the text is escaped: the backslashes at the end of the text are odd in
number, so that the last of them is not escaped itself. -/
def EscapesNext (before : List Char) : Prop :=
  (before.rtakeWhile (· == '\\')).length % 2 = 1

/-- Every quote of the text is escaped. -/
def QuotesAreEscaped (s : List Char) : Prop :=
  ∀ before after, s = before ++ '\x27' :: after → EscapesNext before

/-- Only a backslash escapes, and it does so where it is not escaped itself. -/
theorem escapesNext_append_singleton {before : List Char} {c : Char} :
    EscapesNext (before ++ [c]) ↔ c = '\\' ∧ ¬EscapesNext before := by
  unfold EscapesNext
  rw [List.rtakeWhile_concat]
  by_cases backslash : c = '\\'
  · simp only [backslash, beq_self_eq_true, if_true, List.length_append, List.length_singleton,
      true_and]
    omega
  · simp [backslash]

/-- The quotes of an escaped text are escaped wherever it stands, unless the text before it escapes
its first character. -/
theorem Escapes.escapesNext {escaped s : List Char} (escapes : Escapes escaped s)
    {start : List Char} (free : ¬EscapesNext start) {before after : List Char}
    (parts : escaped = before ++ '\x27' :: after) : EscapesNext (start ++ before) := by
  induction escapes generalizing start before with
  | nil => exact absurd parts (by simp)
  | @alone c escaped s quote backslash _ ih =>
    cases before with
    | nil => exact absurd (List.cons.inj parts).1 quote
    | cons d before =>
      rw [List.cons_append, List.cons.injEq] at parts
      obtain ⟨rfl, parts⟩ := parts
      have free : ¬EscapesNext (start ++ [c]) := fun next =>
        backslash (escapesNext_append_singleton.1 next).1
      simpa using ih free parts
  | @behind c escaped s _ _ _ ih =>
    have opened : EscapesNext (start ++ ['\\']) := escapesNext_append_singleton.2 ⟨rfl, free⟩
    -- The quote is the character behind the backslash, or it stands behind both.
    rcases before with - | ⟨d, - | ⟨e, before⟩⟩
    · exact absurd (List.cons.inj parts).1 (by decide)
    · rw [List.cons_append, List.cons.injEq] at parts
      obtain ⟨rfl, -⟩ := parts
      exact opened
    · simp only [List.cons_append, List.cons.injEq] at parts
      obtain ⟨rfl, rfl, parts⟩ := parts
      have free : ¬EscapesNext (start ++ ['\\'] ++ [c]) := fun next =>
        (escapesNext_append_singleton.1 next).2 opened
      simpa using ih free parts

theorem not_escapesNext_nil : ¬EscapesNext [] := by simp [EscapesNext]

theorem Escapes.quotesAreEscaped {escaped s : List Char} (escapes : Escapes escaped s) :
    QuotesAreEscaped escaped := fun _ _ parts => escapes.escapesNext not_escapesNext_nil parts

end Text

namespace Escaper

/-! ## Characters that do not stand for themselves -/

/-- A character that has no place inside a string: NUL, line feed, carriage return or Ctrl-Z. -/
def IsForbidden (c : Char) : Prop := c = '\x00' ∨ c = '\n' ∨ c = '\r' ∨ c = '\x1a'

instance (c : Char) : Decidable (IsForbidden c) :=
  inferInstanceAs (Decidable (_ ∨ _ ∨ _ ∨ _))

theorem unescape_of_isForbidden {c : Char} (forbidden : IsForbidden c) : Text.unescape c = c := by
  rcases forbidden with rfl | rfl | rfl | rfl <;> rfl

theorem notMem_backslashed_of_isForbidden {c : Char} (forbidden : IsForbidden c) :
    c ∉ backslashed c := by
  rcases forbidden with rfl | rfl | rfl | rfl <;> decide

theorem not_isForbidden_of_mem_backslashed {c d : Char} (member : d ∈ backslashed c) :
    ¬IsForbidden d := by
  intro forbidden
  -- Behind a backslash the character would stand for itself, so it had to be escaped as itself.
  have same : d = c := by
    rcases Text.backslashed_cases c with ⟨alone, -⟩ | ⟨letter, behind, stands, -⟩
    · rwa [alone, List.mem_singleton] at member
    · rw [behind, List.mem_cons, List.mem_singleton] at member
      rcases member with rfl | rfl
      · exact absurd forbidden (by decide)
      · rw [← stands, unescape_of_isForbidden forbidden]
  rw [same] at member forbidden
  exact notMem_backslashed_of_isForbidden forbidden member

/-- A literal has no character that has no place inside a string. -/
theorem not_isForbidden_of_mem_literal {s : String} {c : Char}
    (member : c ∈ (mysql.literal s).toList) : ¬IsForbidden c := by
  rw [toList_mysql_literal] at member
  obtain ⟨d, -, written⟩ := List.mem_flatMap.1 member
  exact not_isForbidden_of_mem_backslashed written

/-- An escaped text in quotes, before anything but another quote, is read as the text, up to the
second of these quotes and no further.  So a literal is that of one text only, and it has neither a
quote that is not escaped nor a character that has no place inside a string. -/
theorem readString?_literal (s : String) {rest : String}
    (ends : rest.toList.head? ≠ some '\x27') :
    Text.readString? ("'" ++ mysql.literal s ++ "'" ++ rest) = some (s, rest) ∧
      (∀ t, mysql.literal t = mysql.literal s → t = s) ∧
      Text.QuotesAreEscaped (mysql.literal s).toList ∧
      ∀ c ∈ (mysql.literal s).toList, ¬IsForbidden c := by
  have escapes (t : String) : Text.Escapes (mysql.literal t).toList t.toList := by
    rw [toList_mysql_literal]
    exact .backslashedChars t.toList
  have read (t : String) :
      Text.readString? ("'" ++ mysql.literal t ++ "'" ++ rest) = some (t, rest) := by
    have whole := Text.readString?_quoted (escapes t) ends
    rwa [String.ofList_toList] at whole
  refine ⟨read s, ?_, (escapes s).quotesAreEscaped, fun c => not_isForbidden_of_mem_literal⟩
  intro t same
  have readAlike := read t
  rw [same, read s] at readAlike
  exact (Prod.mk.inj (Option.some.inj readAlike)).1.symm

/-- The text ends with a backslash, and what follows its literal is another one. -/
theorem readString?_literal_trailingBackslash :
    ", '')".toList.head? ≠ some '\x27' ∧
      Text.readString? "'it\\'s in C:\\\\', '')" = some ("it's in C:\\", ", '')") := by
  have ends : ", '')".toList.head? ≠ some '\x27' := by decide
  have literal : mysql.literal "it's in C:\\" = "it\\'s in C:\\\\" := by decide
  have read := (readString?_literal "it's in C:\\" ends).1
  rw [literal] at read
  exact ⟨ends, read⟩

end Escaper

end SqlQuery
