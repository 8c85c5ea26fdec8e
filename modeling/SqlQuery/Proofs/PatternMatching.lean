import Mathlib.Data.List.Infix
import SqlQuery.Condition.Predicate
import SqlQuery.Proofs.TextReader

/-!
What the patterns of `LIKE` match.

A text in a pattern is escaped twice: its wildcards and backslashes are marked, so that the pattern
takes them as they are, and the pattern as a whole is escaped as a literal.  A database undoes the
two in turn.  `Text.constant?` reads a literal as the text that it stands for, and `Text.likes` says
which texts such a text matches as a pattern.

Escaping a text is undone by the reading, whatever the text is (`Text.constant?_quoted`), and a
marked text as part of a pattern matches itself and nothing else (`Text.likes_patternChars_append`).
So a comparison with a pattern asks whether the trimmed text is contained in another
(`Operand.likes_predicate?`).
-/

namespace SqlQuery

namespace Text

/-! ## String constants -/

/-- What a backslash and the character behind it stand for inside a string constant.  A backslash
before a wildcard stays, since it may be meant for the pattern that the constant is. -/
def unescaped (c : Char) : List Char := if c = '%' ∨ c = '_' then ['\\', c] else [unescape c]

/-- The text of a string constant in single quotes, which has to end where the given text ends. -/
def constant? : List Char → Option (List Char)
  | '\x27' :: s =>
    match readQuoted? unescaped s with
    | some (read, []) => some read
    | _ => none
  | _ => none

theorem unescapes_unescaped : Unescapes unescaped := by
  intro c percent underscore
  simp [unescaped, percent, underscore]

/-- A quoted escaped text is one constant, that very text. -/
theorem constant?_quoted (s : List Char) :
    constant? ('\x27' :: (Escaper.backslashedChars s ++ ['\x27'])) = some s := by
  have ends : ([] : List Char).head? ≠ some '\x27' := by simp
  have read := readQuoted?_of_escapes unescapes_unescaped (.backslashedChars s) ends
  simp [constant?, read]

/-! ## Patterns -/

/-- The pattern matches the text.  A `%` stands for any text and a `_` for any character, and a
backslash and the character behind it stand for that character.  Any other character stands for
itself, and so does a backslash at the end. -/
def likes : List Char → List Char → Bool
  | [], t => t.isEmpty
  | '%' :: p, t => t.tails.any (likes p)
  | '_' :: p, t => !t.isEmpty && likes p t.tail
  | '\\' :: c :: p, t => t.head? == some c && likes p t.tail
  | c :: p, t => t.head? == some c && likes p t.tail

/-- A marked text as the first part of a pattern matches that very text. -/
theorem likes_patternChars_append (s p t : List Char) :
    likes (Escaper.patternChars s ++ p) t = true ↔ ∃ rest, t = s ++ rest ∧ likes p rest = true := by
  induction s generalizing t with
  | nil => simp [Escaper.patternChars]
  | cons c s ih =>
    have first : likes (Escaper.patternChars (c :: s) ++ p) t =
        (t.head? == some c && likes (Escaper.patternChars s ++ p) t.tail) := by
      unfold Escaper.patternChars
      rw [List.flatMap_cons]
      split
      case isTrue => simp [likes]
      case isFalse plain =>
        simp only [not_or] at plain
        simp [likes, plain]
    rw [first, Bool.and_eq_true, beq_iff_eq, ih]
    cases t with
    | nil => simp
    | cons d t => simp [and_assoc]

theorem likes_any (t : List Char) : likes ['%'] t = true := by
  simp only [likes, List.any_eq_true, List.mem_tails]
  exact ⟨[], List.nil_suffix, rfl⟩

/-- A marked text between two wildcards matches the texts that contain it. -/
theorem likes_contained_iff (s t : List Char) :
    likes ('%' :: (Escaper.patternChars s ++ ['%'])) t = true ↔ s <:+: t := by
  simp only [likes, List.any_eq_true, List.mem_tails, likes_patternChars_append, likes_any,
    and_true]
  constructor
  · rintro ⟨_, ⟨before, rfl⟩, after, rfl⟩
    exact ⟨before, after, by simp⟩
  · rintro ⟨before, after, rfl⟩
    exact ⟨s ++ after, ⟨before, by simp⟩, after, rfl⟩

end Text

namespace Operand

/-- A text is written in a pattern in quotes, with wildcards around it and twice escaped. -/
theorem predicate?_of_pattern {c : Comparison} (pattern : c = .like ∨ c = .notLike) {s : String}
    (literal : Text.isSubquery s = false) :
    (Operand.single (.text s)).predicate? .mysql true (some c) =
      some (c.keyword ++ " " ++
        ("'" ++ ("%" ++ Escaper.mysql.pattern (Text.trim s) ++ "%") ++ "'")) := by
  rcases pattern with rfl | rfl <;>
    simp [predicate?, single?, literal?, pattern?, literal, Comparison.isNullCheck,
      Comparison.isRange, Comparison.isPattern, Comparison.isMembership, Value.isNull,
      Literal.contained, Literal.write]

/-- A text compared by `LIKE` or `NOT LIKE` is written behind the keyword as one string constant.
As a pattern, that constant matches the texts that contain the trimmed one. -/
theorem likes_predicate? {c : Comparison} (isPattern : c = .like ∨ c = .notLike) {v : String}
    (literal : Text.isSubquery v = false) :
    ∃ constant pattern,
      (Operand.single (.text v)).predicate? .mysql true (some c) =
        some (c.keyword ++ " " ++ constant) ∧
      Text.constant? constant.toList = some pattern ∧
      ∀ x : String, Text.likes pattern x.toList = true ↔ (Text.trim v).toList <:+: x.toList := by
  have escaped : ("'" ++ ("%" ++ Escaper.mysql.pattern (Text.trim v) ++ "%") ++ "'").toList =
      '\x27' :: (Escaper.backslashedChars
        ('%' :: (Escaper.patternChars (Text.trim v).toList ++ ['%'])) ++ ['\x27']) := by
    have wildcard : Escaper.backslashed '%' = ['%'] := by decide
    simp [Escaper.backslashedChars, wildcard]
  refine ⟨_, _, predicate?_of_pattern isPattern literal, ?_, fun x =>
    Text.likes_contained_iff (Text.trim v).toList x.toList⟩
  rw [escaped]
  exact Text.constant?_quoted _

/-- Wildcards, a quote and a last backslash in the text are found in others as they are. -/
theorem likes_predicate?_marked :
    Text.isSubquery " 5%_'\\ " = false ∧
      ∃ constant pattern,
        (Operand.single (.text " 5%_'\\ ")).predicate? .mysql true (some .notLike) =
          some ("NOT LIKE" ++ " " ++ constant) ∧
        Text.constant? constant.toList = some pattern ∧
        Text.likes pattern "<5%_'\\>".toList = true ∧ Text.likes pattern "<5%_'>".toList = false ∧
        Text.likes pattern "<50%_'\\>".toList = false := by
  have literal : Text.isSubquery " 5%_'\\ " = false := by decide
  obtain ⟨constant, pattern, written, read, contained⟩ := likes_predicate? (.inr rfl) literal
  refine ⟨literal, constant, pattern, written, read, ?_, ?_, ?_⟩
  · rw [contained]
    decide
  · rw [← Bool.not_eq_true, contained]
    decide
  · rw [← Bool.not_eq_true, contained]
    decide

example : (Operand.single (.text " 5%_'\\ ")).predicate? .mysql true (some .notLike) =
    some "NOT LIKE '%5\\\\%\\\\_\\'\\\\\\\\%'" := by decide

end Operand

end SqlQuery
