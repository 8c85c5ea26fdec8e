import SqlQuery.Text.Blank

/-!
Identifiers, names of the form `table.column`, and keywords.

An identifier is a letter or underscore followed by letters, digits and underscores. Where letter
case is ignored it is ignored the Unicode way, by simple case folding: two characters outside ASCII,
the long s `ſ` and the Kelvin sign, fold to ASCII letters and count as letters there.
-/

namespace SqlQuery.Text

/-- An ASCII letter or the underscore. -/
def isLetter (c : Char) : Bool := c.isAlpha || c == '_'

/-- An ASCII letter, the underscore or a digit. -/
def isNameChar (c : Char) : Bool := isLetter c || c.isDigit

/-- A letter or underscore, then letters, underscores and digits; ASCII alone. -/
def isIdentifier : List Char → Bool
  | [] => false
  | c :: s => isLetter c && s.all isNameChar

/-- A name `table.column` in its two parts, where the table is an identifier and the column is one
or a star. Any other text has no such parts. -/
def splitQualified? (s : String) : Option (String × String) :=
  let table := s.toList.takeWhile (· != '.')
  match s.toList.dropWhile (· != '.') with
  | '.' :: column =>
    if isIdentifier table && (isIdentifier column || column == ['*']) then
      some (String.ofList table, String.ofList column)
    else
      none
  | _ => none

/-! ## Ignoring case -/

/-- Simple case folding, as far as its results are ASCII letters: capitals become small letters,
`ſ` becomes `s` and the Kelvin sign becomes `k`. Other characters stay. -/
def fold (c : Char) : Char :=
  if c = '\u017F' then 's' else if c = '\u212A' then 'k' else c.toLower

/-- An identifier up to case folding. -/
def isFoldedIdentifier (s : List Char) : Bool := isIdentifier (s.map fold)

/-- The text is the given keyword, written in small letters, up to case folding. -/
def isKeyword (keyword s : List Char) : Bool := s.map fold == keyword

/-- What follows the given keyword at the start of a text, up to case folding. -/
def afterKeyword? : List Char → List Char → Option (List Char)
  | [], s => some s
  | _ :: _, [] => none
  | k :: keyword, c :: s => if fold c = k then afterKeyword? keyword s else none

/-- A keyword is followed by exactly what stands after as many characters as it has, if those fold
to it. -/
theorem afterKeyword?_eq_some_iff {keyword s rest : List Char} :
    afterKeyword? keyword s = some rest ↔ ∃ w, s = w ++ rest ∧ w.map fold = keyword := by
  induction keyword generalizing s with
  | nil => simp [afterKeyword?]
  | cons k keyword ih =>
    cases s with
    | nil =>
      simp only [afterKeyword?, reduceCtorEq, false_iff, not_exists, not_and]
      intro w h
      simp [(List.append_eq_nil_iff.1 h.symm).1]
    | cons c s =>
      simp only [afterKeyword?]
      split
      · rename_i h
        rw [ih]
        constructor
        · rintro ⟨w, rfl, rfl⟩
          exact ⟨c :: w, rfl, by simp [h]⟩
        · rintro ⟨w, hw, hk⟩
          cases w with
          | nil => simp at hk
          | cons d w =>
            simp only [List.cons_append, List.cons.injEq, List.map_cons] at hw hk
            exact ⟨w, hw.2, hk.2⟩
      · rename_i h
        simp only [reduceCtorEq, false_iff, not_exists, not_and]
        intro w hw hk
        cases w with
        | nil => simp at hk
        | cons d w =>
          simp only [List.cons_append, List.cons.injEq, List.map_cons] at hw hk
          exact h (by rw [hw.1]; exact hk.1)

end SqlQuery.Text
