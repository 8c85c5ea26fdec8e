import SqlQuery.Proofs.DeclaredTables

/-!
Sub-queries and the parentheses around them.

A sub-query is written in parentheses, and those that it starts and ends with count as such.  In a
text with balanced parentheses `Text.behindGroup?` finds what stands behind the one that closes the
first.  Parentheses that are put around such a text enclose it (`Text.isEnclosed_parenthesized`),
and those that it starts and ends with do so unless they belong to two groups
(`Text.isEnclosed_iff_of_ends`), as in `(SELECT 1) UNION (SELECT 2)`.  So nothing but a text of this
form has a part outside the parentheses that it is written in (`Operand.isEnclosed_predicate?`).
-/

namespace SqlQuery

namespace Text

/-! ## Balanced parentheses -/

/-- The number of parentheses that are open at the end of a text, from the number of those that are
open at its start.  There is none if the text closes one that is not open. -/
def openAfter? (depth : Nat) : List Char → Option Nat
  | [] => some depth
  | c :: s =>
    if c = '(' then openAfter? (depth + 1) s
    else if c = ')' then
      match depth with
      | 0 => none
      | depth + 1 => openAfter? depth s
    else openAfter? depth s

/-- Every parenthesis of the text has its counterpart in it. -/
def IsBalanced (s : List Char) : Prop := openAfter? 0 s = some 0

instance (s : List Char) : Decidable (IsBalanced s) :=
  inferInstanceAs (Decidable (openAfter? 0 s = some 0))

theorem openAfter?_append (depth : Nat) (s t : List Char) :
    openAfter? depth (s ++ t) = (openAfter? depth s).bind (openAfter? · t) := by
  fun_induction openAfter? depth s with
  | case1 => rfl
  | case2 depth s ih => exact ih
  | case3 => rfl
  | case4 s _ depth ih => exact ih
  | case5 depth c s notOpening notClosing ih => simp [openAfter?, notOpening, notClosing, ih]

/-- Blanks open and close nothing. -/
theorem openAfter?_of_blank (depth : Nat) {s : List Char} (blank : ∀ c ∈ s, isBlank c = true) :
    openAfter? depth s = some depth := by
  induction s with
  | nil => rfl
  | cons c s ih =>
    have notOpening : c ≠ '(' := by
      rintro rfl
      cases blank '(' (.head _)
    have notClosing : c ≠ ')' := by
      rintro rfl
      cases blank ')' (.head _)
    have rest := ih fun d member => blank d (.tail _ member)
    simpa [openAfter?, notOpening, notClosing] using rest

/-- Only blanks are cut off a text. -/
theorem exists_append_trimChars (s : List Char) :
    ∃ before after, s = before ++ (trimChars s ++ after) ∧ (∀ c ∈ before, isBlank c = true) ∧
      ∀ c ∈ after, isBlank c = true := by
  refine ⟨s.takeWhile isBlank, (trimStart s).rtakeWhile isBlank, ?_,
    fun c member => List.mem_takeWhile_imp member, fun c member => List.mem_rtakeWhile_imp member⟩
  rw [trimChars, trimEnd_eq_rdropWhile, List.rdropWhile_append_rtakeWhile, trimStart,
    List.takeWhile_append_dropWhile]

theorem IsBalanced.trimChars {s : List Char} (balanced : IsBalanced s) :
    IsBalanced (trimChars s) := by
  obtain ⟨before, after, parts, blankBefore, blankAfter⟩ := exists_append_trimChars s
  unfold IsBalanced at balanced
  rw [parts, openAfter?_append, openAfter?_of_blank 0 blankBefore, Option.bind_some,
    openAfter?_append] at balanced
  cases trimmed : openAfter? 0 (Text.trimChars s) with
  | none => simp [trimmed] at balanced
  | some depth =>
    rw [trimmed, Option.bind_some, openAfter?_of_blank depth blankAfter] at balanced
    exact trimmed.trans balanced

/-! ## Groups -/

/-- What follows the parenthesis that closes one opened before the text, where `depth` others are
open inside that one. -/
def afterClosing? (depth : Nat) : List Char → Option (List Char)
  | [] => none
  | c :: s =>
    if c = '(' then afterClosing? (depth + 1) s
    else if c = ')' then
      match depth with
      | 0 => some s
      | depth + 1 => afterClosing? depth s
    else afterClosing? depth s

/-- What stands behind the group in parentheses that a text starts with. -/
def behindGroup? : List Char → Option (List Char)
  | '(' :: s => afterClosing? 0 s
  | _ => none

/-- The text starts with a parenthesis, and the one that closes this is its last character. -/
def IsEnclosed (s : List Char) : Prop := behindGroup? s = some []

instance (s : List Char) : Decidable (IsEnclosed s) :=
  inferInstanceAs (Decidable (behindGroup? s = some []))

/-- The text starts with a group in parentheses and ends with the parenthesis of another one. -/
def SpansGroups (s : List Char) : Prop := ∃ rest ∈ behindGroup? s, rest.getLast? = some ')'

instance (s : List Char) : Decidable (SpansGroups s) :=
  inferInstanceAs (Decidable (∃ rest ∈ behindGroup? s, rest.getLast? = some ')'))

/-- A text that closes only what it opens is passed over. -/
theorem afterClosing?_append {depth inside : Nat} {s : List Char}
    (scanned : openAfter? depth s = some inside) (t : List Char) :
    afterClosing? depth (s ++ t) = afterClosing? inside t := by
  fun_induction openAfter? depth s with
  | case1 => rw [Option.some.inj scanned, List.nil_append]
  | case2 depth s ih => exact ih scanned
  | case3 => cases scanned
  | case4 s _ depth ih => exact ih scanned
  | case5 depth c s notOpening notClosing ih =>
    simp [afterClosing?, notOpening, notClosing, ih scanned]

/-- Parentheses around a text in which they are balanced enclose it. -/
theorem isEnclosed_parenthesized {s : List Char} (balanced : IsBalanced s) :
    IsEnclosed ('(' :: s ++ [')']) :=
  afterClosing?_append balanced [')']

/-- Where no parenthesis is open at the end of a text, those that are open at its start are closed
in it. -/
theorem exists_afterClosing? {depth : Nat} {s : List Char}
    (scanned : openAfter? (depth + 1) s = some 0) : ∃ rest, afterClosing? depth s = some rest := by
  fun_induction afterClosing? depth s with
  | case1 => cases scanned
  | case2 depth s ih => exact ih scanned
  | case3 s => exact ⟨s, rfl⟩
  | case4 s _ depth ih => exact ih scanned
  | case5 depth c s notOpening notClosing ih =>
    exact ih (by simpa [openAfter?, notOpening, notClosing] using scanned)

theorem suffix_of_afterClosing? {depth : Nat} {s rest : List Char}
    (closed : afterClosing? depth s = some rest) : rest <:+ s := by
  fun_induction afterClosing? depth s with
  | case1 => cases closed
  | case2 depth s ih => exact (ih closed).trans (List.suffix_cons _ s)
  | case3 s => exact Option.some.inj closed ▸ List.suffix_cons _ s
  | case4 s _ depth ih => exact (ih closed).trans (List.suffix_cons _ s)
  | case5 depth c s notOpening notClosing ih => exact (ih closed).trans (List.suffix_cons c s)

/-- What stands behind a group ends as the whole text does. -/
theorem getLast?_of_behindGroup? {s rest : List Char} (behind : behindGroup? s = some rest)
    (present : rest ≠ []) : s.getLast? = rest.getLast? := by
  unfold behindGroup? at behind
  split at behind
  case h_1 inner =>
    obtain ⟨group, parts⟩ := (suffix_of_afterClosing? behind).trans (List.suffix_cons '(' inner)
    rw [← parts, List.getLast?_append_of_ne_nil group present]
  case h_2 => cases behind

theorem SpansGroups.ends {s : List Char} (spans : SpansGroups s) :
    s.head? = some '(' ∧ s.getLast? = some ')' := by
  obtain ⟨rest, behind, ends⟩ := spans
  have present : rest ≠ [] := by
    rintro rfl
    cases ends
  refine ⟨?_, (getLast?_of_behindGroup? behind present).trans ends⟩
  unfold behindGroup? at behind
  split at behind
  case h_1 => rfl
  case h_2 => cases behind

/-- The parentheses that a balanced text starts and ends with enclose it unless they belong to two
groups. -/
theorem isEnclosed_iff_of_ends {s : List Char} (balanced : IsBalanced s)
    (starts : s.head? = some '(') (ends : s.getLast? = some ')') :
    IsEnclosed s ↔ ¬SpansGroups s := by
  obtain ⟨inner, rfl⟩ := List.head?_eq_some_iff.1 starts
  obtain ⟨rest, behind⟩ : ∃ rest, behindGroup? ('(' :: inner) = some rest :=
    exists_afterClosing? balanced
  unfold IsEnclosed SpansGroups
  rw [behind]
  constructor
  · rintro enclosed ⟨other, isRest, last⟩
    rw [← Option.some.inj isRest, Option.some.inj enclosed] at last
    cases last
  · intro unspanned
    by_contra more
    have present : rest ≠ [] := fun none => more (congrArg some none)
    exact unspanned ⟨rest, rfl, (getLast?_of_behindGroup? behind present).symm.trans ends⟩

/-- The text that a sub-query is written as is enclosed in its parentheses unless the text itself
starts and ends with those of two groups. -/
theorem isEnclosed_parenthesizedChars_iff {s : List Char} (balanced : IsBalanced s) :
    IsEnclosed (parenthesizedChars s) ↔ ¬SpansGroups (trimChars s) := by
  unfold parenthesizedChars
  dsimp only
  split
  case isTrue ends => exact isEnclosed_iff_of_ends balanced.trimChars ends.1 ends.2
  case isFalse apart =>
    exact iff_of_true (isEnclosed_parenthesized balanced.trimChars) (mt SpansGroups.ends apart)

theorem parenthesized_eq_or (s : String) :
    parenthesized s = trim s ∨ parenthesized s = "(" ++ trim s ++ ")" := by
  unfold parenthesized parenthesizedChars
  dsimp only
  split
  case isTrue => exact .inl rfl
  case isFalse =>
    refine .inr ?_
    simp [← String.toList_inj]

end Text

namespace Operand

/-- A sub-query is written in its parentheses behind any comparison that takes one value. -/
theorem predicate?_of_isSubquery {t : String} (isSubquery : Text.isSubquery t = true)
    {comparison : Option Comparison} (operand : (comparison.getD .equal).isNullCheck = false)
    (single : (comparison.getD .equal).isRange = false) (escaper : Escaper) (quoted : Bool) :
    (Operand.single (.text t)).predicate? escaper quoted comparison =
      some ((comparison.getD .equal).keyword ++ " " ++ Text.parenthesized t) := by
  have notCheck : comparison.any (·.isNullCheck) = false := by
    cases comparison with
    | none => rfl
    | some c => exact operand
  simp [predicate?, single?, notCheck, single, isSubquery, Value.isNull]

/-- A text that is a sub-query with balanced parentheses is written behind the comparison either as
it is, without the blanks around it, or like this in parentheses.  What is written starts with a
parenthesis and ends with the one that closes it, unless the sub-query is made of several groups and
starts with one and ends with another. -/
theorem isEnclosed_predicate? {t : String} (isSubquery : Text.isSubquery t = true)
    (balanced : Text.IsBalanced t.toList) {comparison : Option Comparison}
    (operand : (comparison.getD .equal).isNullCheck = false)
    (single : (comparison.getD .equal).isRange = false) (escaper : Escaper) (quoted : Bool) :
    ∃ written,
      (Operand.single (.text t)).predicate? escaper quoted comparison =
        some ((comparison.getD .equal).keyword ++ " " ++ written) ∧
      (written = Text.trim t ∨ written = "(" ++ Text.trim t ++ ")") ∧
      (Text.IsEnclosed written.toList ↔ ¬Text.SpansGroups (Text.trim t).toList) := by
  refine ⟨Text.parenthesized t, predicate?_of_isSubquery isSubquery operand single escaper quoted,
    Text.parenthesized_eq_or t, ?_⟩
  rw [Text.parenthesized, String.toList_ofList, Text.toList_trim]
  exact Text.isEnclosed_parenthesizedChars_iff balanced

/-- A sub-query that starts with a group and does not end with one is put in parentheses. -/
theorem isEnclosed_predicate?_union :
    let t := " (SELECT id FROM posts) UNION SELECT id FROM tags WHERE (a = 1) LIMIT 9\t"
    Text.isSubquery t = true ∧ Text.IsBalanced t.toList ∧
      ∃ written, (Operand.single (.text t)).predicate? .mysql true (some .notIn) =
        some ("NOT IN" ++ " " ++ written) ∧ Text.IsEnclosed written.toList := by
  intro t
  have isSubquery : Text.isSubquery t = true := by decide +kernel
  have balanced : Text.IsBalanced t.toList := by decide +kernel
  have unspanned : ¬Text.SpansGroups (Text.trim t).toList := by decide +kernel
  have operand : ((some Comparison.notIn).getD .equal).isNullCheck = false := rfl
  obtain ⟨written, predicate, -, enclosed⟩ :=
    isEnclosed_predicate? isSubquery balanced operand rfl .mysql true
  exact ⟨isSubquery, balanced, written, predicate, enclosed.2 unspanned⟩

/-- What stands between two groups is not enclosed. -/
theorem not_isEnclosed_predicate?_union :
    let t := "(SELECT 1) UNION (SELECT 2)"
    Text.isSubquery t = true ∧ Text.IsBalanced t.toList ∧
      (Operand.single (.text t)).predicate? .mysql true (some .isIn) =
        some ("IN" ++ " " ++ t) ∧
      Text.behindGroup? t.toList = some " UNION (SELECT 2)".toList ∧ ¬Text.IsEnclosed t.toList := by
  decide +kernel

end Operand

end SqlQuery
