import SqlQuery.Text.Blank

/-!
Lists written in one text, `id, COUNT(a, b) AS n`: the items stand between the commas that no
parenthesis encloses.
-/

namespace SqlQuery.Text

/-- The number of open parentheses after a character, from the number before it. One that closes
nothing is passed over. -/
def depthAfter (depth : Nat) : Char → Nat
  | '(' => depth + 1
  | ')' => depth - 1
  | _ => depth

/-- The pieces of a text between the commas met while no parenthesis is open, when `depth` are open
at its start. Nothing but those commas is lost. -/
def pieces (depth : Nat) : List Char → List (List Char)
  | [] => [[]]
  | c :: s =>
    if c = ',' ∧ depth = 0 then [] :: pieces 0 s
    else (pieces (depthAfter depth c) s).modifyHead (c :: ·)

/-- A text has at least one piece. -/
theorem pieces_ne_nil (depth : Nat) (s : List Char) : pieces depth s ≠ [] := by
  induction s generalizing depth with
  | nil => simp [pieces]
  | cons c s ih =>
    simp only [pieces]
    split
    · simp
    · cases h : pieces (depthAfter depth c) s with
      | nil => exact absurd h (ih _)
      | cons => simp

/-- The items of a list written in one text: its pieces, trimmed, without the blank ones. -/
def items (s : String) : List String :=
  (((pieces 0 s.toList).map trimChars).filter (!·.isEmpty)).map String.ofList

/-- The items of several lists, one after the other. -/
def allItems (lists : List String) : List String := lists.flatMap items

theorem allItems_append (xs ys : List String) : allItems (xs ++ ys) = allItems xs ++ allItems ys :=
  List.flatMap_append

end SqlQuery.Text
