import SqlQuery.Text.Identifier

/-!
Texts that are sub-queries: they start with the word `SELECT`, possibly behind one parenthesis.
-/

namespace SqlQuery.Text

/-- The text starts with `SELECT` and a blank, possibly behind one opening parenthesis. -/
def isSubqueryChars (s : List Char) : Bool :=
  let opened :=
    match trimStart s with
    | '(' :: rest => trimStart rest
    | rest => rest
  match afterKeyword? ['s', 'e', 'l', 'e', 'c', 't'] opened with
  | some (c :: _) => isBlank c
  | _ => false

/-- The text starts with `SELECT` and a blank, possibly behind one opening parenthesis. -/
def isSubquery (s : String) : Bool := isSubqueryChars s.toList

/-- The text, trimmed, in parentheses; those it starts and ends with are enough. -/
def parenthesizedChars (s : List Char) : List Char :=
  let inner := trimChars s
  if inner.head? = some '(' ∧ inner.getLast? = some ')' then inner else '(' :: inner ++ [')']

/-- The text, trimmed, in parentheses; those it starts and ends with are enough. -/
def parenthesized (s : String) : String := String.ofList (parenthesizedChars s.toList)

end SqlQuery.Text
