import SqlQuery.Column
import SqlQuery.Text.Listing

/-!
Reading a column from its text.

The grammar, in which letter case is ignored and blanks may stand before, between and after the
parts, and have to stand between two words:

    column   = head [identifier] ["AS" identifier]
    head     = identifier "(" ["DISTINCT"] argument ")" | name
    argument = any text without parentheses
    name     = any text without blanks and parentheses

A head that continues as a function call is one. A text outside the grammar, and a function call
whose argument is empty or has several parts, is a verbatim column.
-/

namespace SqlQuery.Column

open Text

/-- An opening or closing parenthesis. -/
def isParenthesis (c : Char) : Bool := c == '(' || c == ')'

/-- The first part of a column's text. -/
structure Head where
  application : Option Application
  argument : List Char
deriving DecidableEq, Repr

/-- The text between the parentheses of a function call, in two parts: whether it starts with the
word `DISTINCT`, and the argument. -/
def splitDistinct (inner : List Char) : Bool × List Char :=
  let inner := trimStart inner
  match afterKeyword? ['d', 'i', 's', 't', 'i', 'n', 'c', 't'] inner with
  | some (c :: rest) =>
    if isBlank c then (true, trimChars rest) else (false, trimEnd inner)
  | _ => (false, trimEnd inner)

/-- A function call at the start of a text, and what follows it. -/
def readCall? (s : List Char) : Option (Head × List Char) :=
  let function := s.takeWhile fun c => isNameChar (fold c)
  match trimStart (s.dropWhile fun c => isNameChar (fold c)) with
  | '(' :: rest =>
    match rest.dropWhile fun c => !isParenthesis c with
    | ')' :: tail =>
      if isFoldedIdentifier function then
        let (distinct, argument) := splitDistinct (rest.takeWhile fun c => !isParenthesis c)
        some (⟨some ⟨String.ofList function, distinct⟩, argument⟩, tail)
      else
        none
    | _ => none
  | _ => none

/-- A character of a plain name. -/
def isPlain (c : Char) : Bool := !isBlank c && !isParenthesis c

/-- A plain name at the start of a text, and what follows it. -/
def readName? (s : List Char) : Option (Head × List Char) :=
  match s.takeWhile isPlain with
  | [] => none
  | name => some (⟨none, name⟩, s.dropWhile isPlain)

/-- The head at the start of a text, and what follows it. -/
def readHead? (s : List Char) : Option (Head × List Char) :=
  (readCall? s).orElse fun _ => readName? s

/-- A word that stands where a modifier is expected. The word `AS` itself, with nothing to name, is
none. -/
def modifierOf (word : List Char) : Option String :=
  if word.map Char.toLower = ['a', 's'] then none else some (String.ofList word)

/-- The modifier and the output name after a head. -/
def readTail? (s : List Char) : Option (Option String × Option String) :=
  if s.head?.all isBlank then
    match words s with
    | [] => some (none, none)
    | [word] => if isFoldedIdentifier word then some (modifierOf word, none) else none
    | [keyword, output] =>
      if isKeyword ['a', 's'] keyword ∧ isFoldedIdentifier output then
        some (none, some (String.ofList output))
      else
        none
    | [word, keyword, output] =>
      if isFoldedIdentifier word ∧ isKeyword ['a', 's'] keyword ∧ isFoldedIdentifier output then
        some (modifierOf word, some (String.ofList output))
      else
        none
    | _ => none
  else
    none

/-- The argument of a function call has several parts, or none, and so names no column. -/
def isCompound (argument : List Char) : Bool :=
  argument.isEmpty || argument.any fun c => c == ' ' || c == '\t' || c == ','

/-- Reads a column by the grammar. -/
def read? (s : List Char) : Option Column := do
  let (head, rest) ← readHead? (trimStart s)
  let (modifier, output) ← readTail? rest
  if head.application.isSome ∧ isCompound head.argument then
    none
  else
    let argument := String.ofList head.argument
    match splitQualified? argument with
    | some (table, name) => some ⟨some table, .named ⟨head.application, name, modifier, output⟩⟩
    | none => some ⟨none, .named ⟨head.application, argument, modifier, output⟩⟩

/-- Reads a column; a text outside the grammar is a verbatim one, trimmed. -/
def parse (spec : String) : Column :=
  (read? spec.toList).getD ⟨none, .verbatim (trim spec)⟩

/-- Reads the columns of several lists, for a table where they name none. -/
def parseAll (table : Option String) (lists : List String) : List Column :=
  (allItems lists).map fun spec => (parse spec).within table

end SqlQuery.Column
