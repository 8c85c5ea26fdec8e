/-!
Escaping of texts that are written between quotes.

How a text is escaped is the affair of whoever owns the connection, so it is a value that statements
are compiled with. The usual one escapes with backslashes, the way MySQL reads them.
-/

namespace SqlQuery

/-- The two ways of escaping a text, as a literal and as a pattern that matches it literally.
Neither adds the quotes around it. -/
structure Escaper where
  literal : String → String
  pattern : String → String

namespace Escaper

/-- The escaped form of one character. NUL, backspace, line feed, carriage return, tab and Ctrl-Z
have a letter of their own; both quotes and the backslash stand for themselves behind a backslash;
every other character needs none. -/
def backslashed (c : Char) : List Char :=
  if c = '\x00' then ['\\', '0']
  else if c = '\x08' then ['\\', 'b']
  else if c = '\n' then ['\\', 'n']
  else if c = '\r' then ['\\', 'r']
  else if c = '\t' then ['\\', 't']
  else if c = '\x1a' then ['\\', 'Z']
  else if c = '\x27' ∨ c = '"' ∨ c = '\\' then ['\\', c]
  else [c]

/-- Every character of a text in its escaped form. -/
def backslashedChars (s : List Char) : List Char := s.flatMap backslashed

/-- The text with a backslash before each character that means something else in a pattern: the two
wildcards and the backslash. -/
def patternChars (s : List Char) : List Char :=
  s.flatMap fun c => if c = '\\' ∨ c = '%' ∨ c = '_' then ['\\', c] else [c]

/-- MySQL's escapes. A pattern is escaped first as a pattern and then, as it is written as a
literal, as one. -/
def mysql : Escaper where
  literal s := String.ofList (backslashedChars s.toList)
  pattern s := String.ofList (backslashedChars (patternChars s.toList))

@[simp] theorem toList_mysql_literal (s : String) :
    (mysql.literal s).toList = backslashedChars s.toList :=
  String.toList_ofList

@[simp] theorem toList_mysql_pattern (s : String) :
    (mysql.pattern s).toList = backslashedChars (patternChars s.toList) :=
  String.toList_ofList

end Escaper

/-- The usual escaper is MySQL's. -/
instance : Inhabited Escaper := ⟨Escaper.mysql⟩

end SqlQuery
