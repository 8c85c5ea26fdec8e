import SqlQuery.Escaper
import SqlQuery.Value

/-!
How a value is written inside a statement.

Values are always written inline. All but null have a literal, which is either a text, in quotes
where the context asks for them, or an expression that never takes quotes.
-/

namespace SqlQuery

/-- The written form of a value, before it is decided whether quotes go around it. -/
inductive Literal
  /-- An escaped text, which quotes may enclose. -/
  | text (escaped : String)
  /-- An expression, which is written as it stands. -/
  | bare (sql : String)
deriving DecidableEq, Repr

namespace Literal

/-- The literal in single quotes, if it is a text and quotes are asked for, and as it stands
otherwise. -/
def write (quoted : Bool) : Literal → String
  | .text escaped => if quoted then "'" ++ escaped ++ "'" else escaped
  | .bare sql => sql

/-- A text between two wildcards matches where it is contained. An expression stays as it is. -/
def contained : Literal → Literal
  | .text escaped => .text ("%" ++ escaped ++ "%")
  | .bare sql => .bare sql

end Literal

namespace Value

/-- The literal of a value, where null has none. Truth values are `1` and `0`, and numbers and
timestamps need no escaping. -/
def literal? (escaper : Escaper) : Value → Option Literal
  | .null => none
  | .bool b => some (.text (if b then "1" else "0"))
  | .integer n => some (.text n.toInt.repr)
  | .natural n => some (.text n.toNat.repr)
  | .double x => some (.text x.text)
  | .text s => some (.text (escaper.literal s))
  | .timestamp t => some (.text t.text)
  | .raw sql => some (.bare sql)

/-- The value as an item of `VALUES` and `SET`: in quotes, and `NULL` for null. -/
def assigned (escaper : Escaper) (v : Value) : String :=
  match v.literal? escaper with
  | some l => l.write true
  | none => "NULL"

/-- Only null has no literal. -/
theorem literal?_eq_none_iff {escaper : Escaper} {v : Value} :
    v.literal? escaper = none ↔ v = .null := by
  cases v <;> simp [literal?]

end Value

end SqlQuery
