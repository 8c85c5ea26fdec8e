import SqlQuery.Scope

/-!
Joins of a table to one that the statement already has, and equalities between columns of two
tables.
-/

namespace SqlQuery

/-- The kinds of structured joins. -/
inductive JoinKind
  | inner
  | left
  | leftOuter
  | right
  | rightOuter
  | cross
deriving DecidableEq, Repr

/-- A join is an inner one where no kind is given. -/
instance : Inhabited JoinKind := ⟨.inner⟩

/-- The words before `JOIN`. -/
def JoinKind.keyword : JoinKind → String
  | .inner => "INNER"
  | .left => "LEFT"
  | .leftOuter => "LEFT OUTER"
  | .right => "RIGHT"
  | .rightOuter => "RIGHT OUTER"
  | .cross => "CROSS"

/-- A join. It extends its left table, and has to stand after the place where that is introduced. -/
inductive Join
  /-- A clause that is written as it stands. -/
  | raw (left sql : String)
  /-- A join with a table, on pairs of a column of the left and one of the right table. -/
  | structured (kind : JoinKind) (left right : String) (on : List (String × String))
deriving DecidableEq, Repr

namespace Join

/-- The table that the join extends. -/
def left : Join → String
  | .raw left _ => left
  | .structured _ left _ _ => left

/-- The table that the join brings in. -/
def right? : Join → Option String
  | .raw _ _ => none
  | .structured _ _ right _ => some right

end Join

/-- An equality between a column of one table and a column of another. -/
structure Equality where
  left : String
  leftColumn : String
  right : String
  rightColumn : String
deriving DecidableEq, Repr

namespace Scope

/-- Two keys with an equals sign between them, each in the context of its own table. -/
def equation (s : Scope) (left leftColumn right rightColumn : String) : Fragment :=
  s.key (some left) leftColumn ++ .text " = " :: s.key (some right) rightColumn

/-- A join as it is written after the table it extends. -/
def join (s : Scope) : Join → Fragment
  | .raw _ sql => [.text (Text.trim sql)]
  | .structured kind left right on =>
    let head := .text (kind.keyword ++ " JOIN ") :: s.introduction right
    if on.isEmpty then head
    else
      head ++ .text " ON " ::
        Fragment.separated " AND " (on.map fun pair => s.equation left pair.1 right pair.2)

/-- The slot of the named table stands in the given fragment. -/
def mentions (s : Scope) (f : Fragment) (table : String) : Bool :=
  (s.resolve? table).any fun i => f.contains (.qualifier i)

/-- The equalities between tables that the given part of the statement mentions anyway, both of
them. -/
def equalities (s : Scope) (mentioned : Fragment) (es : List Equality) : List Fragment :=
  (es.filter fun e => s.mentions mentioned e.left && s.mentions mentioned e.right).map fun e =>
    s.equation e.left e.leftColumn e.right e.rightColumn

/-- A table is mentioned if and only if it is referred to at least once. -/
theorem mentions_eq_true_iff {s : Scope} {f : Fragment} {table : String} :
    s.mentions f table = true ↔ ∃ i, s.resolve? table = some i ∧ 0 < f.references i := by
  simp [mentions, Option.any_eq_true, Fragment.references, List.count_pos_iff]

end Scope

end SqlQuery
