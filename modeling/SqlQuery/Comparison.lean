import SqlQuery.Text.Blank

/-!
The comparisons of a condition, their written forms and how they are read.
-/

namespace SqlQuery

/-- How a condition compares a field with its operand. -/
inductive Comparison
  | equal
  | notEqual
  | greater
  | greaterOrEqual
  | less
  | lessOrEqual
  | like
  | notLike
  | isIn
  | notIn
  | between
  | notBetween
  | isNull
  | isNotNull
deriving DecidableEq, Repr

/-- A text that names no comparison. -/
structure UnknownComparison where
  text : String
deriving DecidableEq, Repr

/-- The wording of the error. -/
def UnknownComparison.message (e : UnknownComparison) : String :=
  "unknown compare operator `" ++ e.text ++ "`"

namespace Comparison

/-- The comparison as it is written in a statement. -/
def keyword : Comparison → String
  | .equal => "="
  | .notEqual => "<>"
  | .greater => ">"
  | .greaterOrEqual => ">="
  | .less => "<"
  | .lessOrEqual => "<="
  | .like => "LIKE"
  | .notLike => "NOT LIKE"
  | .isIn => "IN"
  | .notIn => "NOT IN"
  | .between => "BETWEEN"
  | .notBetween => "NOT BETWEEN"
  | .isNull => "IS NULL"
  | .isNotNull => "IS NOT NULL"

/-- A comparison with two bounds. -/
def isRange : Comparison → Bool
  | .between | .notBetween => true
  | _ => false

/-- A comparison that has no operand. -/
def isNullCheck : Comparison → Bool
  | .isNull | .isNotNull => true
  | _ => false

/-- A comparison with a pattern. -/
def isPattern : Comparison → Bool
  | .like | .notLike => true
  | _ => false

/-- A comparison with a list. -/
def isMembership : Comparison → Bool
  | .isIn | .notIn => true
  | _ => false

/-- The comparison with a list of values that a comparison with one value stands for. -/
def ofList : Option Comparison → Comparison
  | none | some .equal => .isIn
  | some .notEqual => .notIn
  | some c => c

/-- Every comparison, in the order of their definition. -/
def all : List Comparison :=
  [.equal, .notEqual, .greater, .greaterOrEqual, .less, .lessOrEqual, .like, .notLike, .isIn,
    .notIn, .between, .notBetween, .isNull, .isNotNull]

theorem mem_all (c : Comparison) : c ∈ all := by cases c <;> decide

/-- A text with its words in capitals and one space between every two. -/
def normalize (text : String) : String :=
  " ".intercalate
    ((Text.words text.toList).map fun word => String.ofList (word.map Char.toUpper))

/-- The comparison with the given normal text. Equality may be written with two signs, and
inequality also as `!=`. -/
def ofNormal? (normal : String) : Option Comparison :=
  if normal = "==" then some .equal
  else if normal = "!=" then some .notEqual
  else all.find? (·.keyword == normal)

/-- Reads a comparison, whatever the case of its letters and the blanks around its words. -/
def parse (text : String) : Except UnknownComparison Comparison :=
  match ofNormal? (normalize text) with
  | some c => .ok c
  | none => .error ⟨text⟩

/-- A comparison is read back from its written form. -/
theorem parse_keyword (c : Comparison) : parse c.keyword = .ok c := by
  have h : ofNormal? (normalize c.keyword) = some c := by cases c <;> decide +kernel
  simp [parse, h]

end Comparison

end SqlQuery
