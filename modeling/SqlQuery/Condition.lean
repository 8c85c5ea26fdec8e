import SqlQuery.Comparison
import SqlQuery.Value

/-!
Conditions, as callers state them, and the groups they form in `WHERE` and `HAVING`.
-/

namespace SqlQuery

/-- What a field is compared with. -/
inductive Operand
  | single (v : Value)
  | list (vs : List Value)
deriving DecidableEq, Repr

/-- The operand is a list without values. -/
def Operand.isEmpty : Operand → Bool
  | .single _ => false
  | .list vs => vs.isEmpty

/-- A condition on the rows of a statement. -/
inductive Condition
  /-- Compares a field; without a comparison, one value asks for equality and a list for
  membership. -/
  | compare (field : String) (comparison : Option Comparison) (operand : Operand)
  /-- Conditions on the columns of one table, with operands that are expressions. -/
  | table (table : String) (conditions : List Condition)
  /-- An expression that is written as it stands. -/
  | raw (sql : String)

namespace Condition

/-- Compares the field the way the operand asks for. -/
def value (field : String) (operand : Operand) : Condition := .compare field none operand

/-- The field equals the value. -/
def equal (field : String) (v : Value) : Condition := .compare field (some .equal) (.single v)

/-- The field differs from the value. -/
def notEqual (field : String) (v : Value) : Condition := .compare field (some .notEqual) (.single v)

/-- The field is greater than the value. -/
def greater (field : String) (v : Value) : Condition := .compare field (some .greater) (.single v)

/-- The field is not less than the value. -/
def greaterOrEqual (field : String) (v : Value) : Condition :=
  .compare field (some .greaterOrEqual) (.single v)

/-- The field is less than the value. -/
def less (field : String) (v : Value) : Condition := .compare field (some .less) (.single v)

/-- The field is not greater than the value. -/
def lessOrEqual (field : String) (v : Value) : Condition :=
  .compare field (some .lessOrEqual) (.single v)

/-- The field contains the value. -/
def like (field : String) (v : Value) : Condition := .compare field (some .like) (.single v)

/-- The field does not contain the value. -/
def notLike (field : String) (v : Value) : Condition := .compare field (some .notLike) (.single v)

/-- The field is one of the values. -/
def isIn (field : String) (vs : List Value) : Condition := .compare field (some .isIn) (.list vs)

/-- The field is none of the values. -/
def notIn (field : String) (vs : List Value) : Condition := .compare field (some .notIn) (.list vs)

/-- The field lies between the bounds or equals one. -/
def between (field : String) (lower upper : Value) : Condition :=
  .compare field (some .between) (.list [lower, upper])

/-- The field lies outside the bounds. -/
def notBetween (field : String) (lower upper : Value) : Condition :=
  .compare field (some .notBetween) (.list [lower, upper])

/-- The field is null. -/
def isNull (field : String) : Condition := .compare field (some .isNull) (.single .null)

/-- The field is not null. -/
def isNotNull (field : String) : Condition := .compare field (some .isNotNull) (.single .null)

end Condition

/-- How the conditions of a group are combined. -/
inductive Relation
  | and
  | or
deriving DecidableEq, Repr

/-- What stands between two conditions of a group. -/
def Relation.separator : Relation → String
  | .and => " AND "
  | .or => " OR "

/-- The choices a caller has for a group. -/
structure GroupOptions where
  relation : Relation := .and
  /-- The table that fields without a table of their own belong to. -/
  table : Option String := none
  /-- Values are written without quotes. -/
  unquoted : Bool := false
deriving DecidableEq, Repr

/-- Conditions that are combined by one relation and stand in one pair of parentheses. -/
structure ConditionGroup where
  conditions : List Condition
  options : GroupOptions := {}

end SqlQuery
