import SqlQuery.Condition
import SqlQuery.Literal
import SqlQuery.Scope
import SqlQuery.Text.Subquery

/-!
From conditions to the predicates of a statement.

Nested conditions are first laid out as a list of leaves, each with the table its field belongs to
and the quoting of its values. A leaf then either becomes a predicate or is dropped, and what
decides that is the leaf alone: neither the tables of the statement nor the escaper have a say.
-/

namespace SqlQuery

/-! ## The right side of a predicate -/

namespace Operand

/-- The bounds of a range: the first two values, neither of them null. -/
def range? (escaper : Escaper) (quoted : Bool) : List Value → Option String
  | lower :: upper :: _ => do
    let low ← lower.literal? escaper
    let high ← upper.literal? escaper
    return low.write quoted ++ " AND " ++ high.write quoted
  | _ => none

/-- The values of a list that are not blank, in parentheses, if there are any. -/
def membership? (escaper : Escaper) (quoted : Bool) (vs : List Value) : Option String :=
  match (vs.filter (!·.isBlank)).filterMap (·.literal? escaper) with
  | [] => none
  | literals => some ("(" ++ ",".intercalate (literals.map (·.write quoted)) ++ ")")

/-- The pattern of texts that contain the value. A text is trimmed first, and an expression is its
own pattern. -/
def pattern? (escaper : Escaper) (v : Value) : Option Literal :=
  match v with
  | .text s => some (Literal.text (escaper.pattern (Text.trim s))).contained
  | v => (v.literal? escaper).map Literal.contained

/-- The literal of one value, as a pattern for `LIKE` and in parentheses for `IN`. -/
def literal? (escaper : Escaper) (quoted : Bool) (comparison : Comparison) (v : Value) :
    Option String := do
  let literal ← if comparison.isPattern then pattern? escaper v else v.literal? escaper
  let written := literal.write quoted
  return if comparison.isMembership then "(" ++ written ++ ")" else written

/-- One value: a sub-query in parentheses and never in quotes, any other as a literal. Null is
compared with nothing, and one value is no range. -/
def single? (escaper : Escaper) (quoted : Bool) (comparison : Comparison) (v : Value) :
    Option String :=
  if comparison.isRange || v.isNull then none
  else
    match v with
    | .text s =>
      if Text.isSubquery s then some (Text.parenthesized s)
      else literal? escaper quoted comparison (.text s)
    | v => literal? escaper quoted comparison v

/-- The comparison and the operand after it, unless the condition has nothing to compare with. -/
def predicate? (escaper : Escaper) (quoted : Bool) (comparison : Option Comparison)
    (operand : Operand) : Option String :=
  if comparison.any (·.isNullCheck) then comparison.map (·.keyword)
  else
    match operand with
    | .list vs =>
      let c := Comparison.ofList comparison
      let written := if c.isRange then range? escaper quoted vs else membership? escaper quoted vs
      written.map fun text => c.keyword ++ " " ++ text
    | .single v =>
      let c := comparison.getD .equal
      (single? escaper quoted c v).map fun text => c.keyword ++ " " ++ text

end Operand

/-! ## Leaves -/

/-- A condition that holds no others, in its place. -/
inductive Leaf
  /-- An expression. -/
  | raw (sql : String)
  /-- A comparison of a field, which belongs to the context table unless it names its own. -/
  | compare (context : Option String) (quoted : Bool) (field : String)
      (comparison : Option Comparison) (operand : Operand)
deriving DecidableEq, Repr

namespace Condition

mutual

/-- The leaves of a condition, in order. The conditions on a table that is known have it as their
context and their values are expressions; those on an unknown one have no context. -/
def leaves (known : String → Bool) (context : Option String) (quoted : Bool) :
    Condition → List Leaf
  | .raw sql => [.raw sql]
  | .compare field comparison operand => [.compare context quoted field comparison operand]
  | .table name conditions =>
    if known name then leavesOfAll known (some name) false conditions
    else leavesOfAll known none quoted conditions

/-- The leaves of several conditions, in order. -/
def leavesOfAll (known : String → Bool) (context : Option String) (quoted : Bool) :
    List Condition → List Leaf
  | [] => []
  | c :: cs => leaves known context quoted c ++ leavesOfAll known context quoted cs

end

/-- The leaves of conditions are those of each in turn. -/
theorem leavesOfAll_eq_flatMap (known : String → Bool) (context : Option String) (quoted : Bool)
    (cs : List Condition) :
    leavesOfAll known context quoted cs = cs.flatMap (leaves known context quoted) := by
  induction cs with
  | nil => rfl
  | cons c cs ih => simp [leavesOfAll, ih]

end Condition

namespace ConditionGroup

/-- The leaves of a group, in order. -/
def leaves (known : String → Bool) (g : ConditionGroup) : List Leaf :=
  Condition.leavesOfAll known g.options.table (!g.options.unquoted) g.conditions

end ConditionGroup

/-! ## Predicates -/

namespace Scope

/-- The predicate of a leaf, unless it is dropped: a blank expression is, and so is a comparison
that has no field or nothing to compare it with. -/
def predicate? (s : Scope) (escaper : Escaper) : Leaf → Option Fragment
  | .raw sql => if (Text.trimChars sql.toList).isEmpty then none else some [.text sql]
  | .compare context quoted field comparison operand =>
    if field.isEmpty then none
    else
      (operand.predicate? escaper quoted comparison).map fun text =>
        s.key context field ++ [.text (" " ++ text)]

/-- The predicates of a group. -/
def predicates (s : Scope) (escaper : Escaper) (g : ConditionGroup) : List Fragment :=
  (g.leaves s.resolves).filterMap (s.predicate? escaper)

/-- The predicates of a group, combined by its relation and in parentheses, if there are any. -/
def group? (s : Scope) (escaper : Escaper) (g : ConditionGroup) : Option Fragment :=
  match s.predicates escaper g with
  | [] => none
  | ps =>
    some (.text "(" :: Fragment.separated g.options.relation.separator ps ++ [.text ")"])

/-- The groups that have predicates. -/
def groups (s : Scope) (escaper : Escaper) (gs : List ConditionGroup) : List Fragment :=
  gs.filterMap (s.group? escaper)

theorem groups_append (s : Scope) (escaper : Escaper) (gs hs : List ConditionGroup) :
    s.groups escaper (gs ++ hs) = s.groups escaper gs ++ s.groups escaper hs :=
  List.filterMap_append

end Scope

end SqlQuery
