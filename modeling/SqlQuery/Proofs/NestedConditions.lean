import SqlQuery.Condition.Predicate

/-!
Conditions inside conditions on a table.

A condition that holds no others has a place in its group: the tables of the conditions around it,
from outside in.  `Condition.placedOfAll` lists such conditions with their places, whatever the
scope, and `Scope.optionsAt` says what a place makes of the choices of the group.  The innermost
table alone decides which table a field belongs to, and values stand without quotes as soon as one
of the tables resolves.

`Scope.predicates_optionsAt` is the flattening: the predicates of a group are those of the
conditions in it that hold no others, each in a group of its own.  Putting conditions anywhere into
a group adds their places to those on both sides (`Condition.placedOfAll_put`), so a condition on a
table can be replaced by what it holds wherever it stands (`Scope.group?_table`).
-/

namespace SqlQuery

/-- The fragments in one pair of parentheses, with a separator between every two, if there are
any. -/
def Fragment.grouped? (separator : String) : List Fragment → Option Fragment
  | [] => none
  | fs => some (.text "(" :: Fragment.separated separator fs ++ [.text ")"])

/-! ## Places -/

/-- The condition holds no others. -/
def Condition.isLeaf : Condition → Bool
  | .table _ _ => false
  | _ => true

/-- A condition that holds no others, and the tables of the conditions around it, from outside
in. -/
structure PlacedCondition where
  tables : List String
  condition : Condition
  isLeaf : condition.isLeaf = true

namespace Condition

mutual

/-- The conditions that hold no others, in order, where a condition stands inside those on the given
tables. -/
def placed (outer : List String) : Condition → List PlacedCondition
  | .raw sql => [⟨outer, .raw sql, rfl⟩]
  | .compare field comparison operand => [⟨outer, .compare field comparison operand, rfl⟩]
  | .table name conditions => placedOfAll (outer ++ [name]) conditions

/-- The conditions that hold no others, in order, where several stand inside those on the given
tables. -/
def placedOfAll (outer : List String) : List Condition → List PlacedCondition
  | [] => []
  | c :: cs => placed outer c ++ placedOfAll outer cs

end

/-- A place among conditions and those that they hold, at any depth. -/
inductive Place
  | among (before after : List Condition)
  | inside (before : List Condition) (name : String) (place : Place) (after : List Condition)

namespace Place

/-- The conditions with the given ones in their place. -/
def put (cs : List Condition) : Place → List Condition
  | .among before after => before ++ cs ++ after
  | .inside before name place after => before ++ .table name (place.put cs) :: after

/-- The tables of the conditions around the place, from outside in. -/
def tables : Place → List String
  | .among _ _ => []
  | .inside _ name place _ => name :: place.tables

/-- What stands before the place. -/
def before : Place → List Condition
  | .among before _ => before
  | .inside before name place _ => before ++ [.table name place.before]

/-- What stands after the place. -/
def after : Place → List Condition
  | .among _ after => after
  | .inside _ name place after => .table name place.after :: after

end Place

@[simp] theorem placedOfAll_nil (outer : List String) : placedOfAll outer [] = [] := by
  simp [placedOfAll]

@[simp] theorem placedOfAll_cons (outer : List String) (c : Condition) (cs : List Condition) :
    placedOfAll outer (c :: cs) = placed outer c ++ placedOfAll outer cs := by
  simp [placedOfAll]

@[simp] theorem placedOfAll_append (outer : List String) (cs ds : List Condition) :
    placedOfAll outer (cs ++ ds) = placedOfAll outer cs ++ placedOfAll outer ds := by
  induction cs with
  | nil => simp
  | cons c cs ih => simp [ih]

/-- Conditions in a place are inside the tables around it, between what stands before and after. -/
theorem placedOfAll_put (outer : List String) (place : Place) (cs : List Condition) :
    placedOfAll outer (place.put cs) =
      placedOfAll outer place.before ++ placedOfAll (outer ++ place.tables) cs ++
        placedOfAll outer place.after := by
  induction place generalizing outer with
  | among before after => simp [Place.put, Place.before, Place.after, Place.tables]
  | inside before name place after ih =>
    simp [Place.put, Place.before, Place.after, Place.tables, placed, ih]

end Condition

/-- The conditions of a group that hold no others, in order, each in its place. -/
def ConditionGroup.placed (g : ConditionGroup) : List PlacedCondition :=
  Condition.placedOfAll [] g.conditions

/-! ## What a place makes of the choices of a group -/

namespace Scope

variable (s : Scope) (escaper : Escaper) (o : GroupOptions)

/-- The choices for the conditions inside those on the given tables.  Fields belong to the innermost
table, if it resolves, and values stand without quotes if any of the tables does. -/
def optionsAt (tables : List String) : GroupOptions :=
  match tables.getLast? with
  | none => o
  | some innermost =>
    { o with
      table := if s.resolves innermost then some innermost else none
      unquoted := o.unquoted || tables.any s.resolves }

@[simp] theorem optionsAt_nil : s.optionsAt o [] = o := rfl

@[simp] theorem unquoted_optionsAt (tables : List String) :
    (s.optionsAt o tables).unquoted = (o.unquoted || tables.any s.resolves) := by
  unfold optionsAt
  split
  case h_1 none => simp [List.getLast?_eq_none_iff.1 none]
  case h_2 => rfl

theorem optionsAt_append_singleton (outer : List String) (table : String) :
    s.optionsAt o (outer ++ [table]) =
      if s.resolves table then { o with table := some table, unquoted := true }
      else { o with table := none, unquoted := o.unquoted || outer.any s.resolves } := by
  unfold optionsAt
  by_cases known : s.resolves table = true <;> simp [known]

/-! ## Flattening -/

theorem predicates_append (cs ds : List Condition) :
    s.predicates escaper ⟨cs ++ ds, o⟩ =
      s.predicates escaper ⟨cs, o⟩ ++ s.predicates escaper ⟨ds, o⟩ := by
  simp [predicates, ConditionGroup.leaves, Condition.leavesOfAll_eq_flatMap]

/-- What a condition on a table holds is printed the way the table makes of the choices. -/
theorem predicates_table (outer : List String) (name : String) (cs : List Condition) :
    s.predicates escaper ⟨[.table name cs], s.optionsAt o outer⟩ =
      s.predicates escaper ⟨cs, s.optionsAt o (outer ++ [name])⟩ := by
  rw [optionsAt_append_singleton]
  by_cases known : s.resolves name = true <;>
    simp [predicates, ConditionGroup.leaves, Condition.leavesOfAll, Condition.leaves, known]

mutual

theorem predicates_placed (outer : List String) :
    ∀ c : Condition, s.predicates escaper ⟨[c], s.optionsAt o outer⟩ =
      (c.placed outer).flatMap fun p =>
        s.predicates escaper ⟨[p.condition], s.optionsAt o p.tables⟩
  | .raw sql => by simp [Condition.placed]
  | .compare field comparison operand => by simp [Condition.placed]
  | .table name cs => by
    rw [predicates_table, Condition.placed]
    exact predicates_optionsAt (outer ++ [name]) cs

/-- The predicates of conditions are those of the ones in them that hold no others, each in its
place. -/
theorem predicates_optionsAt (outer : List String) :
    ∀ cs : List Condition, s.predicates escaper ⟨cs, s.optionsAt o outer⟩ =
      (Condition.placedOfAll outer cs).flatMap fun p =>
        s.predicates escaper ⟨[p.condition], s.optionsAt o p.tables⟩
  | [] => by simp [predicates, ConditionGroup.leaves, Condition.leavesOfAll]
  | c :: cs => by
    rw [← List.singleton_append, predicates_append, predicates_placed outer c,
      predicates_optionsAt outer cs, List.singleton_append, Condition.placedOfAll_cons,
      List.flatMap_append]

end

theorem predicates_eq_flatMap_placed (cs : List Condition) :
    s.predicates escaper ⟨cs, o⟩ =
      (Condition.placedOfAll [] cs).flatMap fun p =>
        s.predicates escaper ⟨[p.condition], s.optionsAt o p.tables⟩ :=
  predicates_optionsAt s escaper o [] cs

/-- Conditions in a place are printed between what stands before and after, the way the tables
around the place make of the choices. -/
theorem predicates_put (place : Condition.Place) (cs : List Condition) :
    s.predicates escaper ⟨place.put cs, o⟩ =
      s.predicates escaper ⟨place.before, o⟩ ++
        s.predicates escaper ⟨cs, s.optionsAt o place.tables⟩ ++
        s.predicates escaper ⟨place.after, o⟩ := by
  rw [predicates_eq_flatMap_placed, predicates_eq_flatMap_placed s escaper o place.before,
    predicates_eq_flatMap_placed s escaper o place.after, predicates_optionsAt,
    Condition.placedOfAll_put, List.flatMap_append, List.flatMap_append, List.nil_append]

/-- A group is its predicates, combined. -/
theorem group?_eq_grouped? (g : ConditionGroup) :
    s.group? escaper g =
      Fragment.grouped? g.options.relation.separator (s.predicates escaper g) := rfl

/-- A condition on a table is printed as what it holds.  If the table resolves, fields belong to it
and values stand without quotes; otherwise fields belong to no table and values are quoted the way
they are around it.  This is so for a condition that is alone in a group, and for one at any depth
among any others.  A group as a whole is its conditions that hold no others, each printed by its
place and in order, combined by the relation of the group. -/
theorem group?_table (t : String) (cs : List Condition) :
    (s.resolves t = true →
      s.group? escaper ⟨[.table t cs], o⟩ =
        s.group? escaper ⟨cs, { o with table := some t, unquoted := true }⟩) ∧
    (s.resolves t = false →
      s.group? escaper ⟨[.table t cs], o⟩ = s.group? escaper ⟨cs, { o with table := none }⟩) ∧
    (∀ place : Condition.Place,
      s.group? escaper ⟨place.put [.table t cs], o⟩ =
        Fragment.grouped? o.relation.separator
          (s.predicates escaper ⟨place.before, o⟩ ++
            s.predicates escaper ⟨cs,
              if s.resolves t then { o with table := some t, unquoted := true }
              else { o with
                table := none
                unquoted := o.unquoted || place.tables.any s.resolves }⟩ ++
            s.predicates escaper ⟨place.after, o⟩)) ∧
    ∀ conditions : List Condition,
      s.group? escaper ⟨conditions, o⟩ =
        Fragment.grouped? o.relation.separator
          ((Condition.placedOfAll [] conditions).flatMap fun p =>
            s.predicates escaper ⟨[p.condition], s.optionsAt o p.tables⟩) := by
  have alone := predicates_table s escaper o [] t cs
  rw [optionsAt_nil, optionsAt_append_singleton] at alone
  refine ⟨fun known => ?_, fun unknown => ?_, fun place => ?_, fun conditions => ?_⟩
  · rw [group?_eq_grouped?, alone, if_pos known]
    rfl
  · rw [group?_eq_grouped?, alone, unknown]
    simp [group?_eq_grouped?]
  · rw [group?_eq_grouped?, predicates_put, predicates_table, optionsAt_append_singleton]
  · rw [group?_eq_grouped?, predicates_eq_flatMap_placed]

/-- A scope in which the columns of two tables are qualified. -/
def usersAndPosts : Scope := ⟨(AliasTable.register {} "users").register "posts", .auto, true⟩

/-- Conditions on a table that is known and on one that is not, in a group for another table. -/
theorem group?_table_users :
    let condition := Condition.equal "id" (.text "5")
    usersAndPosts.resolves "users" = true ∧ usersAndPosts.resolves "ghosts" = false ∧
      usersAndPosts.group? .mysql ⟨[.table "users" [condition]], { table := some "posts" }⟩ =
        usersAndPosts.group? .mysql ⟨[condition], { table := some "users", unquoted := true }⟩ ∧
      usersAndPosts.group? .mysql ⟨[.table "ghosts" [condition]], { table := some "posts" }⟩ =
        usersAndPosts.group? .mysql ⟨[condition], {}⟩ := by
  intro condition
  have known : usersAndPosts.resolves "users" = true := by decide +kernel
  have unknown : usersAndPosts.resolves "ghosts" = false := by decide +kernel
  refine ⟨known, unknown, ?_, ?_⟩
  · exact (group?_table usersAndPosts .mysql { table := some "posts" } "users" [condition]).1 known
  · exact (group?_table usersAndPosts .mysql { table := some "posts" } "ghosts" [condition]).2.1
      unknown

example :
    let condition := Condition.equal "id" (.text "5")
    (usersAndPosts.group? .mysql
      ⟨[condition, .table "ghosts" [.table "users" [condition], condition]],
        { table := some "posts" }⟩).map (·.fill usersAndPosts.qualifierOf) =
      some "(T1.id = '5' AND T0.id = 5 AND id = '5')" := by
  decide +kernel

end Scope

end SqlQuery
