import SqlQuery.Join

/-!
The list of tables after `FROM`, and after `UPDATE`.

Its items are the tables that no join brings in, in the order of their declaration, each followed by
the joins that extend it, by those that extend a table they bring in, and so on, depth first. Joins
that extend no table of the list follow its last item. Every join is placed once: `placed` and
`pending` together are always a rearrangement of the joins there are.
-/

namespace SqlQuery

/-- Joins in the order they are written, and those that are still to be placed. -/
structure Placement where
  placed : List Join
  pending : List Join
deriving DecidableEq, Repr

namespace Placement

/-- Taking a join out leaves fewer. -/
theorem length_erase_lt {pending : List Join} {p : Join → Bool} {join : Join}
    (h : pending.find? p = some join) : (pending.erase join).length < pending.length := by
  have member := List.mem_of_find?_eq_some h
  have := List.length_erase_of_mem member
  have := List.length_pos_of_mem member
  omega

/-- Places the pending joins that extend one of the given tables, the first table first: each join
in the order of the pending ones, and behind it those that extend the table it brings in. -/
def extend (tables : List String) (pending : List Join) : Placement :=
  match tables with
  | [] => ⟨[], pending⟩
  | table :: rest =>
    match h : pending.find? (·.left == table) with
    | none => extend rest pending
    | some join =>
      have := length_erase_lt h
      let after := extend (join.right?.toList ++ table :: rest) (pending.erase join)
      ⟨join :: after.placed, after.pending⟩
termination_by (pending.length, tables.length)

/-- Placing joins neither adds nor drops one. -/
theorem extend_perm (tables : List String) (pending : List Join) :
    ((extend tables pending).placed ++ (extend tables pending).pending).Perm pending := by
  fun_induction extend tables pending with
  | case1 pending => simp
  | case2 pending table rest h ih => exact ih
  | case3 pending table rest join h _ after ih =>
    exact (List.Perm.cons join ih).trans
      (List.perm_cons_erase (List.mem_of_find?_eq_some h)).symm

/-- Placing joins leaves no more of them. -/
theorem length_pending_extend_le (tables : List String) (pending : List Join) :
    (extend tables pending).pending.length ≤ pending.length := by
  have := (extend_perm tables pending).length_eq
  simp only [List.length_append] at this
  omega

/-- Places joins that extend no table: the first of them, what extends the table it brings in, and
so on until none is left. -/
def orphans (pending : List Join) : List Join :=
  match pending with
  | [] => []
  | join :: rest =>
    have := length_pending_extend_le join.right?.toList rest
    let after := extend join.right?.toList rest
    join :: after.placed ++ orphans after.pending
termination_by pending.length
decreasing_by simp only [List.length_cons]; omega

/-- Every join that extends no table is placed once. -/
theorem orphans_perm (pending : List Join) : (orphans pending).Perm pending := by
  fun_induction orphans pending with
  | case1 => exact List.Perm.refl _
  | case2 join rest _ after ih =>
    exact List.Perm.cons join ((List.Perm.append_left _ ih).trans (extend_perm _ _))

end Placement

/-- An item of the list of tables: the table it starts with and the joins that follow. Only an item
that is alone in its list may have no table. -/
structure FromItem where
  head : Option String
  joins : List Join
deriving DecidableEq, Repr

namespace FromItem

/-- The tables that no join brings in. -/
def heads (tables : List String) (joins : List Join) : List String :=
  tables.filter fun table => !(joins.filterMap Join.right?).contains table

/-- The items that start with the given tables, each with the pending joins below it that no item
before it has, and the joins that are below none. -/
def below : List String → List Join → List FromItem × List Join
  | [], pending => ([], pending)
  | table :: tables, pending =>
    let here := Placement.extend [table] pending
    let (items, left) := below tables here.pending
    (⟨some table, here.placed⟩ :: items, left)

/-- Adds joins that extend no table to the last item. Where there is none, they make up an item of
their own. -/
def addOrphans (joins : List Join) : List FromItem → List FromItem
  | [] => if joins.isEmpty then [] else [⟨none, joins⟩]
  | [last] => [{ last with joins := last.joins ++ joins }]
  | item :: items => item :: addOrphans joins items

/-- The items of the list of the given tables and joins. -/
def ofDeclared (tables : List String) (joins : List Join) : List FromItem :=
  let (items, left) := below (heads tables joins) joins
  addOrphans (Placement.orphans left) items

/-- Every join that is below no table is pending for the items and placed behind them. -/
theorem below_perm (tables : List String) (pending : List Join) :
    ((below tables pending).1.flatMap FromItem.joins ++ (below tables pending).2).Perm pending := by
  induction tables generalizing pending with
  | nil => simp [below]
  | cons table tables ih =>
    simp only [below, List.flatMap_cons, List.append_assoc]
    exact (List.Perm.append_left _ (ih _)).trans (Placement.extend_perm _ _)

/-- The joins that extend no table come last. -/
theorem flatMap_joins_addOrphans (joins : List Join) (items : List FromItem) :
    (addOrphans joins items).flatMap FromItem.joins = items.flatMap FromItem.joins ++ joins := by
  fun_induction addOrphans joins items with
  | case1 h => simp_all
  | case2 h => simp
  | case3 last => simp
  | case4 item items _ ih => simp [ih]

/-- The items hold every join once. -/
theorem flatMap_joins_ofDeclared_perm (tables : List String) (joins : List Join) :
    ((ofDeclared tables joins).flatMap FromItem.joins).Perm joins := by
  simp only [ofDeclared, flatMap_joins_addOrphans]
  exact (List.Perm.append_left _ (Placement.orphans_perm _)).trans (below_perm _ _)

end FromItem

namespace Scope

/-- An item of the list of tables: its parts with a space between every two. -/
def fromItem (s : Scope) (item : FromItem) : Fragment :=
  Fragment.separated " " ((item.head.map s.introduction).toList ++ item.joins.map s.join)

/-- The list of tables after `FROM`. -/
def fromList (s : Scope) (tables : List String) (joins : List Join) : Fragment :=
  Fragment.joined ", " ((FromItem.ofDeclared tables joins).map s.fromItem)

end Scope

end SqlQuery
