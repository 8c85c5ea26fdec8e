import Mathlib.Data.List.Basic
import SqlQuery.Statement

/-!
Where joins stand in the list of tables.

A join can be reached from a table if it extends that table, or a table that a reachable join brings
in.  `Placement.extend` walks the joins depth first while it takes them out of the pending ones; the
three facts that carry everything else are that it places only what can be reached
(`Placement.exists_reachable_of_mem_placed`), that it leaves nothing behind that extends a table it
has seen (`Placement.left_not_mem_of_mem_pending` and `Placement.left_ne_right_of_mem_pending`), and
that it keeps the order of the joins that extend one table (`Placement.filter_left_extend`).

`FromItem.Layout` collects what the list of tables looks like as a whole, and
`FromItem.layout_ofDeclared` shows it of any tables and joins, whatever graph these form.  The text
of the list follows it item by item.
-/

namespace SqlQuery

/-- The join can be reached from the table: it extends it, or it extends a table that a join brings
in which can be reached. -/
inductive Join.ReachableFrom (joins : List Join) (table : String) : Join → Prop
  | extends_ {j : Join} : j ∈ joins → j.left = table → ReachableFrom joins table j
  | follows {i j : Join} :
    ReachableFrom joins table i → i.right? = some j.left → j ∈ joins → ReachableFrom joins table j

namespace Join.ReachableFrom

theorem mem {joins : List Join} {table : String} {j : Join}
    (reachable : j.ReachableFrom joins table) : j ∈ joins := by
  cases reachable with
  | extends_ member _ => exact member
  | follows _ _ member => exact member

/-- More joins reach no less. -/
theorem mono {joins joins' : List Join} (more : ∀ j ∈ joins, j ∈ joins') {table : String} {j : Join}
    (reachable : j.ReachableFrom joins table) : j.ReachableFrom joins' table := by
  induction reachable with
  | extends_ member left => exact .extends_ (more _ member) left
  | follows _ right member ih => exact .follows ih right (more _ member)

/-- What can be reached from a table that a reachable join brings in can be reached itself. -/
theorem trans {joins : List Join} {table right : String} {i j : Join}
    (reachable : i.ReachableFrom joins table) (brings : i.right? = some right)
    (onward : j.ReachableFrom joins right) : j.ReachableFrom joins table := by
  induction onward with
  | extends_ member left => exact .follows reachable (brings.trans (by rw [left])) member
  | follows _ next member ih => exact .follows ih next member

end Join.ReachableFrom

namespace Placement

/-! ## One walk -/

theorem mem_placed_or_mem_pending (tables : List String) (pending : List Join) (j : Join) :
    j ∈ (extend tables pending).placed ∨ j ∈ (extend tables pending).pending ↔ j ∈ pending := by
  rw [← List.mem_append]
  exact (extend_perm tables pending).mem_iff

/-- Only joins that can be reached from one of the tables are placed. -/
theorem exists_reachable_of_mem_placed {tables : List String} {pending : List Join} {j : Join}
    (placed : j ∈ (extend tables pending).placed) :
    ∃ table ∈ tables, j.ReachableFrom pending table := by
  fun_induction extend tables pending with
  | case1 pending => cases placed
  | case2 pending table rest none ih =>
    obtain ⟨root, member, reachable⟩ := ih placed
    exact ⟨root, List.mem_cons_of_mem table member, reachable⟩
  | case3 pending table rest join found _ after ih =>
    have isPending := List.mem_of_find?_eq_some found
    have left : join.left = table := by simpa using List.find?_some found
    have here : join.ReachableFrom pending table := .extends_ isPending left
    rcases List.mem_cons.1 placed with rfl | later
    · exact ⟨table, List.mem_cons_self, here⟩
    · obtain ⟨root, member, reachable⟩ := ih later
      have fewer : ∀ i ∈ pending.erase join, i ∈ pending := fun i => List.mem_of_mem_erase
      have inPending := reachable.mono fewer
      rcases List.mem_append.1 member with brought | listed
      · exact ⟨table, List.mem_cons_self, here.trans (Option.mem_toList.1 brought) inPending⟩
      · exact ⟨root, listed, inPending⟩

/-- No join that is left extends one of the tables. -/
theorem left_not_mem_of_mem_pending {tables : List String} {pending : List Join} {j : Join}
    (left : j ∈ (extend tables pending).pending) : j.left ∉ tables := by
  fun_induction extend tables pending with
  | case1 pending => exact List.not_mem_nil
  | case2 pending table rest none ih =>
    have isPending := (mem_placed_or_mem_pending rest pending j).1 (.inr left)
    have other : ¬(j.left == table) = true := List.find?_eq_none.1 none j isPending
    rw [List.mem_cons, not_or]
    exact ⟨by simpa using other, ih left⟩
  | case3 pending table rest join found _ after ih =>
    have absent := ih left
    rw [List.mem_append, not_or] at absent
    exact absent.2

/-- No join that is left extends a table that a placed join brings in. -/
theorem left_ne_right_of_mem_pending {tables : List String} {pending : List Join} {i j : Join}
    (placed : i ∈ (extend tables pending).placed) (left : j ∈ (extend tables pending).pending) :
    i.right? ≠ some j.left := by
  fun_induction extend tables pending with
  | case1 pending => cases placed
  | case2 pending table rest none ih => exact ih placed left
  | case3 pending table rest join found _ after ih =>
    rcases List.mem_cons.1 placed with rfl | later
    · intro brings
      have absent := left_not_mem_of_mem_pending left
      rw [List.mem_append, not_or] at absent
      exact absent.1 (Option.mem_toList.2 brings)
    · exact ih later left

/-- Taking out a join that is not selected leaves those that are. -/
theorem filter_erase_of_not {p : Join → Bool} {join : Join} (out : ¬p join = true)
    (joins : List Join) : (joins.erase join).filter p = joins.filter p := by
  induction joins with
  | nil => rfl
  | cons j joins ih =>
    by_cases same : j = join
    · subst same
      rw [List.erase_cons_head, List.filter_cons_of_neg out]
    · rw [List.erase_cons_tail (by simpa using same)]
      by_cases selected : p j = true
      · rw [List.filter_cons_of_pos selected, List.filter_cons_of_pos selected, ih]
      · rw [List.filter_cons_of_neg selected, List.filter_cons_of_neg selected, ih]

/-- The first join that is selected comes first among those that are. -/
theorem filter_eq_cons_of_find? {p : Join → Bool} {join : Join} {joins : List Join}
    (found : joins.find? p = some join) :
    joins.filter p = join :: (joins.erase join).filter p := by
  induction joins with
  | nil => cases found
  | cons j joins ih =>
    by_cases selected : p j = true
    · rw [List.find?_cons_of_pos selected] at found
      obtain rfl := Option.some.inj found
      rw [List.filter_cons_of_pos selected, List.erase_cons_head]
    · rw [List.find?_cons_of_neg selected] at found
      have other : ¬(j == join) = true := by
        intro same
        rw [beq_iff_eq.1 same] at selected
        exact selected (List.find?_some found)
      rw [List.filter_cons_of_neg selected, ih found, List.erase_cons_tail other,
        List.filter_cons_of_neg selected]

/-- The joins that extend one table keep their order, placed or not. -/
theorem filter_left_extend (table : String) (tables : List String) (pending : List Join) :
    ((extend tables pending).placed ++ (extend tables pending).pending).filter (·.left == table) =
      pending.filter (·.left == table) := by
  fun_induction extend tables pending with
  | case1 pending => rfl
  | case2 pending first rest none ih => exact ih
  | case3 pending first rest join found _ after ih =>
    have left : join.left = first := by simpa using List.find?_some found
    rw [List.cons_append]
    by_cases here : join.left = table
    · obtain rfl := left.symm.trans here
      rw [List.filter_cons_of_pos (by simpa using left), ih, filter_eq_cons_of_find? found]
    · have out : ¬(join.left == table) = true := by simpa using here
      rw [List.filter_cons_of_neg (p := fun j : Join => j.left == table) out, ih,
        filter_erase_of_not out]

/-- The joins below no table keep their order among those that extend one table. -/
theorem filter_left_orphans (table : String) (pending : List Join) :
    (orphans pending).filter (·.left == table) = pending.filter (·.left == table) := by
  fun_induction orphans pending with
  | case1 => rfl
  | case2 join rest _ after ih =>
    have kept := filter_left_extend table join.right?.toList rest
    rw [List.filter_append] at kept
    rw [List.cons_append, ← List.singleton_append, ← List.singleton_append (l := rest),
      List.filter_append,
      List.filter_append, List.filter_append, ih, kept]

/-! ## Several walks, one after the other -/

/-- The pending joins are those that none of the tables reaches. -/
def IsUnreached (joins : List Join) (tables : List String) (pending : List Join) : Prop :=
  ∀ j, j ∈ pending ↔ j ∈ joins ∧ ∀ table ∈ tables, ¬j.ReachableFrom joins table

/-- A walk from a further table leaves no join behind that can be reached from it.  The joins on the
way cannot have been taken out before, since then the whole rest of the way would have been. -/
theorem IsUnreached.not_mem_pending {joins : List Join} {earlier : List String}
    {pending : List Join} (unreached : IsUnreached joins earlier pending) {table : String}
    {j : Join} (reachable : j.ReachableFrom joins table) (isPending : j ∈ pending) :
    j ∉ (Placement.extend [table] pending).pending := by
  induction reachable with
  | extends_ member left =>
    intro remains
    exact left_not_mem_of_mem_pending remains (by simp [left])
  | @follows i j reachable brings member ih =>
    intro remains
    have before : i ∈ pending := by
      refine (unreached i).2 ⟨reachable.mem, ?_⟩
      intro root listed fromRoot
      exact ((unreached j).1 isPending).2 root listed (.follows fromRoot brings member)
    have placed : i ∈ (Placement.extend [table] pending).placed :=
      ((mem_placed_or_mem_pending [table] pending i).2 before).resolve_right (ih before)
    exact left_ne_right_of_mem_pending placed remains brings

/-- After a walk from a further table, the pending joins are those that this one does not reach
either. -/
theorem IsUnreached.extend {joins : List Join} {earlier : List String} {pending : List Join}
    (unreached : IsUnreached joins earlier pending) (table : String) :
    IsUnreached joins (earlier ++ [table]) (extend [table] pending).pending := by
  have sound : ∀ j ∈ (Placement.extend [table] pending).placed, j.ReachableFrom joins table := by
    intro j placed
    obtain ⟨root, member, reachable⟩ := exists_reachable_of_mem_placed placed
    obtain rfl := List.mem_singleton.1 member
    exact reachable.mono fun i inPending => ((unreached i).1 inPending).1
  intro j
  constructor
  · intro remains
    have isPending := (mem_placed_or_mem_pending [table] pending j).1 (.inr remains)
    obtain ⟨member, others⟩ := (unreached j).1 isPending
    refine ⟨member, ?_⟩
    intro root listed reachable
    rcases List.mem_append.1 listed with old | new
    · exact others root old reachable
    · obtain rfl := List.mem_singleton.1 new
      exact unreached.not_mem_pending reachable isPending remains
  · rintro ⟨member, others⟩
    have isPending : j ∈ pending :=
      (unreached j).2 ⟨member, fun root listed => others root (List.mem_append_left _ listed)⟩
    refine ((mem_placed_or_mem_pending [table] pending j).2 isPending).resolve_left ?_
    intro placed
    exact others table (by simp) (sound j placed)

end Placement

namespace FromItem

/-- The table is the first of the tables that reaches the join. -/
def IsFirstToReach (joins : List Join) (tables : List String) (k : Nat) (j : Join) : Prop :=
  (∃ table, tables[k]? = some table ∧ j.ReachableFrom joins table) ∧
    ∀ earlier ∈ tables.take k, ¬j.ReachableFrom joins earlier

theorem map_head_below (tables : List String) (pending : List Join) :
    (below tables pending).1.map FromItem.head = tables.map some := by
  induction tables generalizing pending with
  | nil => rfl
  | cons table tables ih => simp [below, ih]

/-- What is left after all items is what none of their tables reaches. -/
theorem isUnreached_below {joins : List Join} {earlier : List String} {pending : List Join}
    (unreached : Placement.IsUnreached joins earlier pending) (tables : List String) :
    Placement.IsUnreached joins (earlier ++ tables) (below tables pending).2 := by
  induction tables generalizing earlier pending with
  | nil => simpa [below] using unreached
  | cons table tables ih => simpa [below] using ih (unreached.extend table)

/-- An item has the joins that its table reaches and no table before does. -/
theorem isFirstToReach_below {joins : List Join} {earlier : List String} {pending : List Join}
    (unreached : Placement.IsUnreached joins earlier pending) (tables : List String) {k : Nat}
    {item : FromItem} (found : (below tables pending).1[k]? = some item) {j : Join}
    (placed : j ∈ item.joins) :
    IsFirstToReach joins (earlier ++ tables) (earlier.length + k) j := by
  induction tables generalizing earlier pending k with
  | nil => simp [below] at found
  | cons table tables ih =>
    cases k with
    | zero =>
      obtain rfl : _ = item := by simpa [below] using found
      have isPending := (Placement.mem_placed_or_mem_pending [table] pending j).1 (.inl placed)
      obtain ⟨root, member, reachable⟩ := Placement.exists_reachable_of_mem_placed placed
      obtain rfl := List.mem_singleton.1 member
      have inJoins : ∀ i ∈ pending, i ∈ joins := fun i inside => ((unreached i).1 inside).1
      refine ⟨⟨root, by simp, reachable.mono inJoins⟩, ?_⟩
      simpa using ((unreached j).1 isPending).2
    | succ k =>
      have later : (below tables (Placement.extend [table] pending).pending).1[k]? = some item := by
        simpa [below] using found
      have first := ih (unreached.extend table) later
      rw [List.append_assoc, List.length_append, List.length_singleton, Nat.add_assoc] at first
      rw [Nat.add_comm k 1]
      exact first

theorem filter_left_below (table : String) (tables : List String) (pending : List Join) :
    ((below tables pending).1.flatMap FromItem.joins ++ (below tables pending).2).filter
        (·.left == table) =
      pending.filter (·.left == table) := by
  induction tables generalizing pending with
  | nil => rfl
  | cons first tables ih =>
    have here := Placement.filter_left_extend table [first] pending
    have rest := ih (Placement.extend [first] pending).pending
    simp only [below, List.flatMap_cons, List.filter_append, List.append_assoc] at here rest ⊢
    rw [rest, here]

theorem map_head_addOrphans (joins : List Join) (items : List FromItem) :
    (addOrphans joins items).map FromItem.head =
      if items = [] ∧ joins ≠ [] then [none] else items.map FromItem.head := by
  fun_induction addOrphans joins items with
  | case1 none => simp_all
  | case2 some => simp_all
  | case3 last => simp
  | case4 item items _ ih =>
    rw [List.map_cons, ih]
    cases items with
    | nil => contradiction
    | cons next items => simp

/-- What is added goes to the last item. -/
theorem mem_joins_of_addOrphans {joins : List Join} {items : List FromItem} {k : Nat}
    {item : FromItem} (found : (addOrphans joins items)[k]? = some item) {j : Join}
    (placed : j ∈ item.joins) :
    (∃ own, items[k]? = some own ∧ j ∈ own.joins) ∨
      (j ∈ joins ∧ k + 1 = (addOrphans joins items).length) := by
  fun_induction addOrphans joins items generalizing k with
  | case1 none => simp at found
  | case2 some =>
    cases k with
    | zero =>
      obtain rfl := Option.some.inj found
      exact .inr ⟨placed, rfl⟩
    | succ k => simp at found
  | case3 last =>
    cases k with
    | zero =>
      obtain rfl := Option.some.inj found
      rcases List.mem_append.1 placed with own | added
      · exact .inl ⟨last, rfl, own⟩
      · exact .inr ⟨added, rfl⟩
    | succ k => simp at found
  | case4 first items _ ih =>
    cases k with
    | zero => exact .inl ⟨first, rfl, by obtain rfl := Option.some.inj found; exact placed⟩
    | succ k =>
      rcases ih (by simpa using found) with ⟨own, here, inside⟩ | ⟨added, last⟩
      · exact .inl ⟨own, by simpa using here, inside⟩
      · exact .inr ⟨added, by simpa using last⟩

/-! ## The list of tables as a whole -/

/-- The tables that no structured join brings in. -/
def freeTables (tables : List String) (joins : List Join) : List String :=
  tables.filter fun table => decide (∀ j ∈ joins, j.right? ≠ some table)

theorem heads_eq_freeTables (tables : List String) (joins : List Join) :
    heads tables joins = freeTables tables joins := by
  unfold heads freeTables
  congr 1
  funext table
  rw [Bool.eq_iff_iff]
  simp [List.mem_filterMap]

/-- The items are those of a list of the given tables and joins. -/
structure Layout (tables : List String) (joins : List Join) (items : List FromItem) : Prop where
  /-- The items start with the tables that no join brings in, in their order.  Where there is no
  such table, the joins make up the only item. -/
  heads : items.map FromItem.head =
    if freeTables tables joins = [] ∧ joins ≠ [] then [none]
    else (freeTables tables joins).map some
  /-- Every join stands in one item, and once. -/
  once : (items.flatMap FromItem.joins).Perm joins
  /-- A join stands in the item of the first table that reaches it, or in the last item where no
  table does. -/
  placed : ∀ (k : Nat) (item : FromItem), items[k]? = some item → ∀ j ∈ item.joins,
    IsFirstToReach joins (freeTables tables joins) k j ∨
      (∀ table ∈ freeTables tables joins, ¬j.ReachableFrom joins table) ∧ k + 1 = items.length
  /-- The joins that no table reaches stand behind all others. -/
  last : ∃ reached orphans, items.flatMap FromItem.joins = reached ++ orphans ∧
    (∀ j ∈ reached, ∃ table ∈ freeTables tables joins, j.ReachableFrom joins table) ∧
    ∀ j ∈ orphans, ∀ table ∈ freeTables tables joins, ¬j.ReachableFrom joins table
  /-- The joins that extend one table stand in their order. -/
  inOrder : ∀ table, (items.flatMap FromItem.joins).filter (·.left == table) =
    joins.filter (·.left == table)
  /-- Every table starts an item, or a join that stands in one brings it in. -/
  declared : ∀ table ∈ tables, some table ∈ items.map FromItem.head ∨
    ∃ item ∈ items, ∃ j ∈ item.joins, j.right? = some table

theorem isUnreached_nil (joins : List Join) : Placement.IsUnreached joins [] joins := by
  intro j
  simp

theorem ofDeclared_eq_addOrphans (tables : List String) (joins : List Join) :
    ofDeclared tables joins =
      addOrphans (Placement.orphans (below (freeTables tables joins) joins).2)
        (below (freeTables tables joins) joins).1 := by
  rw [← heads_eq_freeTables]
  rfl

theorem map_head_ofDeclared (tables : List String) (joins : List Join) :
    (ofDeclared tables joins).map FromItem.head =
      if freeTables tables joins = [] ∧ joins ≠ [] then [none]
      else (freeTables tables joins).map some := by
  rw [ofDeclared_eq_addOrphans, map_head_addOrphans, map_head_below]
  cases free : freeTables tables joins with
  | cons table rest => simp [below]
  | nil =>
    -- Without a table to start from nothing is below one, and all joins are orphans.
    have all := (Placement.orphans_perm joins).length_eq
    cases joins with
    | nil => simp [below, Placement.orphans]
    | cons join joins =>
      have some : Placement.orphans (join :: joins) ≠ [] := by
        intro none
        rw [none] at all
        cases all
      simp [below, some]

/-- An item that starts with a table starts with a declared one. -/
theorem mem_tables_of_head {tables : List String} {joins : List Join} {item : FromItem}
    (listed : item ∈ ofDeclared tables joins) {table : String} (head : item.head = some table) :
    table ∈ tables := by
  have inHeads : some table ∈ (ofDeclared tables joins).map FromItem.head :=
    head ▸ List.mem_map_of_mem listed
  rw [map_head_ofDeclared] at inHeads
  split at inHeads
  case isTrue => cases List.mem_singleton.1 inHeads
  case isFalse =>
    obtain ⟨free, inFree, same⟩ := List.mem_map.1 inHeads
    obtain rfl := Option.some.inj same
    exact (List.mem_filter.1 inFree).1

theorem freeTables_ne_nil_iff {tables : List String} {joins : List Join} :
    freeTables tables joins ≠ [] ↔ ∃ table ∈ tables, ∀ j ∈ joins, j.right? ≠ some table := by
  simp [freeTables, List.filter_eq_nil_iff]

/-- With a table to start from, every item starts with one. -/
theorem exists_head_of_freeTables_ne_nil {tables : List String} {joins : List Join}
    (free : freeTables tables joins ≠ []) {item : FromItem}
    (listed : item ∈ ofDeclared tables joins) : ∃ table ∈ tables, item.head = some table := by
  have isHead := List.mem_map_of_mem (f := FromItem.head) listed
  rw [map_head_ofDeclared, if_neg (fun both => free both.1)] at isHead
  rcases List.mem_map.1 isHead with ⟨table, isFree, same⟩
  exact ⟨table, (List.mem_filter.1 isFree).1, same.symm⟩

/-- An item has no joins but the given ones. -/
theorem mem_joins_of_item {tables : List String} {joins : List Join} {item : FromItem}
    (listed : item ∈ ofDeclared tables joins) {j : Join} (placed : j ∈ item.joins) : j ∈ joins :=
  (flatMap_joins_ofDeclared_perm tables joins).mem_iff.1 (List.mem_flatMap.2 ⟨item, listed, placed⟩)

/-- Every table that was declared starts an item or is brought in by a join. -/
theorem mem_heads_or_brought (tables : List String) (joins : List Join) {table : String}
    (listed : table ∈ tables) :
    some table ∈ (ofDeclared tables joins).map FromItem.head ∨
      ∃ item ∈ ofDeclared tables joins, ∃ j ∈ item.joins, j.right? = some table := by
  by_cases free : ∀ j ∈ joins, j.right? ≠ some table
  · left
    have member : table ∈ freeTables tables joins :=
      List.mem_filter.2 ⟨listed, by simpa using free⟩
    rw [map_head_ofDeclared, if_neg (fun both => List.ne_nil_of_mem member both.1)]
    exact List.mem_map_of_mem member
  · right
    simp only [not_forall, not_not] at free
    obtain ⟨j, member, brings⟩ := free
    have placed := (flatMap_joins_ofDeclared_perm tables joins).mem_iff.2 member
    obtain ⟨item, inItems, inside⟩ := List.mem_flatMap.1 placed
    exact ⟨item, inItems, j, inside, brings⟩

theorem layout_ofDeclared (tables : List String) (joins : List Join) :
    Layout tables joins (ofDeclared tables joins) := by
  have unreached := isUnreached_below (isUnreached_nil joins) (freeTables tables joins)
  rw [List.nil_append] at unreached
  have isOrphan : ∀ j ∈ Placement.orphans (below (freeTables tables joins) joins).2,
      ∀ table ∈ freeTables tables joins, ¬j.ReachableFrom joins table := by
    intro j member
    exact ((unreached j).1 ((Placement.orphans_perm _).mem_iff.1 member)).2
  have isReached : ∀ k item, (below (freeTables tables joins) joins).1[k]? = some item →
      ∀ j ∈ item.joins, IsFirstToReach joins (freeTables tables joins) k j := by
    intro k item found j member
    simpa using isFirstToReach_below (isUnreached_nil joins) _ found member
  have written := ofDeclared_eq_addOrphans tables joins
  constructor
  case heads => exact map_head_ofDeclared tables joins
  case once => exact flatMap_joins_ofDeclared_perm tables joins
  case placed =>
    intro k item found j member
    rw [written] at found
    rcases mem_joins_of_addOrphans found member with ⟨own, here, inside⟩ | ⟨added, isLast⟩
    · exact .inl (isReached k own here j inside)
    · rw [written]
      exact .inr ⟨isOrphan j added, isLast⟩
  case last =>
    refine ⟨_, _, by rw [written, flatMap_joins_addOrphans], ?_, isOrphan⟩
    intro j member
    obtain ⟨item, listed, inside⟩ := List.mem_flatMap.1 member
    obtain ⟨k, found⟩ := List.mem_iff_getElem?.1 listed
    obtain ⟨⟨table, isHead, reachable⟩, -⟩ := isReached k item found j inside
    exact ⟨table, List.mem_of_getElem? isHead, reachable⟩
  case inOrder =>
    intro table
    have kept := filter_left_below table (freeTables tables joins) joins
    rw [List.filter_append] at kept
    rw [written, flatMap_joins_addOrphans, List.filter_append, Placement.filter_left_orphans, kept]
  case declared => exact fun table listed => mem_heads_or_brought tables joins listed

end FromItem

/-! ## The text of the list -/

/-- A fragment that makes a text for some qualifiers is not blank. -/
theorem Fragment.isBlank_of_fill_ne_empty {qualifierOf : Nat → String} {f : Fragment}
    (written : f.fill qualifierOf ≠ "") : f.isBlank = false := by
  rw [Bool.eq_false_iff]
  exact fun blank => written (fill_of_isBlank blank qualifierOf)

namespace Scope

/-- The text of an item: the declaration of its table and its joins, with spaces between. -/
def itemText (s : Scope) (item : FromItem) : String :=
  " ".intercalate
    ((item.head.map fun table => (s.introduction table).fill s.qualifierOf).toList ++
      item.joins.map fun j => (s.join j).fill s.qualifierOf)

theorem fill_fromItem (s : Scope) (item : FromItem) :
    (s.fromItem item).fill s.qualifierOf = s.itemText item := by
  unfold fromItem itemText
  rw [Fragment.fill_separated, List.map_append, List.map_map]
  cases item.head <;> rfl

/-- A table that has a name is not introduced by nothing. -/
theorem isBlank_introduction {s : Scope} (names : ∀ entry ∈ s.aliases.entries, entry.name ≠ "")
    {table : String} (named : table ≠ "") : (s.introduction table).isBlank = false := by
  unfold introduction
  split
  case h_1 => simp [Fragment.isBlank, named]
  case h_2 i resolved =>
    split
    case h_1 => simp [Fragment.isBlank, named]
    case h_2 entry found =>
      have name := names entry (List.mem_of_getElem? found)
      split <;> simp [Fragment.isBlank, name]

theorem isBlank_fromItem_of_introduction {s : Scope} {item : FromItem} {table : String}
    (head : item.head = some table) (declared : (s.introduction table).isBlank = false) :
    (s.fromItem item).isBlank = false := by
  unfold fromItem
  rw [head]
  cases item.joins with
  | nil => simpa [Fragment.separated] using declared
  | cons j joins =>
    simp [Fragment.separated, Fragment.isBlank]

theorem isBlank_fromItem {s : Scope} (names : ∀ entry ∈ s.aliases.entries, entry.name ≠ "")
    {item : FromItem} {table : String} (head : item.head = some table) (named : table ≠ "") :
    (s.fromItem item).isBlank = false :=
  isBlank_fromItem_of_introduction head (isBlank_introduction names named)

/-- Fragments none of which is blank, or a single one, make their texts with the separator. -/
theorem fill_joined (qualifierOf : Nat → String) (separator : String) {fs : List Fragment}
    (written : (∀ f ∈ fs, f.isBlank = false) ∨ fs.length ≤ 1) :
    (Fragment.joined separator fs).fill qualifierOf =
      separator.intercalate (fs.map (Fragment.fill qualifierOf)) := by
  unfold Fragment.joined
  rw [Fragment.fill_separated]
  rcases written with each | single
  · rw [List.filter_eq_self.2]
    intro f member
    simp [each f member]
  · rcases fs with _ | ⟨f, _ | ⟨g, rest⟩⟩
    · rfl
    · by_cases blank : f.isBlank = true
      · simp [blank, Fragment.fill_of_isBlank blank]
      · simp [blank]
    · simp at single

end Scope

/-- The list of tables is a comma list of items that are laid out as they should be, whatever joins
there are: none is lost, none is repeated, and each stands where it can be reached. -/
theorem Draft.fill_fromList (d : Draft) (tables : ∀ table ∈ d.tables, table ≠ "")
    (names : ∀ entry ∈ d.aliases.entries, entry.name ≠ "") :
    ∃ items, FromItem.Layout d.tables d.joins items ∧
      d.fromList.fill d.scope.qualifierOf = ", ".intercalate (items.map d.scope.itemText) := by
  have layout := FromItem.layout_ofDeclared d.tables d.joins
  refine ⟨_, layout, ?_⟩
  have texts : (FromItem.ofDeclared d.tables d.joins).map d.scope.itemText =
      ((FromItem.ofDeclared d.tables d.joins).map d.scope.fromItem).map
        (Fragment.fill d.scope.qualifierOf) := by
    rw [List.map_map]
    exact List.map_congr_left fun item _ => (d.scope.fill_fromItem item).symm
  rw [texts]
  apply Scope.fill_joined
  have heads := layout.heads
  split at heads
  case isTrue =>
    right
    have single := congrArg List.length heads
    rw [List.length_map, List.length_singleton] at single
    exact Nat.le_of_eq (by rw [List.length_map, single])
  case isFalse =>
    left
    intro f member
    obtain ⟨item, listed, rfl⟩ := List.mem_map.1 member
    have isHead : item.head ∈ (FromItem.freeTables d.tables d.joins).map some := by
      rw [← heads]
      exact List.mem_map_of_mem listed
    obtain ⟨table, free, same⟩ := List.mem_map.1 isHead
    exact Scope.isBlank_fromItem names same.symm (tables table (List.mem_filter.1 free).1)

/-- A draft whose joins form a chain against their order, a cycle, a join of a table with itself and
one that extends a table no join reaches. -/
def Draft.tangled : Draft :=
  { Draft.empty .auto with
    tables := ["users", "tags"]
    joins := [.structured .left "posts" "comments" [("id", "post_id")],
      .structured .inner "users" "posts" [("id", "user_id")],
      .structured .inner "comments" "posts" [],
      .raw "tags" "CROSS JOIN seasons",
      .structured .inner "tags" "tags" [],
      .raw "nowhere" "CROSS JOIN elsewhere"] }

theorem Draft.fill_fromList_tangled :
    (∀ table ∈ Draft.tangled.tables, table ≠ "") ∧
      (∀ entry ∈ Draft.tangled.aliases.entries, entry.name ≠ "") ∧
      ∃ items, FromItem.Layout Draft.tangled.tables Draft.tangled.joins items ∧
        Draft.tangled.fromList.fill Draft.tangled.scope.qualifierOf =
          ", ".intercalate (items.map Draft.tangled.scope.itemText) :=
  ⟨by decide, by decide, Draft.fill_fromList Draft.tangled (by decide) (by decide)⟩

end SqlQuery
