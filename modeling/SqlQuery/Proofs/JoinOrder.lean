import Mathlib.Data.Set.Finite.List
import Mathlib.Order.WellFoundedSet
import SqlQuery.Proofs.DeclaredTables
import SqlQuery.Proofs.FromLayout
import SqlQuery.Proofs.RowStatement

/-!
Joins stand behind the tables that they extend.

Where joins make up no cycle and extend declared tables only, going back along them from any of
these tables ends at one that no join brings in (`Join.Acyclic.isRooted`), so none of them is left
for the end of the list of tables (`FromItem.below_eq_nil`).  The builder declares the tables that
its joins extend (`Draft.IsAnchored`), whatever order its calls come in, and a walk along the joins
places each behind one that brings in the table it extends (`Placement.follows_of_placed`).
-/

namespace SqlQuery

/-! ## Joins without cycles -/

namespace Join

/-- A join that extends the one table brings in the other one. -/
def Leads (joins : List Join) (table right : String) : Prop :=
  ∃ j ∈ joins, j.left = table ∧ j.right? = some right

/-- No way along the joins leads from a table back to it. -/
def Acyclic (joins : List Join) : Prop := ∀ table, ¬Relation.TransGen (Leads joins) table table

/-- Without a cycle, leading back through joins has an end among finitely many tables. -/
theorem Acyclic.wellFoundedOn {joins : List Join} (acyclic : Acyclic joins) (tables : List String) :
    Set.WellFoundedOn {table | table ∈ tables} (Relation.TransGen (Leads joins)) := by
  have irreflexive : Std.Irrefl (Relation.TransGen (Leads joins)) := ⟨acyclic⟩
  have strict : IsStrictOrder String (Relation.TransGen (Leads joins)) := {}
  exact (List.finite_toSet tables).wellFoundedOn

/-- Joins that all lead up some order of the tables make up no cycle. -/
theorem acyclic_of_rank {joins : List Join} (rank : String → Nat)
    (up : ∀ j ∈ joins, ∀ right ∈ j.right?, rank j.left < rank right) : Acyclic joins := by
  intro table cycle
  have climbs : ∀ right, Relation.TransGen (Leads joins) table right → rank table < rank right := by
    intro right way
    induction way with
    | single step =>
      rcases step with ⟨j, member, rfl, brings⟩
      exact up j member _ brings
    | tail _ step ih =>
      rcases step with ⟨j, member, rfl, brings⟩
      exact ih.trans (up j member _ brings)
  exact (climbs table cycle).false

/-- The table is one that no join brings in, or a join that can be reached from such a one brings it
in. -/
def IsRooted (tables : List String) (joins : List Join) (table : String) : Prop :=
  ∃ root ∈ FromItem.freeTables tables joins,
    root = table ∨ ∃ i : Join, i.ReachableFrom joins root ∧ i.right? = some table

/-- A join on a rooted table is reached from a table that no join brings in. -/
theorem IsRooted.exists_reachable {tables : List String} {joins : List Join} {j : Join}
    (rooted : IsRooted tables joins j.left) (member : j ∈ joins) :
    ∃ root ∈ FromItem.freeTables tables joins, j.ReachableFrom joins root := by
  rcases rooted with ⟨root, isFree, here | ⟨i, reachable, next⟩⟩
  · exact ⟨root, isFree, .extends_ member here.symm⟩
  · exact ⟨root, isFree, .follows reachable next member⟩

/-- Every declared table is rooted.  The induction goes back along the joins. -/
theorem Acyclic.isRooted {joins : List Join} (acyclic : Acyclic joins) {tables : List String}
    (anchored : ∀ j ∈ joins, j.left ∈ tables) {table : String} (declared : table ∈ tables) :
    IsRooted tables joins table := by
  refine (acyclic.wellFoundedOn tables).induction (P := IsRooted tables joins) declared ?_
  intro table declared ih
  by_cases free : ∀ j ∈ joins, j.right? ≠ some table
  · exact ⟨table, List.mem_filter.2 ⟨declared, by simpa using free⟩, .inl rfl⟩
  · simp only [not_forall, not_not] at free
    rcases free with ⟨j, member, brings⟩
    have back : Relation.TransGen (Leads joins) j.left table := .single ⟨j, member, rfl, brings⟩
    have rooted := ih j.left (anchored j member) back
    rcases rooted.exists_reachable member with ⟨root, isFree, reachable⟩
    exact ⟨root, isFree, .inr ⟨j, reachable, brings⟩⟩

end Join

/-! ## Where joins are placed -/

namespace Placement

/-- A join is placed behind one that brings in the table it extends, unless that is one of the
tables the walk starts from. -/
theorem follows_of_placed {tables : List String} {pending after : List Join} {j : Join} :
    ∀ before, (extend tables pending).placed = before ++ j :: after →
      j.left ∈ tables ∨ ∃ i ∈ before, i.right? = some j.left := by
  fun_induction extend tables pending with
  | case1 pending => simp
  | case2 pending table rest none ih =>
    intro before placed
    rcases ih before placed with listed | earlier
    · exact .inl (List.mem_cons_of_mem _ listed)
    · exact .inr earlier
  | case3 pending table rest join found _ walk ih =>
    intro before placed
    cases before with
    | nil =>
      obtain rfl : join = j := (List.cons.inj placed).1
      have left : join.left = table := by simpa using List.find?_some found
      exact .inl (by simp [left])
    | cons first before =>
      rcases List.cons.inj placed with ⟨rfl, later⟩
      rcases ih before later with listed | ⟨i, member, brings⟩
      · rcases List.mem_append.1 listed with brought | listed
        · exact .inr ⟨join, List.mem_cons_self, Option.mem_toList.1 brought⟩
        · exact .inl listed
      · exact .inr ⟨i, List.mem_cons_of_mem _ member, brings⟩

theorem extend_nil (tables : List String) : extend tables [] = ⟨[], []⟩ := by
  induction tables with
  | nil => simp [extend]
  | cons table tables ih =>
    rw [extend]
    exact ih

end Placement

namespace FromItem

/-- A join stands behind the table of its item, or behind the join that brings its left table in. -/
theorem follows_of_mem_below {tables : List String} {pending : List Join} {item : FromItem}
    (listed : item ∈ (below tables pending).1) {before after : List Join} {j : Join}
    (joins : item.joins = before ++ j :: after) :
    item.head = some j.left ∨ ∃ i ∈ before, i.right? = some j.left := by
  induction tables generalizing pending with
  | nil => simp [below] at listed
  | cons table tables ih =>
    rcases List.mem_cons.1 listed with rfl | later
    · rcases Placement.follows_of_placed _ joins with start | earlier
      · exact .inl (by simp [List.mem_singleton.1 start])
      · exact .inr earlier
    · exact ih later

/-- Joins without cycles whose left tables are declared are all below a table. -/
theorem below_eq_nil {tables : List String} {joins : List Join} (acyclic : Join.Acyclic joins)
    (anchored : ∀ j ∈ joins, j.left ∈ tables) : (below (heads tables joins) joins).2 = [] := by
  have unreached := isUnreached_below (isUnreached_nil joins) (freeTables tables joins)
  rw [heads_eq_freeTables, List.eq_nil_iff_forall_not_mem]
  intro j isPending
  rcases (unreached j).1 isPending with ⟨member, none⟩
  rcases (acyclic.isRooted anchored (anchored j member)).exists_reachable member with
    ⟨root, isFree, reachable⟩
  exact none root isFree reachable

/-- If no join is left over, the items are those below the declared tables. -/
theorem ofDeclared_of_below_eq_nil {tables : List String} {joins : List Join}
    (none : (below (heads tables joins) joins).2 = []) :
    ofDeclared tables joins = (below (heads tables joins) joins).1 := by
  have unchanged (items : List FromItem) : addOrphans [] items = items := by
    fun_induction addOrphans [] items <;> simp_all
  have orphans : Placement.orphans [] = [] := by simp [Placement.orphans]
  change addOrphans (Placement.orphans (below (heads tables joins) joins).2) _ = _
  rw [none, orphans, unchanged]

/-- Without joins the items are the tables. -/
theorem ofDeclared_nil (tables : List String) :
    ofDeclared tables [] = tables.map fun table => ⟨some table, []⟩ := by
  have below : below tables [] = (tables.map fun table => ⟨some table, []⟩, []) := by
    induction tables with
    | nil => rfl
    | cons table tables ih => simp only [below, Placement.extend_nil, ih, List.map_cons]
  have all : heads tables [] = tables := by simp [heads]
  rw [ofDeclared_of_below_eq_nil] <;> rw [all, below]

end FromItem

/-! ## Declarations -/

namespace Scope

/-- A table as it is introduced, with the name that qualifies its columns if that is another one. -/
def declaration (s : Scope) (entry : AliasEntry) : String :=
  if s.active && entry.qualifier s.mode != entry.name then
    entry.name ++ " AS " ++ entry.qualifier s.mode
  else entry.name

/-- The text introduces the table of that name, and no other. -/
def Declares (s : Scope) (table : String) : Prop :=
  ∃ entry ∈ s.aliases.entries, entry.name = table ∧
    (s.introduction table).fill s.qualifierOf = s.declaration entry

variable {s : Scope} {table : String}

/-- A table that is known is introduced by its own name, not by one that is its alias too. -/
theorem exists_introduction_eq (known : table ∈ s.aliases.entries.map AliasEntry.name) :
    ∃ i entry, s.aliases.entries[i]? = some entry ∧ entry.name = table ∧
      s.introduction table =
        if s.active && entry.qualifier s.mode != entry.name then
          [.text (entry.name ++ " AS "), .introduced i]
        else [.text entry.name] := by
  cases found : s.aliases.find? table with
  | none =>
    rcases List.mem_map.1 known with ⟨entry, listed, named⟩
    exact absurd named (AliasTable.find?_eq_none_iff.1 found entry listed)
  | some i =>
    rcases AliasTable.exists_entry_of_find? found with ⟨entry, here, named⟩
    have resolved : s.resolve? table = some i := by simp [resolve?, AliasTable.resolve?, found]
    refine ⟨i, entry, here, named, ?_⟩
    simp only [introduction, resolved, here]

/-- A known table is introduced under its own name. -/
theorem declares_of_known (known : table ∈ s.aliases.entries.map AliasEntry.name) :
    s.Declares table := by
  rcases exists_introduction_eq known with ⟨i, entry, here, named, introduction⟩
  refine ⟨entry, List.mem_of_getElem? here, named, ?_⟩
  have qualifier : s.qualifierOf i = entry.qualifier s.mode := by simp [qualifierOf, here]
  rw [introduction, declaration]
  split <;> simp [Piece.fill, qualifier]

theorem fill_introduction_ne_empty (known : table ∈ s.aliases.entries.map AliasEntry.name)
    (named : table ≠ "") : (s.introduction table).fill s.qualifierOf ≠ "" := by
  rcases declares_of_known known with ⟨entry, -, rfl, declared⟩
  rw [declared, declaration]
  split <;> simp [named]

theorem isBlank_introduction_of_known (known : table ∈ s.aliases.entries.map AliasEntry.name)
    (named : table ≠ "") : (s.introduction table).isBlank = false :=
  Fragment.isBlank_of_fill_ne_empty (fill_introduction_ne_empty known named)

end Scope

/-! ## Drafts -/

namespace Draft

/-- The joins of the draft extend tables that are declared, and all its tables are known to the
alias table. -/
structure IsAnchored (d : Draft) : Prop where
  sound : d.aliases.IsSound
  named : ∀ table ∈ d.tables, table ≠ ""
  known : ∀ table ∈ d.tables, table ∈ d.aliases.entries.map AliasEntry.name
  left : ∀ j ∈ d.joins, j.left ∈ d.tables
  right : ∀ j ∈ d.joins, ∀ table, j.right? = some table →
    table ∈ d.aliases.entries.map AliasEntry.name

/-- The items hold the joins of the draft, each behind the table that it extends. -/
structure InOrder (d : Draft) (items : List FromItem) : Prop where
  once : (items.flatMap FromItem.joins).Perm d.joins
  /-- An item starts with a declared table. -/
  heads : ∀ item ∈ items, ∃ table ∈ d.tables, item.head = some table
  /-- The table that a join extends starts its item or is brought in by an earlier join of it. -/
  follows : ∀ item ∈ items, ∀ before j after, item.joins = before ++ j :: after →
    item.head = some j.left ∨ ∃ i ∈ before, i.right? = some j.left
  /-- A table that starts an item or is brought in is introduced there by its own name. -/
  declares : ∀ item ∈ items, ∀ table,
    item.head = some table ∨ (∃ j ∈ item.joins, j.right? = some table) → d.scope.Declares table

variable {d : Draft}

/-- With all joins below declared tables, every join stands behind its left table. -/
theorem IsAnchored.inOrder (anchored : d.IsAnchored) (acyclic : Join.Acyclic d.joins) :
    d.InOrder (FromItem.ofDeclared d.tables d.joins) := by
  have layout := FromItem.layout_ofDeclared d.tables d.joins
  have items := FromItem.ofDeclared_of_below_eq_nil (FromItem.below_eq_nil acyclic anchored.left)
  have heads : ∀ item ∈ FromItem.ofDeclared d.tables d.joins,
      ∃ table ∈ d.tables, item.head = some table := by
    intro item listed
    have isHead := List.mem_map_of_mem (f := FromItem.head) listed
    rw [items, FromItem.map_head_below] at isHead
    rcases List.mem_map.1 isHead with ⟨table, free, same⟩
    exact ⟨table, (List.mem_filter.1 free).1, same.symm⟩
  constructor
  case once => exact layout.once
  case heads => exact heads
  case follows =>
    intro item listed before j after joins
    rw [items] at listed
    exact FromItem.follows_of_mem_below listed joins
  case declares =>
    rintro item listed table (start | ⟨j, inside, brings⟩)
    · rcases heads item listed with ⟨_, declared, same⟩
      rw [start] at same
      rw [Option.some.inj same]
      exact Scope.declares_of_known (anchored.known _ declared)
    · have member := FromItem.mem_joins_of_item listed inside
      exact Scope.declares_of_known (anchored.right j member table brings)

/-- The list of tables is a comma list of its items: each of them starts with a table that has a
name, or there is only one. -/
theorem fill_fromList_of_known (named : ∀ table ∈ d.tables, table ≠ "")
    (known : ∀ table ∈ d.tables, table ∈ d.aliases.entries.map AliasEntry.name) :
    d.fromList.fill d.scope.qualifierOf =
      ", ".intercalate ((FromItem.ofDeclared d.tables d.joins).map d.scope.itemText) := by
  have texts : (FromItem.ofDeclared d.tables d.joins).map d.scope.itemText =
      ((FromItem.ofDeclared d.tables d.joins).map d.scope.fromItem).map
        (Fragment.fill d.scope.qualifierOf) := by
    rw [List.map_map]
    exact List.map_congr_left fun item _ => (d.scope.fill_fromItem item).symm
  rw [texts]
  apply Scope.fill_joined
  by_cases free : FromItem.freeTables d.tables d.joins = []
  · right
    rw [List.length_map, ← List.length_map FromItem.head, FromItem.map_head_ofDeclared, free]
    split <;> simp
  · left
    intro f member
    rcases List.mem_map.1 member with ⟨item, listed, rfl⟩
    rcases FromItem.exists_head_of_freeTables_ne_nil free listed with ⟨table, declared, head⟩
    exact Scope.isBlank_fromItem_of_introduction head
      (Scope.isBlank_introduction_of_known (known table declared) (named table declared))

/-- Without joins the list of tables is one of their introductions. -/
theorem fromList_of_joins_eq_nil (none : d.joins = []) :
    d.fromList = Fragment.joined ", " (d.tables.map d.scope.introduction) := by
  have alone (table : String) :
      d.scope.fromItem ⟨some table, []⟩ = d.scope.introduction table := by
    simp [Scope.fromItem, Fragment.separated]
  unfold fromList Scope.fromList
  rw [none, FromItem.ofDeclared_nil, List.map_map]
  exact congrArg _ (List.map_congr_left fun table _ => alone table)

/-- The text of a statement on rows without joins. -/
theorem sql_of_joins_eq_nil (none : d.joins = []) {escaper : Escaper} {sql : String}
    (text : (d.rowStatement? escaper).map (fun row =>
      let tables := Fragment.joined ", " (d.tables.map d.scope.introduction)
      (row.write tables (d.predicates escaper (row.others tables))).fill d.scope.qualifierOf) =
        some sql) : (d.compile escaper).sql = sql :=
  sql_of_fromList (fromList_of_joins_eq_nil none) text

/-- No item of the list is blank, as each starts with a table that has a name. -/
theorem IsAnchored.isBlank_of_mem_items (anchored : d.IsAnchored) {items : List FromItem}
    (inOrder : d.InOrder items) {f : Fragment} (listed : f ∈ items.map d.scope.fromItem) :
    f.isBlank = false := by
  rcases List.mem_map.1 listed with ⟨item, member, rfl⟩
  rcases inOrder.heads item member with ⟨table, declared, head⟩
  exact Scope.isBlank_fromItem_of_introduction head
    (Scope.isBlank_introduction_of_known (anchored.known table declared)
      (anchored.named table declared))

/-- The list of tables is a comma list of the items, and there is one if a table is declared. -/
theorem IsAnchored.fromList (anchored : d.IsAnchored) (acyclic : Join.Acyclic d.joins)
    (declared : d.tables ≠ []) :
    d.fromList.isBlank = false ∧
      d.fromList.fill d.scope.qualifierOf =
        ", ".intercalate ((FromItem.ofDeclared d.tables d.joins).map d.scope.itemText) := by
  have inOrder := anchored.inOrder acyclic
  have written : ∀ f ∈ (FromItem.ofDeclared d.tables d.joins).map d.scope.fromItem,
      f.isBlank = false := fun f listed => anchored.isBlank_of_mem_items inOrder listed
  constructor
  · have some : (FromItem.ofDeclared d.tables d.joins).map d.scope.fromItem ≠ [] := by
      rcases List.exists_mem_of_ne_nil _ declared with ⟨table, member⟩
      rcases FromItem.mem_heads_or_brought d.tables d.joins member with isHead | ⟨item, listed, -⟩
      · rcases List.mem_map.1 isHead with ⟨item, listed, -⟩
        exact List.ne_nil_of_mem (List.mem_map_of_mem listed)
      · exact List.ne_nil_of_mem (List.mem_map_of_mem listed)
    unfold Draft.fromList Scope.fromList
    rw [Fragment.joined_eq_separated written]
    rcases List.exists_cons_of_ne_nil some with ⟨f, fs, parts⟩
    rw [parts]
    exact Fragment.isBlank_separated_cons ", " (written f (by simp [parts])) fs
  · exact fill_fromList_of_known anchored.named anchored.known

/-- Where the tables are known, joins extend declared tables under the very texts that they have for
these, as long as there are no blanks around them. -/
theorem TablesAreKnown.isAnchored (tables : d.TablesAreKnown)
    (trimmed : ∀ j ∈ d.joins, Text.trim j.left = j.left ∧ j.left ≠ "") : d.IsAnchored where
  sound := tables.sound
  named := tables.named
  known := tables.known
  left j member := by
    rcases trimmed j member with ⟨same, named⟩
    rcases tables.left j member with blank | declared
    · exact absurd (same.symm.trans blank) named
    · rwa [same] at declared
  right := tables.right

end Draft

/-! ## Sessions -/

/-- The join that a call adds. -/
def Call.join? : Call → Option Join
  | .edit (.join kind left right on) => some (.structured kind left right on)
  | .edit (.joinRaw left sql) => some (.raw left sql)
  | _ => none

theorem Edit.join?_of_mem_tableSteps {mode : AliasMode} {e : Edit} {j : Join}
    (isStep : .join j ∈ e.tableSteps mode) : (Call.edit e).join? = some j := by
  cases e <;> simp_all [tableSteps, Call.join?]

namespace Session

/-- The joins that the calls add extend tables whose names are not empty and have no blanks around
them. -/
def Trimmed (calls : List (AliasMode × Call)) : Prop :=
  ∀ call ∈ calls, ∀ j ∈ call.2.join?, Text.trim j.left = j.left ∧ j.left ≠ ""

instance (calls : List (AliasMode × Call)) : Decidable (Trimmed calls) :=
  inferInstanceAs (Decidable
    (∀ call ∈ calls, ∀ j ∈ call.2.join?, Text.trim j.left = j.left ∧ j.left ≠ ""))

/-- By induction on the calls, the joins of every builder have trimmed left tables. -/
theorem trimmed_joins_runUnder {calls : List (AliasMode × Call)} (trimmed : Trimmed calls)
    (mode : AliasMode) (escaper : Escaper) :
    ∀ b ∈ (runUnder ⟨{ draft := .empty mode, escaper }, []⟩ calls).builders,
      ∀ j ∈ b.draft.joins, Text.trim j.left = j.left ∧ j.left ≠ "" := by
  refine forall_builders_of_tableSteps
    (P := fun d => ∀ j ∈ d.joins, Text.trim j.left = j.left ∧ j.left ≠ "") ?_ ?_ ?_ ?_
  · intro d other same before
    rw [same.joins]
    exact before
  · intro mode e member step isStep d before
    cases step with
    | declare table =>
      change ∀ j ∈ (d.declare table).joins, _
      rw [Draft.joins_declare]
      exact before
    | register table => exact before
    | setAlias table aliasName => exact before
    | clear mode => exact fun j none => absurd none List.not_mem_nil
    | join added =>
      intro j listed
      rcases List.mem_append.1 listed with old | new
      · exact before j old
      · rw [List.mem_singleton.1 new]
        exact trimmed _ member added (Edit.join?_of_mem_tableSteps isStep)
  · exact fun table d before => before
  · intro b isStart j listed
    rw [List.mem_singleton.1 isStart] at listed
    exact absurd listed List.not_mem_nil

theorem isAnchored_runUnder {calls : List (AliasMode × Call)} (trimmed : Trimmed calls)
    (mode : AliasMode) (escaper : Escaper) :
    ∀ b ∈ (runUnder ⟨{ draft := .empty mode, escaper }, []⟩ calls).builders,
      b.draft.IsAnchored := by
  intro b member
  have tables := tablesAreKnown_runUnder mode escaper calls b member
  exact tables.isAnchored (trimmed_joins_runUnder trimmed mode escaper b member)

/-- After any calls on a new builder, in any order, joins that make up no cycle all stand in the
list of tables of a selection, change or deletion, each in an item that starts with a declared table
and behind the declaration of the table that it extends.  None is left for the end of the list. -/
theorem inOrder_runUnder (mode : AliasMode) (escaper : Escaper) (calls : List (AliasMode × Call))
    (trimmed : Trimmed calls) :
    ∀ b ∈ (runUnder ⟨{ draft := .empty mode, escaper }, []⟩ calls).builders,
      Join.Acyclic b.draft.joins → b.draft.isOnRows = true →
        (b.draft.compile b.escaper).sql ≠ "" →
          (FromItem.below (FromItem.heads b.draft.tables b.draft.joins) b.draft.joins).2 = [] ∧
            ∃ row items, b.draft.rowStatement? b.escaper = some row ∧ b.draft.InOrder items ∧
              (b.draft.compile b.escaper).sql =
                row.before.fill b.draft.scope.qualifierOf ++ row.keyword ++ " " ++
                  ", ".intercalate (items.map b.draft.scope.itemText) ++
                  (row.behind (b.draft.predicates b.escaper (row.others b.draft.fromList))).fill
                    b.draft.scope.qualifierOf := by
  intro b member acyclic onRows written
  have anchored := isAnchored_runUnder trimmed mode escaper b member
  rcases Draft.exists_rowStatement? onRows written with ⟨row, isRow⟩
  have declared : b.draft.tables ≠ [] := by
    intro none
    simp [Draft.rowStatement?, none] at isRow
  rcases anchored.fromList acyclic declared with ⟨present, text⟩
  refine ⟨FromItem.below_eq_nil acyclic anchored.left, row, _, isRow, anchored.inOrder acyclic, ?_⟩
  rw [← text, ← row.fill_write _ present, ← Draft.statement_of_rowStatement? isRow]
  rfl

/-- Calls that add joins before those that bring in the tables they extend, two that bring in the
same table, and the table that all start from last. -/
def scattered : List (AliasMode × Call) :=
  [(.auto, .edit (.joinRaw "comments" "CROSS JOIN seasons")),
    (.auto, .edit (.join .left "posts" "comments" [("id", "post_id")])), (.auto, .save),
    (.auto, .edit (.join .inner "users" "posts" [("id", "user_id")])),
    (.auto, .read (.aliasFor "comments")),
    (.auto, .edit (.join .inner "users" "comments" [])),
    (.auto, .edit (.select ["users.id"] "users"))]

theorem inOrder_runUnder_scattered :
    let b := (runUnder ⟨{ draft := .empty .auto, escaper := .mysql }, []⟩ scattered).current
    Trimmed scattered ∧ Join.Acyclic b.draft.joins ∧ b.draft.isOnRows = true ∧
      (b.draft.compile b.escaper).sql ≠ "" ∧
        (FromItem.below (FromItem.heads b.draft.tables b.draft.joins) b.draft.joins).2 = [] ∧
          ∃ row items, b.draft.rowStatement? b.escaper = some row ∧ b.draft.InOrder items ∧
            (b.draft.compile b.escaper).sql =
              row.before.fill b.draft.scope.qualifierOf ++ row.keyword ++ " " ++
                ", ".intercalate (items.map b.draft.scope.itemText) ++
                (row.behind (b.draft.predicates b.escaper (row.others b.draft.fromList))).fill
                  b.draft.scope.qualifierOf := by
  intro b
  have trimmed : Trimmed scattered := by decide +kernel
  have acyclic : Join.Acyclic b.draft.joins :=
    Join.acyclic_of_rank (["users", "posts", "comments"].idxOf ·) (by decide +kernel)
  have onRows : b.draft.isOnRows = true := by decide +kernel
  have written : (b.draft.compile b.escaper).sql ≠ "" := by decide +kernel
  exact ⟨trimmed, acyclic, onRows, written,
    inOrder_runUnder .auto .mysql scattered trimmed b (current_mem_builders _) acyclic onRows
      written⟩

end Session

end SqlQuery
