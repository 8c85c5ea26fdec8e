import SqlQuery.Proofs.DistinctAliases
import SqlQuery.Proofs.TableTexts

/-!
The slots of a statement are places of the alias table that it was rendered with.

A slot comes from a text that is resolved, and a text is resolved to a place that has an entry
(`AliasTable.exists_getElem?_of_resolve?`).  So the statement of a draft has slots below the number
of its tables only (`Draft.slotsBelow_statement`), and its text depends on the qualifiers of these
alone (`Fragment.SlotsBelow.fill_congr`).
-/

namespace SqlQuery

/-- A text is resolved to a place that has an entry. -/
theorem AliasTable.exists_getElem?_of_resolve? {t : AliasTable} {text : String} {i : Nat}
    (resolved : t.resolve? text = some i) : ∃ e, t.entries[i]? = some e := by
  unfold resolve? at resolved
  cases named : t.find? text with
  | some j =>
    rw [named] at resolved
    rcases exists_entry_of_find? named with ⟨e, found, -⟩
    exact ⟨e, by rw [← Option.some.inj resolved, found]⟩
  | none =>
    rw [named] at resolved
    rcases exists_entry_of_findByAlias? resolved with ⟨e, found, -⟩
    exact ⟨e, found⟩

/-! ## Fragments -/

namespace Fragment

/-- Every slot of the fragment is for one of the first `n` places. -/
def SlotsBelow (n : Nat) (f : Fragment) : Prop :=
  ∀ table, .qualifier table ∈ f ∨ .introduced table ∈ f → table < n

variable {n : Nat} {f g : Fragment} {fs : List Fragment}

@[simp] theorem slotsBelow_nil : SlotsBelow n [] := by simp [SlotsBelow]

@[simp] theorem slotsBelow_text {text : String} :
    SlotsBelow n (.text text :: f) ↔ f.SlotsBelow n := by
  simp [SlotsBelow]

@[simp] theorem slotsBelow_qualifier {table : Nat} :
    SlotsBelow n (.qualifier table :: f) ↔ table < n ∧ f.SlotsBelow n := by
  simp only [SlotsBelow, List.mem_cons, Piece.qualifier.injEq, reduceCtorEq, false_or, or_assoc,
    or_imp, forall_and, forall_eq]

@[simp] theorem slotsBelow_introduced {table : Nat} :
    SlotsBelow n (.introduced table :: f) ↔ table < n ∧ f.SlotsBelow n := by
  simp only [SlotsBelow, List.mem_cons, Piece.introduced.injEq, reduceCtorEq, false_or,
    or_imp, forall_and, forall_eq]
  exact and_left_comm

@[simp] theorem slotsBelow_append :
    SlotsBelow n (f ++ g) ↔ f.SlotsBelow n ∧ g.SlotsBelow n := by
  simp only [SlotsBelow, List.mem_append, or_imp, forall_and]
  exact and_and_and_comm

/-- Separators have no slots. -/
theorem slotsBelow_separated {separator : String} (each : ∀ f ∈ fs, f.SlotsBelow n) :
    (separated separator fs).SlotsBelow n := by
  rintro table (qualifier | introduced)
  · rcases mem_separated qualifier with between | ⟨f, listed, inside⟩
    · cases between
    · exact each f listed table (.inl inside)
  · rcases mem_separated introduced with between | ⟨f, listed, inside⟩
    · cases between
    · exact each f listed table (.inr inside)

theorem slotsBelow_joined {separator : String} (each : ∀ f ∈ fs, f.SlotsBelow n) :
    (joined separator fs).SlotsBelow n :=
  slotsBelow_separated fun f member => each f (List.mem_of_mem_filter member)

/-- A keyword has no slot. -/
theorem slotsBelow_clause {keyword : String} (body : f.SlotsBelow n) :
    (clause keyword f).SlotsBelow n := by
  unfold clause
  split
  · exact slotsBelow_nil
  · exact slotsBelow_text.2 body

/-- The text depends on what stands for the places that there are slots for. -/
theorem SlotsBelow.fill_congr (below : f.SlotsBelow n) {qualifierOf qualifierOf' : Nat → String}
    (same : ∀ table < n, qualifierOf' table = qualifierOf table) :
    f.fill qualifierOf' = f.fill qualifierOf := by
  induction f with
  | nil => rfl
  | cons piece f ih =>
    rw [fill_cons, fill_cons]
    cases piece with
    | text s => rw [ih (slotsBelow_text.1 below), Piece.fill, Piece.fill]
    | qualifier table =>
      obtain ⟨here, rest⟩ := slotsBelow_qualifier.1 below
      rw [ih rest, Piece.fill, Piece.fill, same table here]
    | introduced table =>
      obtain ⟨here, rest⟩ := slotsBelow_introduced.1 below
      rw [ih rest, Piece.fill, Piece.fill, same table here]

/-- There are no references to places that there are no slots for. -/
theorem SlotsBelow.references_eq_zero (below : f.SlotsBelow n) {table : Nat} (beyond : n ≤ table) :
    f.references table = 0 := by
  unfold references
  rw [List.count_eq_zero]
  exact fun member => absurd (below table (.inl member)) (Nat.not_lt.2 beyond)

end Fragment

open Fragment

/-! ## Scopes -/

namespace Scope

variable {s : Scope}

/-- Columns are qualified by tables that the alias table has. -/
theorem lt_of_qualify? {text : String} {i : Nat} (qualified : s.qualify? text = some i) :
    i < s.aliases.entries.length := by
  have resolved : s.resolve? text = some i := by
    unfold qualify? at qualified
    split at qualified
    case isTrue => exact qualified
    case isFalse => cases qualified
  obtain ⟨e, found⟩ := AliasTable.exists_getElem?_of_resolve? resolved
  exact (List.getElem?_eq_some_iff.1 found).1

/-- A key has the slot of its table, if any. -/
theorem slotsBelow_key (context : Option String) (field : String) :
    (s.key context field).SlotsBelow s.aliases.entries.length := by
  unfold key
  split
  case h_1 table column split =>
    cases own : s.qualify? table with
    | none => simp
    | some i => simpa [qualified] using lt_of_qualify? own
  case h_2 =>
    cases bound : context.bind s.qualify? with
    | none => simp [qualified]
    | some i =>
      obtain ⟨table, -, inContext⟩ := Option.bind_eq_some_iff.1 bound
      simpa [qualified] using lt_of_qualify? inContext

/-- A column has the slot of its table, if any. -/
theorem slotsBelow_column (c : Column) : (s.column c).SlotsBelow s.aliases.entries.length := by
  unfold column
  split
  case h_1 => simp
  case h_2 named body =>
    dsimp only
    split
    case h_1 i bound =>
      split at bound
      · cases bound
      · obtain ⟨table, -, qualified⟩ := Option.bind_eq_some_iff.1 bound
        simpa using lt_of_qualify? qualified
    case h_2 => simp

theorem slotsBelow_columns (cs : List Column) :
    (s.columns cs).SlotsBelow s.aliases.entries.length := by
  apply slotsBelow_joined
  intro f member
  obtain ⟨c, -, rfl⟩ := List.mem_map.1 member
  exact slotsBelow_column c

/-- Where a table is introduced, the slot is that of its alias. -/
theorem slotsBelow_introduction (text : String) :
    (s.introduction text).SlotsBelow s.aliases.entries.length := by
  unfold introduction
  split
  case h_1 => simp
  case h_2 i resolved =>
    split
    case h_1 => simp
    case h_2 entry found =>
      have inside := (List.getElem?_eq_some_iff.1 found).1
      split
      · simpa using inside
      · simp

theorem slotsBelow_equation (left leftColumn right rightColumn : String) :
    (s.equation left leftColumn right rightColumn).SlotsBelow s.aliases.entries.length := by
  unfold equation
  rw [slotsBelow_append, slotsBelow_text]
  exact ⟨slotsBelow_key _ _, slotsBelow_key _ _⟩

/-- A join has the slots of the table it brings in and of the pairs it is on. -/
theorem slotsBelow_join (j : Join) : (s.join j).SlotsBelow s.aliases.entries.length := by
  cases j with
  | raw left sql => simp [join]
  | structured kind left right on =>
    have head := s.slotsBelow_introduction right
    unfold join
    dsimp only
    split
    · simpa using head
    · rw [slotsBelow_append, slotsBelow_text, slotsBelow_text]
      refine ⟨head, slotsBelow_separated ?_⟩
      intro f member
      obtain ⟨pair, -, rfl⟩ := List.mem_map.1 member
      exact slotsBelow_equation _ _ _ _

/-- The list of tables has the slots of its items, wherever the joins are placed. -/
theorem slotsBelow_fromList (tables : List String) (joins : List Join) :
    (s.fromList tables joins).SlotsBelow s.aliases.entries.length := by
  apply slotsBelow_joined
  intro f member
  obtain ⟨item, -, rfl⟩ := List.mem_map.1 member
  apply slotsBelow_separated
  intro g inside
  rcases List.mem_append.1 inside with isHead | isJoin
  · obtain ⟨table, -, rfl⟩ := Option.map_eq_some_iff.1 (Option.mem_toList.1 isHead)
    exact s.slotsBelow_introduction table
  · obtain ⟨j, -, rfl⟩ := List.mem_map.1 isJoin
    exact s.slotsBelow_join j

/-- An equality that is written has the slots of an equation, whatever brought it in. -/
theorem slotsBelow_of_mem_equalities {mentioned f : Fragment} {es : List Equality}
    (member : f ∈ s.equalities mentioned es) : f.SlotsBelow s.aliases.entries.length := by
  obtain ⟨e, -, rfl⟩ := List.mem_map.1 member
  exact slotsBelow_equation _ _ _ _

/-- A predicate has the slot of its key, and values have none. -/
theorem slotsBelow_of_predicate? {escaper : Escaper} {leaf : Leaf} {f : Fragment}
    (written : s.predicate? escaper leaf = some f) : f.SlotsBelow s.aliases.entries.length := by
  cases leaf with
  | raw sql =>
    simp only [predicate?] at written
    split at written
    · cases written
    · obtain rfl := Option.some.inj written
      simp
  | compare context quoted field comparison operand =>
    simp only [predicate?] at written
    split at written
    · cases written
    · obtain ⟨text, -, rfl⟩ := Option.map_eq_some_iff.1 written
      simpa using slotsBelow_key context field

/-- A group has the slots of its predicates. -/
theorem slotsBelow_of_mem_groups {escaper : Escaper} {f : Fragment} {gs : List ConditionGroup}
    (member : f ∈ s.groups escaper gs) : f.SlotsBelow s.aliases.entries.length := by
  obtain ⟨g, -, written⟩ := List.mem_filterMap.1 member
  unfold group? at written
  split at written
  case h_1 => cases written
  case h_2 =>
    obtain rfl := Option.some.inj written
    have predicates : (separated g.options.relation.separator (s.predicates escaper g)).SlotsBelow
        s.aliases.entries.length := by
      apply slotsBelow_separated
      intro p isPredicate
      obtain ⟨leaf, -, isWritten⟩ := List.mem_filterMap.1 isPredicate
      exact slotsBelow_of_predicate? isWritten
    simpa using predicates

end Scope

/-! ## Statements -/

namespace Draft

variable {d : Draft} {escaper : Escaper}

theorem slotsBelow_whereClause (others : Fragment) :
    (d.whereClause escaper others).SlotsBelow d.aliases.entries.length := by
  apply slotsBelow_clause
  apply slotsBelow_joined
  intro f member
  rcases List.mem_append.1 member with isGroup | isEquality
  · exact Scope.slotsBelow_of_mem_groups isGroup
  · exact Scope.slotsBelow_of_mem_equalities isEquality

theorem slotsBelow_countClause (keyword : String) (n : Option UInt64) (m : Nat) :
    (countClause keyword n).SlotsBelow m := by
  unfold countClause
  split
  · exact slotsBelow_clause (by simp)
  · exact slotsBelow_nil

theorem slotsBelow_assignmentList (r : Row) :
    (d.assignmentList escaper r).SlotsBelow d.aliases.entries.length := by
  apply slotsBelow_separated
  intro f member
  obtain ⟨entry, -, rfl⟩ := List.mem_map.1 member
  have key := d.scope.slotsBelow_key d.primary? entry.1
  unfold assignment
  rw [slotsBelow_append]
  exact ⟨key, by simp⟩

/-- Every part of a selection has its slots below the number of tables. -/
theorem slotsBelow_selectStatement :
    (d.selectStatement escaper).SlotsBelow d.aliases.entries.length := by
  have selectList : d.selectList.SlotsBelow d.aliases.entries.length := by
    unfold selectList
    split
    · simp
    · exact d.scope.slotsBelow_columns d.columns
  have having : (d.havingPredicates escaper).SlotsBelow d.aliases.entries.length :=
    slotsBelow_joined fun f member => Scope.slotsBelow_of_mem_groups member
  apply slotsBelow_joined
  simp only [List.forall_mem_cons]
  refine ⟨by simp, ?_, selectList, slotsBelow_clause (d.scope.slotsBelow_fromList _ _),
    slotsBelow_whereClause _, slotsBelow_clause (d.scope.slotsBelow_columns _),
    slotsBelow_clause having, slotsBelow_clause (d.scope.slotsBelow_columns _),
    slotsBelow_countClause _ _ _, ?_, by simp⟩
  · split <;> simp
  · split
    · exact slotsBelow_countClause _ _ _
    · simp

/-- Every part of a change has its slots below the number of tables. -/
theorem slotsBelow_updateStatement (r : Row) :
    (d.updateStatement escaper r).SlotsBelow d.aliases.entries.length := by
  unfold updateStatement
  split
  · simp
  · apply slotsBelow_joined
    simp only [List.forall_mem_cons]
    exact ⟨slotsBelow_clause (d.scope.slotsBelow_fromList _ _),
      slotsBelow_clause (slotsBelow_assignmentList r), slotsBelow_whereClause _,
      slotsBelow_clause (d.scope.slotsBelow_columns _), slotsBelow_countClause _ _ _, by simp⟩

theorem slotsBelow_deleteStatement :
    (d.deleteStatement escaper).SlotsBelow d.aliases.entries.length := by
  apply slotsBelow_joined
  simp only [List.forall_mem_cons]
  exact ⟨slotsBelow_clause (d.scope.slotsBelow_fromList _ _), slotsBelow_whereClause _,
    slotsBelow_clause (d.scope.slotsBelow_columns _), slotsBelow_countClause _ _ _, by simp⟩

/-- Rows are added without a slot. -/
theorem slotsBelow_insertStatement (m : Nat) : (d.insertStatement escaper).SlotsBelow m := by
  unfold insertStatement
  split
  case h_1 => simp
  case h_2 table =>
    split
    · simp
    · apply slotsBelow_joined
      simp only [List.forall_mem_cons]
      exact ⟨by simp, by simp, by simp, slotsBelow_clause (by simp), by simp⟩

/-- The slots of a statement are places of the draft's alias table. -/
theorem slotsBelow_statement (d : Draft) (escaper : Escaper) :
    (d.statement escaper).SlotsBelow d.aliases.entries.length := by
  unfold statement
  split
  case isTrue => simp
  case isFalse =>
    cases d.action with
    | none => simp
    | some action =>
      cases action with
      | select => exact slotsBelow_selectStatement
      | insert => exact slotsBelow_insertStatement _
      | upsert =>
        dsimp only
        unfold upsertStatement
        split
        · exact slotsBelow_insertStatement _
        · exact slotsBelow_updateStatement _
      | update => exact slotsBelow_updateStatement _
      | delete => exact slotsBelow_deleteStatement
      | truncate => exact slotsBelow_clause (by simp)

end Draft

end SqlQuery
