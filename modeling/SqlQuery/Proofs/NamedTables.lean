import Mathlib.Data.List.Basic
import SqlQuery.Proofs.Survival

/-!
The places where a statement names a column of a table.

`Draft.namedTables` lists, from the draft alone, the tables whose columns the statement names: one
entry for every column, key and side of a pair that is printed and has a table, under the name that
is given for it there.  `Scope.Names` relates a fragment to such a list if each table is referred to
in the one as often as it is meant in the other.  It holds of keys and columns, and of what is put
together from parts that it holds of: joins wherever they are placed (`Scope.names_fromList`),
nested conditions (`Scope.names_leaves`) and the equalities that the rest brings in
(`Scope.names_equalities`).
-/

namespace SqlQuery

/-! ## Where columns of tables are named -/

/-- The table that a key belongs to: the one it names itself, or else that of its context. -/
def keyTable? (context : Option String) (field : String) : Option String :=
  match Text.splitQualified? field with
  | some (table, _) => some table
  | none => context

/-- The table of a column.  A star and a verbatim expression are of none. -/
def Column.namedTable? (c : Column) : Option String :=
  if c.isVerbatim || c.isStar then none else c.table

/-- The tables of the two sides of every pair that a join is on. -/
def Join.namedTables : Join → List String
  | .raw _ _ => []
  | .structured _ left right on =>
    on.flatMap fun pair =>
      (keyTable? (some left) pair.1).toList ++ (keyTable? (some right) pair.2).toList

/-- The tables of the two sides of an equality. -/
def Equality.namedTables (e : Equality) : List String :=
  (keyTable? (some e.left) e.leftColumn).toList ++ (keyTable? (some e.right) e.rightColumn).toList

namespace Condition

mutual

/-- The tables of the fields that a condition compares, unless it is dropped. -/
def namedTables (context : Option String) : Condition → List String
  | .raw _ => []
  | .compare field comparison operand =>
    if (Condition.compare field comparison operand).survives then (keyTable? context field).toList
    else []
  | .table name conditions => namedTablesOfAll (some name) conditions

/-- The tables of the fields that conditions compare. -/
def namedTablesOfAll (context : Option String) : List Condition → List String
  | [] => []
  | c :: cs => namedTables context c ++ namedTablesOfAll context cs

end

end Condition

/-- The tables of the fields that a group compares. -/
def ConditionGroup.namedTables (g : ConditionGroup) : List String :=
  Condition.namedTablesOfAll g.options.table g.conditions

/-- How many of the given names mean the table at the given place.  None does where columns are not
qualified. -/
def Scope.places (s : Scope) (named : List String) (table : Nat) : Nat :=
  if s.active then named.countP fun text => s.resolve? text == some table else 0

/-- The table of the given name is meant by one of the given names. -/
def Scope.isMeant (s : Scope) (named : List String) (table : String) : Bool :=
  (s.resolve? table).any fun i => 0 < s.places named i

namespace Draft

variable (d : Draft)

/-- The tables of the pairs that the joins are on. -/
def joinedTables : List String := d.joins.flatMap Join.namedTables

/-- The tables of the fields that the groups on the rows compare. -/
def comparedTables : List String := d.wheres.flatMap ConditionGroup.namedTables

/-- The tables of the equalities that the given ones bring in, which mean both sides of them. -/
def equatedTables (named : List String) : List String :=
  (d.equalities.filter fun e =>
    d.scope.isMeant named e.left && d.scope.isMeant named e.right).flatMap Equality.namedTables

/-- The given tables, and those of the equalities that they bring in. -/
def withEqualities (named : List String) : List String := named ++ d.equatedTables named

/-- The tables whose columns a selection names. -/
def selectedTables : List String :=
  d.withEqualities (d.columns.filterMap Column.namedTable? ++ d.joinedTables ++
    d.comparedTables ++ d.groupBy.filterMap Column.namedTable? ++
    d.having.flatMap ConditionGroup.namedTables ++ d.orderBy.filterMap Column.namedTable?)

/-- The tables whose columns a change to the given row names. -/
def changedTables (r : Row) : List String :=
  if r.isEmpty then []
  else
    d.withEqualities (d.joinedTables ++ r.columns.filterMap (keyTable? d.primary?) ++
      d.comparedTables ++ d.orderBy.filterMap Column.namedTable?)

/-- The tables whose columns a deletion names. -/
def deletedTables : List String :=
  d.withEqualities (d.joinedTables ++ d.comparedTables ++
    d.orderBy.filterMap Column.namedTable?)

/-- The tables whose columns the statement names, one for each place.  Rows to be added and tables
to be emptied are not qualified. -/
def namedTables : List String :=
  if d.tables.isEmpty then []
  else
    match d.action with
    | none | some .insert | some .truncate => []
    | some .select => d.selectedTables
    | some .upsert =>
      if d.wheres.any ConditionGroup.survives then d.changedTables (d.rows.head?.getD .empty)
      else []
    | some .update => d.changedTables d.assignments
    | some .delete => d.deletedTables

end Draft

/-! ## Counting in fragments -/

namespace Fragment

/-- Separators are no references. -/
theorem references_separated (separator : String) (fs : List Fragment) (table : Nat) :
    (separated separator fs).references table = references fs.flatten table := by
  induction fs with
  | nil => rfl
  | cons f fs ih =>
    cases fs with
    | nil => simp [separated]
    | cons g gs => simpa [separated] using ih

/-- A blank fragment has no slots. -/
theorem references_of_isBlank {f : Fragment} (blank : f.isBlank = true) (table : Nat) :
    f.references table = 0 := by
  unfold references
  rw [List.count_eq_zero]
  intro member
  have isText := List.all_eq_true.1 blank _ member
  cases isText

/-- Blank fragments that are left out have no references. -/
theorem references_joined (separator : String) (fs : List Fragment) (table : Nat) :
    (joined separator fs).references table = references fs.flatten table := by
  unfold joined
  rw [references_separated]
  induction fs with
  | nil => rfl
  | cons f fs ih =>
    by_cases blank : f.isBlank = true
    · simpa [blank, references_of_isBlank blank] using ih
    · simpa [blank] using ih

/-- A keyword is no reference, and a clause that is left out had none. -/
theorem references_clause (keyword : String) (f : Fragment) (table : Nat) :
    (clause keyword f).references table = f.references table := by
  unfold clause
  split
  case isTrue blank => rw [references_of_isBlank blank, references_nil]
  case isFalse => simp

end Fragment

/-! ## Fragments and the tables they name -/

namespace Scope

/-- Each table is referred to in the fragment as often as one of the names means it. -/
def Names (s : Scope) (f : Fragment) (named : List String) : Prop :=
  ∀ table, f.references table = s.places named table

variable {s : Scope}

@[simp] theorem places_nil (table : Nat) : s.places [] table = 0 := by simp [places]

@[simp] theorem places_append (named others : List String) (table : Nat) :
    s.places (named ++ others) table = s.places named table + s.places others table := by
  unfold places
  split
  · exact List.countP_append
  · rfl

/-- One name means the table that its columns are qualified by. -/
theorem places_toList (name : Option String) (table : Nat) :
    s.places name.toList table = if name.bind s.qualify? = some table then 1 else 0 := by
  cases name with
  | none => simp
  | some text =>
    unfold places qualify?
    cases s.active with
    | false => simp
    | true => simp [List.countP_cons]

theorem names_nil : s.Names [] [] := fun _ => by simp

theorem names_text (text : String) : s.Names [.text text] [] := fun _ => by simp

/-- Two fragments name the tables of both. -/
theorem Names.append {f g : Fragment} {named others : List String} (first : s.Names f named)
    (second : s.Names g others) : s.Names (f ++ g) (named ++ others) := by
  intro table
  rw [Fragment.references_append, places_append, first table, second table]

/-- The order in which tables are named does not matter to the counts. -/
theorem Names.perm {f : Fragment} {named others : List String} (names : s.Names f named)
    (same : named.Perm others) : s.Names f others := by
  intro table
  rw [names table]
  unfold places
  rw [same.countP_eq]

theorem Names.joined {separator : String} {fs : List Fragment} {named : List String}
    (names : s.Names fs.flatten named) : s.Names (Fragment.joined separator fs) named := by
  intro table
  rw [Fragment.references_joined, names table]

theorem Names.separated {separator : String} {fs : List Fragment} {named : List String}
    (names : s.Names fs.flatten named) : s.Names (Fragment.separated separator fs) named := by
  intro table
  rw [Fragment.references_separated, names table]

/-- Fragments made from the elements of a list name the tables of each. -/
theorem Names.flatMap {α : Type} {make : α → Fragment} {named : α → List String} {xs : List α}
    (each : ∀ x ∈ xs, s.Names (make x) (named x)) :
    s.Names (xs.map make).flatten (xs.flatMap named) := by
  induction xs with
  | nil => exact names_nil
  | cons x xs ih =>
    have rest := ih fun y member => each y (List.mem_cons_of_mem x member)
    exact (each x List.mem_cons_self).append rest

/-! ## Keys and columns -/

theorem names_qualified (text : Option String) (name : String) :
    s.Names (qualified (text.bind s.qualify?) name) text.toList := by
  intro table
  rw [places_toList]
  cases text.bind s.qualify? <;> simp [qualified]

/-- A key names its table, in any context that stands for the same one. -/
theorem names_key {context meant : Option String}
    (same : context.bind s.qualify? = meant.bind s.qualify?) (field : String) :
    s.Names (s.key context field) (keyTable? meant field).toList := by
  unfold key keyTable?
  cases Text.splitQualified? field with
  | none =>
    dsimp only
    rw [same]
    exact names_qualified _ field
  | some parts =>
    obtain ⟨table, column⟩ := parts
    have own := names_qualified (s := s) (some table) column
    dsimp only
    cases resolved : s.qualify? table with
    | some i => simpa [resolved] using own
    | none =>
      intro i
      rw [places_toList]
      simp [resolved]

theorem names_equation (left leftColumn right rightColumn : String) :
    s.Names (s.equation left leftColumn right rightColumn)
      ((keyTable? (some left) leftColumn).toList ++
        (keyTable? (some right) rightColumn).toList) := by
  have first : s.Names (s.key (some left) leftColumn) _ := names_key rfl leftColumn
  have second : s.Names (s.key (some right) rightColumn) _ := names_key rfl rightColumn
  exact first.append ((names_text " = ").append second)

/-- A column names its table, unless it is a star or a verbatim expression. -/
theorem names_column (c : Column) : s.Names (s.column c) c.namedTable?.toList := by
  obtain ⟨table, body⟩ := c
  intro i
  rw [places_toList]
  cases body with
  | verbatim sql => simp [column, Column.namedTable?, Column.isVerbatim]
  | named named =>
    by_cases star : Column.isStar ⟨table, .named named⟩ = true
    · simp [column, Column.namedTable?, star]
    · cases qualifier : table.bind s.qualify? <;>
        simp [column, Column.namedTable?, Column.isVerbatim, star, qualifier]

theorem names_columns (cs : List Column) :
    s.Names (s.columns cs) (cs.filterMap Column.namedTable?) := by
  rw [List.filterMap_eq_flatMap_toList]
  exact Names.joined (Names.flatMap fun c _ => names_column c)

/-! ## Joins and equalities -/

theorem names_introduction (table : String) : s.Names (s.introduction table) [] := by
  intro i
  rw [references_introduction, places_nil]

/-- A join names the tables of its pairs, and none where it brings its own table in. -/
theorem names_join (j : Join) : s.Names (s.join j) j.namedTables := by
  cases j with
  | raw left sql => exact names_text _
  | structured kind left right on =>
    have head := (names_text (s := s) (kind.keyword ++ " JOIN ")).append (names_introduction right)
    unfold join Join.namedTables
    dsimp only
    split
    case isTrue none =>
      rw [List.isEmpty_iff] at none
      rw [none]
      exact head
    case isFalse =>
      have pairs : s.Names (Fragment.separated " AND "
          (on.map fun pair => s.equation left pair.1 right pair.2)) _ :=
        Names.separated (Names.flatMap fun pair _ => names_equation left pair.1 right pair.2)
      exact head.append ((names_text " ON ").append pairs)

/-- Wherever the list of tables places a join, its pairs are written once. -/
theorem names_fromList (tables : List String) (joins : List Join) :
    s.Names (s.fromList tables joins) (joins.flatMap Join.namedTables) := by
  have item (item : FromItem) :
      s.Names (s.fromItem item) (item.joins.flatMap Join.namedTables) := by
    have joins : s.Names (item.joins.map s.join).flatten _ := Names.flatMap fun j _ => names_join j
    apply Names.separated
    rw [List.flatten_append]
    cases item.head with
    | none => exact names_nil.append joins
    | some table =>
      have head := (names_introduction (s := s) table).append joins
      simpa using head
  have items : s.Names (s.fromList tables joins) ((FromItem.ofDeclared tables joins).flatMap
      fun item => item.joins.flatMap Join.namedTables) :=
    Names.joined (Names.flatMap fun i _ => item i)
  apply items.perm
  rw [← List.flatMap_assoc]
  exact (FromItem.flatMap_joins_ofDeclared_perm tables joins).flatMap_right _

/-- A table is mentioned in a fragment if one of the names means it. -/
theorem mentions_eq_isMeant {f : Fragment} {named : List String} (names : s.Names f named)
    (table : String) : s.mentions f table = s.isMeant named table := by
  rw [Bool.eq_iff_iff, mentions_eq_true_iff]
  unfold isMeant
  rw [Option.any_eq_true]
  simp only [decide_eq_true_eq, names _]

/-- An equality is written for the tables that are named elsewhere, and names its own. -/
theorem names_equalities {mentioned : Fragment} {named : List String}
    (names : s.Names mentioned named) (es : List Equality) :
    s.Names (s.equalities mentioned es).flatten
      ((es.filter fun e => s.isMeant named e.left && s.isMeant named e.right).flatMap
        Equality.namedTables) := by
  unfold equalities
  simp only [mentions_eq_isMeant names]
  exact Names.flatMap fun e _ => names_equation e.left e.leftColumn e.right e.rightColumn

/-! ## Conditions -/

variable (s) (escaper : Escaper)

mutual

/-- A condition names the tables of its fields, however deep, if it is not dropped. -/
theorem names_leaves {context meant : Option String}
    (same : context.bind s.qualify? = meant.bind s.qualify?) (quoted : Bool) :
    ∀ c : Condition,
      s.Names ((c.leaves s.resolves context quoted).filterMap (s.predicate? escaper)).flatten
        (c.namedTables meant)
  | .raw sql => by
    have isText : s.Names ([Leaf.raw sql].filterMap (s.predicate? escaper)).flatten [] := by
      intro table
      by_cases blank : (Text.trimChars sql.toList).isEmpty = true <;> simp [predicate?, blank]
    exact isText
  | .compare field comparison operand => by
    have written := s.isSome_predicate? escaper (.compare context quoted field comparison operand)
    have survives : (Condition.compare field comparison operand).survives =
        (Leaf.compare context quoted field comparison operand).survives := rfl
    simp only [Condition.leaves, Condition.namedTables]
    rw [survives, ← written]
    cases predicate : s.predicate? escaper (.compare context quoted field comparison operand) with
    | none => simpa [predicate] using names_nil
    | some f =>
      rw [List.filterMap_cons_some predicate]
      simp only [predicate?] at predicate
      split at predicate
      case isTrue => cases predicate
      case isFalse =>
        obtain ⟨text, -, rfl⟩ := Option.map_eq_some_iff.1 predicate
        have key := (names_key same field).append (names_text (" " ++ text))
        simpa using key
  | .table name conditions => by
    simp only [Condition.leaves, Condition.namedTables]
    by_cases known : s.resolves name = true
    · rw [if_pos known]
      exact names_leavesOfAll rfl false conditions
    · rw [if_neg known]
      -- An unknown table qualifies nothing, so it is the same to have it for context or none.
      have unresolved : s.resolve? name = none := by simpa [resolves] using known
      have unknown : s.qualify? name = none := by simp [qualify?, unresolved]
      exact names_leavesOfAll (by simp [unknown]) quoted conditions

theorem names_leavesOfAll {context meant : Option String}
    (same : context.bind s.qualify? = meant.bind s.qualify?) (quoted : Bool) :
    ∀ cs : List Condition,
      s.Names ((Condition.leavesOfAll s.resolves context quoted cs).filterMap
        (s.predicate? escaper)).flatten (Condition.namedTablesOfAll meant cs)
  | [] => names_nil
  | c :: cs => by
    have first := names_leaves same quoted c
    have rest := names_leavesOfAll same quoted cs
    simpa [Condition.leavesOfAll, Condition.namedTablesOfAll] using first.append rest

end

/-- A group names the tables of the conditions that are left of it. -/
theorem names_group? (g : ConditionGroup) :
    s.Names ((s.group? escaper g).getD []) g.namedTables := by
  have predicates : s.Names (s.predicates escaper g).flatten g.namedTables :=
    names_leavesOfAll s escaper rfl (!g.options.unquoted) g.conditions
  unfold group?
  split
  case h_1 none =>
    rw [none] at predicates
    exact predicates
  case h_2 =>
    have separated : s.Names (Fragment.separated g.options.relation.separator
        (s.predicates escaper g)) g.namedTables := Names.separated predicates
    have all := (names_text (s := s) "(").append (separated.append (names_text ")"))
    simpa using all

/-- A group that is dropped adds no pieces. -/
theorem flatten_groups (gs : List ConditionGroup) :
    (s.groups escaper gs).flatten = (gs.map fun g => (s.group? escaper g).getD []).flatten := by
  unfold groups
  induction gs with
  | nil => rfl
  | cons g gs ih => cases written : s.group? escaper g <;> simp [written, ih]

theorem names_groups (gs : List ConditionGroup) :
    s.Names (s.groups escaper gs).flatten (gs.flatMap ConditionGroup.namedTables) := by
  rw [flatten_groups]
  exact Names.flatMap fun g _ => names_group? s escaper g

end Scope

end SqlQuery
