import SqlQuery.Proofs.FromLayout

/-!
The texts by which a draft names tables, and what becomes of its statement with another alias table.

`Draft.tableTexts` lists every text of a draft that stands for a table: its tables, the tables of
its columns, conditions, groups, joins and equalities, and the prefixes of its keys.  The alias
table has no other way into the statement.  So two scopes that resolve and introduce these texts
alike (`Scope.Alike`) render every part of a draft as the same fragment
(`Draft.TakenAlike.statement_eq`), and two compilations can differ only in the qualifiers that fill
it.
-/

namespace SqlQuery

/-! ## The texts -/

/-- The table that a key names itself. -/
def ownTable? (field : String) : Option String := (Text.splitQualified? field).map Prod.fst

/-- The texts that the table of a key is named by: that of its context, and its prefix. -/
def keyTexts (context : Option String) (field : String) : List String :=
  context.toList ++ (ownTable? field).toList

/-- The text that names the table of a column. -/
def Column.tableTexts (c : Column) : List String := c.table.toList

/-- The texts that name the tables of a join: its sides, and the prefixes of the keys it is on. -/
def Join.tableTexts : Join → List String
  | .raw left _ => [left]
  | .structured _ left right on =>
    [left, right] ++ on.flatMap fun pair =>
      keyTexts (some left) pair.1 ++ keyTexts (some right) pair.2

/-- The texts that name the tables of an equality: its sides, and the prefixes of its keys. -/
def Equality.tableTexts (e : Equality) : List String :=
  keyTexts (some e.left) e.leftColumn ++ keyTexts (some e.right) e.rightColumn

namespace Condition

mutual

/-- The texts that name tables in a condition, however deep. -/
def tableTexts : Condition → List String
  | .raw _ => []
  | .compare field _ _ => (ownTable? field).toList
  | .table name conditions => name :: tableTextsOfAll conditions

/-- The texts that name tables in conditions. -/
def tableTextsOfAll : List Condition → List String
  | [] => []
  | c :: cs => tableTexts c ++ tableTextsOfAll cs

end

end Condition

/-- The texts that name tables in a group. -/
def ConditionGroup.tableTexts (g : ConditionGroup) : List String :=
  g.options.table.toList ++ Condition.tableTextsOfAll g.conditions

/-- The prefixes of the keys of a row. -/
def Row.tableTexts (r : Row) : List String :=
  r.entries.flatMap fun entry => (ownTable? entry.1).toList

/-- The texts by which a draft names tables.  Of the rows to be added only the first is ever written
with keys, where rows are changed to it. -/
def Draft.tableTexts (d : Draft) : List String :=
  d.tables ++ (d.columns ++ d.groupBy ++ d.orderBy).flatMap Column.tableTexts ++
    d.joins.flatMap Join.tableTexts ++ d.equalities.flatMap Equality.tableTexts ++
    (d.wheres ++ d.having).flatMap ConditionGroup.tableTexts ++
    [d.assignments, d.rows.head?.getD .empty].flatMap Row.tableTexts

/-! ## Scopes that take texts alike -/

/-- The scopes qualify columns in the same statements, resolve the given texts to the same places
and introduce them alike.  The qualifiers that they fill the slots with may differ. -/
structure Scope.Alike (s s' : Scope) (texts : List String) : Prop where
  active : s'.active = s.active
  resolution : ∀ text ∈ texts, s'.resolve? text = s.resolve? text
  introduction : ∀ text ∈ texts, s'.introduction text = s.introduction text

namespace Scope

variable {s s' : Scope} {texts others : List String}

theorem Alike.mono (alike : s.Alike s' texts) (fewer : others ⊆ texts) : s.Alike s' others where
  active := alike.active
  resolution text member := alike.resolution text (fewer member)
  introduction text member := alike.introduction text (fewer member)

theorem Alike.left (alike : s.Alike s' (texts ++ others)) : s.Alike s' texts :=
  alike.mono (List.subset_append_left texts others)

theorem Alike.right (alike : s.Alike s' (texts ++ others)) : s.Alike s' others :=
  alike.mono (List.subset_append_right texts others)

theorem Alike.append (first : s.Alike s' texts) (second : s.Alike s' others) :
    s.Alike s' (texts ++ others) where
  active := first.active
  resolution := List.forall_mem_append.2 ⟨first.resolution, second.resolution⟩
  introduction := List.forall_mem_append.2 ⟨first.introduction, second.introduction⟩

/-- The texts of one element are among those of the list. -/
theorem Alike.of_mem {α : Type} {named : α → List String} {xs : List α}
    (alike : s.Alike s' (xs.flatMap named)) {x : α} (member : x ∈ xs) : s.Alike s' (named x) :=
  alike.mono fun _ inside => List.mem_flatMap.2 ⟨x, member, inside⟩

theorem Alike.of_subset {α : Type} {named : α → List String} {xs ys : List α}
    (alike : s.Alike s' (xs.flatMap named)) (fewer : ys ⊆ xs) : s.Alike s' (ys.flatMap named) := by
  apply alike.mono
  intro text inside
  obtain ⟨y, member, named⟩ := List.mem_flatMap.1 inside
  exact List.mem_flatMap.2 ⟨y, fewer member, named⟩

/-- How a table is introduced depends on its name and on whether another one qualifies it. -/
theorem introduction_congr {text : String} (active : s'.active = s.active)
    (resolution : s'.resolve? text = s.resolve? text)
    (entries : ∀ i, s.resolve? text = some i →
      (s'.aliases.entries[i]?).map (fun e => (e.name, e.qualifier s'.mode != e.name)) =
        (s.aliases.entries[i]?).map fun e => (e.name, e.qualifier s.mode != e.name)) :
    s'.introduction text = s.introduction text := by
  unfold introduction
  rw [resolution]
  cases resolved : s.resolve? text with
  | none => rfl
  | some i =>
    have same := entries i resolved
    dsimp only
    cases found : s.aliases.entries[i]? with
    | none =>
      rw [found] at same
      have missing : s'.aliases.entries[i]? = none := by simpa using same
      rw [missing]
    | some e =>
      rw [found] at same
      obtain ⟨e', found', pair⟩ := Option.map_eq_some_iff.1 same
      obtain ⟨name, renamed⟩ := Prod.mk.inj pair
      rw [found']
      dsimp only
      rw [active, renamed, name]

/-! ### Keys and columns -/

/-- Scopes that take a table alike qualify its columns by the same slot. -/
theorem Alike.bind_qualify? {context : Option String} (alike : s.Alike s' context.toList) :
    context.bind s'.qualify? = context.bind s.qualify? := by
  cases context with
  | none => rfl
  | some text =>
    have resolved := alike.resolution text (by simp)
    simp only [Option.bind_some, qualify?, alike.active, resolved]

/-- A key looks up its own table or that of its context, and nothing else. -/
theorem Alike.key_eq {context : Option String} {field : String}
    (alike : s.Alike s' (keyTexts context field)) : s'.key context field = s.key context field := by
  unfold key
  cases split : Text.splitQualified? field with
  | none =>
    dsimp only
    rw [alike.left.bind_qualify?]
  | some parts =>
    have own : ownTable? field = some parts.1 := by simp [ownTable?, split]
    have same := alike.right
    rw [own] at same
    have qualified : s'.qualify? parts.1 = s.qualify? parts.1 := same.bind_qualify?
    dsimp only
    rw [qualified]

theorem Alike.column_eq {c : Column} (alike : s.Alike s' c.tableTexts) :
    s'.column c = s.column c := by
  have table : c.table.bind s'.qualify? = c.table.bind s.qualify? := alike.bind_qualify?
  unfold column
  rw [table]

theorem Alike.columns_eq {cs : List Column} (alike : s.Alike s' (cs.flatMap Column.tableTexts)) :
    s'.columns cs = s.columns cs := by
  unfold columns
  rw [List.map_congr_left fun c member => (alike.of_mem member).column_eq]

/-! ### Tables, joins and equalities -/

theorem Alike.equation_eq {left leftColumn right rightColumn : String}
    (alike : s.Alike s' (keyTexts (some left) leftColumn ++ keyTexts (some right) rightColumn)) :
    s'.equation left leftColumn right rightColumn =
      s.equation left leftColumn right rightColumn := by
  unfold equation
  rw [alike.left.key_eq, alike.right.key_eq]

/-- A join looks up both of its sides and the prefixes of the keys it is on. -/
theorem Alike.join_eq {j : Join} (alike : s.Alike s' j.tableTexts) : s'.join j = s.join j := by
  cases j with
  | raw left sql => rfl
  | structured kind left right on =>
    have introduced := alike.left.introduction right (by simp)
    have pairs := List.map_congr_left (l := on) fun pair member =>
      (alike.right.of_mem member).equation_eq
    unfold join
    dsimp only
    rw [introduced, pairs]

/-- Where joins are placed does not depend on the scope, so it is enough that the tables and the
joins are taken alike. -/
theorem Alike.fromList_eq {tables : List String} {joins : List Join}
    (alike : s.Alike s' (tables ++ joins.flatMap Join.tableTexts)) :
    s'.fromList tables joins = s.fromList tables joins := by
  have item : ∀ item ∈ FromItem.ofDeclared tables joins, s'.fromItem item = s.fromItem item := by
    intro item listed
    have head : item.head.map s'.introduction = item.head.map s.introduction :=
      Option.map_congr fun table isHead =>
        alike.left.introduction table (FromItem.mem_tables_of_head listed isHead)
    have joins := List.map_congr_left (l := item.joins) fun j placed =>
      (alike.right.of_mem (FromItem.mem_joins_of_item listed placed)).join_eq
    unfold fromItem
    rw [head, joins]
  unfold fromList
  rw [List.map_congr_left item]

/-- Being mentioned is having a slot, and the slot is that of the table's place. -/
theorem Alike.mentions_eq {table : String} (alike : s.Alike s' [table]) (f : Fragment) :
    s'.mentions f table = s.mentions f table := by
  unfold mentions
  rw [alike.resolution table List.mem_cons_self]

/-- The same equalities are brought in, and they are written alike. -/
theorem Alike.equalities_eq {es : List Equality}
    (alike : s.Alike s' (es.flatMap Equality.tableTexts)) (mentioned : Fragment) :
    s'.equalities mentioned es = s.equalities mentioned es := by
  have both : ∀ e ∈ es, (s'.mentions mentioned e.left && s'.mentions mentioned e.right) =
      (s.mentions mentioned e.left && s.mentions mentioned e.right) := by
    intro e member
    have sides := alike.of_mem member
    rw [sides.left.left.mentions_eq, sides.right.left.mentions_eq]
  unfold equalities
  rw [List.filter_congr both]
  exact List.map_congr_left fun e kept =>
    (alike.of_mem (List.mem_of_mem_filter kept)).equation_eq

/-! ### Conditions -/

variable (escaper : Escaper)

mutual

/-- A condition has the same predicates, however deep, if its context is named alike too. -/
theorem Alike.leaves_eq {context : Option String} (quoted : Bool) :
    ∀ c : Condition, s.Alike s' (context.toList ++ c.tableTexts) →
      (c.leaves s'.resolves context quoted).filterMap (s'.predicate? escaper) =
        (c.leaves s.resolves context quoted).filterMap (s.predicate? escaper)
  | .raw sql, _ => rfl
  | .compare field comparison operand, alike => by
    have key : s'.key context field = s.key context field := alike.key_eq
    have predicate : s'.predicate? escaper (.compare context quoted field comparison operand) =
        s.predicate? escaper (.compare context quoted field comparison operand) := by
      simp only [predicate?, key]
    simp only [Condition.leaves, List.filterMap_cons, predicate, List.filterMap_nil]
  | .table name conditions, alike => by
    have named : s.Alike s' [name] := alike.mono (by simp [Condition.tableTexts])
    have inside : s.Alike s' (Condition.tableTextsOfAll conditions) :=
      alike.right.mono (List.subset_cons_self name _)
    have known : s'.resolves name = s.resolves name := by
      unfold resolves
      rw [named.resolution name List.mem_cons_self]
    simp only [Condition.leaves, known]
    split
    · exact Alike.leavesOfAll_eq false conditions (named.append inside)
    · exact Alike.leavesOfAll_eq quoted conditions inside

/-- Conditions have the same leaves with the same predicates, however deep they are nested. -/
theorem Alike.leavesOfAll_eq {context : Option String} (quoted : Bool) :
    ∀ cs : List Condition, s.Alike s' (context.toList ++ Condition.tableTextsOfAll cs) →
      (Condition.leavesOfAll s'.resolves context quoted cs).filterMap (s'.predicate? escaper) =
        (Condition.leavesOfAll s.resolves context quoted cs).filterMap (s.predicate? escaper)
  | [], _ => rfl
  | c :: cs, alike => by
    have first := Alike.leaves_eq quoted c (alike.left.append alike.right.left)
    have rest := Alike.leavesOfAll_eq quoted cs (alike.left.append alike.right.right)
    simp only [Condition.leavesOfAll, List.filterMap_append, first, rest]

end

/-- The same groups are left. -/
theorem Alike.groups_eq {gs : List ConditionGroup}
    (alike : s.Alike s' (gs.flatMap ConditionGroup.tableTexts)) :
    s'.groups escaper gs = s.groups escaper gs := by
  have group : ∀ g ∈ gs, s'.group? escaper g = s.group? escaper g := by
    intro g member
    have predicates : s'.predicates escaper g = s.predicates escaper g :=
      Alike.leavesOfAll_eq escaper (!g.options.unquoted) g.conditions (alike.of_mem member)
    unfold group?
    rw [predicates]
  exact List.filterMap_congr group

end Scope

/-! ## Drafts with another alias table -/

namespace Draft

/-- The draft with another alias table. -/
def aliased (d : Draft) (t : AliasTable) : Draft := { d with aliases := t }

/-- The other alias table takes the texts of every part of the draft as its own one does. -/
structure TakenAlike (d : Draft) (t : AliasTable) : Prop where
  tables : d.scope.Alike (d.aliased t).scope d.tables
  columns : d.scope.Alike (d.aliased t).scope
    ((d.columns ++ d.groupBy ++ d.orderBy).flatMap Column.tableTexts)
  joins : d.scope.Alike (d.aliased t).scope (d.joins.flatMap Join.tableTexts)
  equalities : d.scope.Alike (d.aliased t).scope (d.equalities.flatMap Equality.tableTexts)
  groups : d.scope.Alike (d.aliased t).scope
    ((d.wheres ++ d.having).flatMap ConditionGroup.tableTexts)
  rows : d.scope.Alike (d.aliased t).scope
    ([d.assignments, d.rows.head?.getD .empty].flatMap Row.tableTexts)

variable {d : Draft} {t : AliasTable}

/-- An alias table takes the texts alike if it resolves them to the same places and has tables of
the same names there, renamed by their qualifiers or not. -/
theorem takenAlike_of_resolution
    (resolution : ∀ text ∈ d.tableTexts, t.resolve? text = d.aliases.resolve? text)
    (entries : ∀ text ∈ d.tableTexts, ∀ i, d.aliases.resolve? text = some i →
      (t.entries[i]?).map (fun e => (e.name, e.qualifier d.mode != e.name)) =
        (d.aliases.entries[i]?).map fun e => (e.name, e.qualifier d.mode != e.name)) :
    d.TakenAlike t := by
  have alike : d.scope.Alike (d.aliased t).scope d.tableTexts := by
    refine ⟨rfl, resolution, ?_⟩
    intro text member
    exact Scope.introduction_congr rfl (resolution text member) (entries text member)
  constructor
  case tables => exact alike.left.left.left.left.left
  case columns => exact alike.left.left.left.left.right
  case joins => exact alike.left.left.left.right
  case equalities => exact alike.left.left.right
  case groups => exact alike.left.right
  case rows => exact alike.right

namespace TakenAlike

variable (alike : d.TakenAlike t) (escaper : Escaper)

include alike

theorem fromList_eq : (d.aliased t).fromList = d.fromList :=
  (alike.tables.append alike.joins).fromList_eq

theorem columns_eq (cs : List Column) (named : cs ⊆ d.columns ++ d.groupBy ++ d.orderBy) :
    (d.aliased t).scope.columns cs = d.scope.columns cs :=
  (alike.columns.of_subset named).columns_eq

theorem selectList_eq : (d.aliased t).selectList = d.selectList := by
  unfold selectList
  rw [← alike.columns_eq d.columns (by simp)]
  rfl

theorem grouping_eq : (d.aliased t).grouping = d.grouping :=
  alike.columns_eq d.groupBy (by simp)

theorem ordering_eq : (d.aliased t).ordering = d.ordering :=
  alike.columns_eq d.orderBy (by simp)

theorem groups_eq (gs : List ConditionGroup) (named : gs ⊆ d.wheres ++ d.having) :
    (d.aliased t).scope.groups escaper gs = d.scope.groups escaper gs :=
  (alike.groups.of_subset named).groups_eq escaper

theorem whereGroups_eq : (d.aliased t).whereGroups escaper = d.whereGroups escaper :=
  alike.groups_eq escaper d.wheres (by simp)

theorem havingPredicates_eq :
    (d.aliased t).havingPredicates escaper = d.havingPredicates escaper := by
  unfold havingPredicates
  rw [← alike.groups_eq escaper d.having (by simp)]
  rfl

/-- The conditions after `WHERE` are those of the groups and of the equalities, and both are taken
alike. -/
theorem predicates_eq (others : Fragment) :
    (d.aliased t).predicates escaper others = d.predicates escaper others := by
  have equalities (mentioned : Fragment) :
      (d.aliased t).scope.equalities mentioned (d.aliased t).equalities =
        d.scope.equalities mentioned d.equalities :=
    alike.equalities.equalities_eq mentioned
  simp only [predicates, alike.whereGroups_eq, equalities]

theorem whereClause_eq : (d.aliased t).whereClause escaper = d.whereClause escaper := by
  funext others
  unfold whereClause
  rw [alike.predicates_eq]

/-- The values of a row are assigned alike if its keys are among the texts. -/
theorem assignmentList_eq {r : Row} (isRow : r ∈ [d.assignments, d.rows.head?.getD .empty]) :
    (d.aliased t).assignmentList escaper r = d.assignmentList escaper r := by
  have primary : d.scope.Alike (d.aliased t).scope d.primary?.toList :=
    alike.tables.mono fun table isPrimary => List.mem_of_mem_head? (Option.mem_toList.1 isPrimary)
  have each : ∀ entry ∈ r.entries,
      (d.aliased t).assignment escaper entry = d.assignment escaper entry := by
    intro entry member
    have key := (primary.append ((alike.rows.of_mem isRow).of_mem member)).key_eq
    unfold assignment
    rw [← key]
    rfl
  unfold assignmentList
  rw [List.map_congr_left each]

/-- The rows that may be assigned have their keys among the texts of the draft. -/
theorem updateStatement_eq {r : Row} (isRow : r ∈ [d.assignments, d.rows.head?.getD .empty]) :
    (d.aliased t).updateStatement escaper r = d.updateStatement escaper r := by
  unfold updateStatement
  rw [alike.fromList_eq, alike.assignmentList_eq escaper isRow, alike.ordering_eq,
    alike.whereClause_eq]
  rfl

/-- A selection is put together from parts that are all taken alike. -/
theorem selectStatement_eq :
    (d.aliased t).selectStatement escaper = d.selectStatement escaper := by
  unfold selectStatement
  rw [alike.selectList_eq, alike.fromList_eq, alike.grouping_eq, alike.havingPredicates_eq,
    alike.ordering_eq, alike.whereClause_eq]
  rfl

theorem deleteStatement_eq :
    (d.aliased t).deleteStatement escaper = d.deleteStatement escaper := by
  unfold deleteStatement
  rw [alike.fromList_eq, alike.ordering_eq, alike.whereClause_eq]
  rfl

/-- An alias table that takes the texts of a draft alike leaves its statement the same pieces. -/
theorem statement_eq : (d.aliased t).statement escaper = d.statement escaper := by
  have upsert : (d.aliased t).upsertStatement escaper = d.upsertStatement escaper := by
    have change := alike.updateStatement_eq escaper (r := d.rows.head?.getD .empty) (by simp)
    unfold upsertStatement
    rw [alike.whereGroups_eq, ← change]
    rfl
  have update : (d.aliased t).updateStatement escaper (d.aliased t).assignments =
      d.updateStatement escaper d.assignments :=
    alike.updateStatement_eq escaper (r := d.assignments) (by simp)
  unfold statement
  rw [alike.selectStatement_eq, upsert, update, alike.deleteStatement_eq]
  rfl

end TakenAlike

end Draft

end SqlQuery
