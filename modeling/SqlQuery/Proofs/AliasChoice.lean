import SqlQuery.Proofs.SlotRange
import SqlQuery.Proofs.StoredCounts

/-!
Which aliases the tables of a draft have shows in the qualifiers of its statement and nowhere else.

An alias is looked up where a text is no table's name.  If every text of a draft is the name of a
table or else nothing to either of two alias tables of the same names, then both resolve it alike
(`AliasTable.resolve?_eq_of_names`), so the pieces of the statement are the same, and so is whatever
is decided by counting them.  `Draft.compile_aliased` compares the compilations.
-/

namespace SqlQuery

namespace AliasTable

/-- The alias of the table at the given place. -/
def aliasAt (t : AliasTable) (table : Nat) : String :=
  ((t.entries[table]?).map AliasEntry.aliasName).getD ""

/-- The text is neither a name nor an alias. -/
def IsUnused (t : AliasTable) (text : String) : Prop :=
  ∀ e ∈ t.entries, e.name ≠ text ∧ e.aliasName ≠ text

instance (t : AliasTable) (text : String) : Decidable (t.IsUnused text) :=
  inferInstanceAs (Decidable (∀ e ∈ t.entries, e.name ≠ text ∧ e.aliasName ≠ text))

variable {t t' : AliasTable}

theorem resolve?_of_isUnused {text : String} (unused : t.IsUnused text) :
    t.resolve? text = none := by
  have name : t.find? text = none := find?_eq_none_iff.2 fun e listed => (unused e listed).1
  have aliasName : t.findByAlias? text = none := by
    simpa [findByAlias?] using fun e listed => (unused e listed).2
  unfold resolve?
  rw [name, aliasName]
  rfl

theorem resolve?_of_mem_names {text : String} (named : text ∈ t.entries.map AliasEntry.name) :
    t.resolve? text = t.find? text := by
  have known : (t.find? text).isSome := by
    rw [find?_eq_findIdx?, List.findIdx?_isSome]
    simpa using named
  obtain ⟨i, found⟩ := Option.isSome_iff_exists.1 known
  unfold resolve?
  rw [found]
  rfl

/-- Alias tables of the same names take a name alike, and a text that is nothing to either. -/
theorem resolve?_eq_of_names
    (names : t'.entries.map AliasEntry.name = t.entries.map AliasEntry.name) {text : String}
    (known : text ∈ t.entries.map AliasEntry.name ∨ t.IsUnused text ∧ t'.IsUnused text) :
    t'.resolve? text = t.resolve? text := by
  rcases known with named | ⟨unused, unused'⟩
  · rw [resolve?_of_mem_names named, resolve?_of_mem_names (names ▸ named), find?_eq_findIdx?,
      find?_eq_findIdx?, names]
  · rw [resolve?_of_isUnused unused, resolve?_of_isUnused unused']

end AliasTable

namespace Draft

/-- The alias table knows the tables that the draft's own one knows, under other aliases, where
columns are qualified by aliases. -/
structure IsAliasChoice (d : Draft) (t : AliasTable) : Prop where
  byAliases : d.mode ≠ .tableNames
  names : t.entries.map AliasEntry.name = d.aliases.entries.map AliasEntry.name
  /-- In neither of them is a table its own alias. -/
  renamed : ∀ e ∈ d.aliases.entries ++ t.entries, e.aliasName ≠ e.name
  /-- A text of the draft is the name of a table, or else nothing to either of them. -/
  texts : ∀ text ∈ d.tableTexts, text ∈ d.aliases.entries.map AliasEntry.name ∨
    d.aliases.IsUnused text ∧ t.IsUnused text

variable {d : Draft} {t : AliasTable}

/-- Where columns are qualified by aliases, the qualifier of a table is its alias. -/
theorem qualifier_eq_aliasName {mode : AliasMode} (byAliases : mode ≠ .tableNames)
    (e : AliasEntry) : e.qualifier mode = e.aliasName := by
  unfold AliasEntry.qualifier
  rw [if_pos (by simp [byAliases])]

theorem qualifierOf_eq_aliasAt (byAliases : d.mode ≠ .tableNames) :
    d.scope.qualifierOf = d.aliases.aliasAt := by
  funext table
  change ((d.aliases.entries[table]?).map (·.qualifier d.mode)).getD "" = _
  simp only [qualifier_eq_aliasName byAliases]
  rfl

/-- Every table of a list is renamed by its alias. -/
theorem map_qualifier_ne_name {mode : AliasMode} (byAliases : mode ≠ .tableNames)
    {entries : List AliasEntry} (renamed : ∀ e ∈ entries, e.aliasName ≠ e.name) (i : Nat) :
    (entries[i]?).map (fun e => (e.name, e.qualifier mode != e.name)) =
      ((entries.map AliasEntry.name)[i]?).map fun name => (name, true) := by
  rw [List.getElem?_map, Option.map_map]
  refine Option.map_congr fun e found => ?_
  have other := renamed e (List.mem_of_getElem? found)
  simp [qualifier_eq_aliasName byAliases, other]

theorem IsAliasChoice.takenAlike (choice : d.IsAliasChoice t) : d.TakenAlike t := by
  obtain ⟨renamed, renamed'⟩ := List.forall_mem_append.1 choice.renamed
  apply takenAlike_of_resolution
  · exact fun text member => AliasTable.resolve?_eq_of_names choice.names (choice.texts text member)
  · intro text _ i _
    rw [map_qualifier_ne_name choice.byAliases renamed,
      map_qualifier_ne_name choice.byAliases renamed', choice.names]

/-- A draft and the same draft under other aliases have statements of the same pieces, so the same
conditions, joins and equalities are printed in the same order.  The slots are places of the alias
table, and each is filled with the alias of the table there.  The references to every table are as
many. -/
theorem compile_aliased (choice : d.IsAliasChoice t) (escaper : Escaper) :
    (d.statement escaper).SlotsBelow d.aliases.entries.length ∧
      (d.compile escaper).sql = (d.statement escaper).fill d.aliases.aliasAt ∧
      ((d.aliased t).compile escaper).sql = (d.statement escaper).fill t.aliasAt ∧
      (∀ table, ((d.aliased t).compile escaper).aliases.referenceCount table =
        (d.compile escaper).aliases.referenceCount table) ∧
      (d.aliased t).fromList = d.fromList ∧
      (∀ others, (d.aliased t).predicates escaper others = d.predicates escaper others) ∧
      (d.aliased t).havingPredicates escaper = d.havingPredicates escaper := by
  have alike := choice.takenAlike
  have pieces : (d.aliased t).statement escaper = d.statement escaper := alike.statement_eq escaper
  refine ⟨slotsBelow_statement d escaper, ?_, ?_, ?_, alike.fromList_eq,
    alike.predicates_eq escaper, alike.havingPredicates_eq escaper⟩
  · change (d.statement escaper).fill d.scope.qualifierOf = _
    rw [qualifierOf_eq_aliasAt choice.byAliases]
  · change ((d.aliased t).statement escaper).fill (d.aliased t).scope.qualifierOf = _
    rw [pieces, qualifierOf_eq_aliasAt (d := d.aliased t) choice.byAliases]
    rfl
  · intro table
    change (t.withReferences ((d.aliased t).statement escaper).references).referenceCount table =
      (d.aliases.withReferences (d.statement escaper).references).referenceCount table
    rw [AliasTable.referenceCount_withReferences, AliasTable.referenceCount_withReferences, pieces,
      AliasTable.find?_eq_findIdx?, AliasTable.find?_eq_findIdx?, choice.names]

/-- A draft whose texts are the names of its tables, and one that names none. -/
def editing : Draft :=
  { Draft.empty .auto with
    action := some .select
    aliases := ⟨[⟨"users", "T0", false, 0⟩, ⟨"posts", "T1", false, 0⟩], 2⟩
    tables := ["users"]
    columns := [⟨some "users", .named { name := "id" }⟩]
    joins := [.structured .inner "users" "posts" [("id", "posts.user_id")]]
    equalities := [⟨"users", "id", "posts", "editor_id"⟩]
    wheres :=
      [⟨[.table "posts" [.equal "views" (.natural 1)], .equal "tags.name" (.text "new")], {}⟩] }

/-- The tables of that draft, each with the other one's name for its alias. -/
def crossed : AliasTable :=
  ⟨[⟨"users", "posts", true, 0⟩, ⟨"posts", "users", true, 3⟩], 0⟩

theorem compile_aliased_crossed :
    editing.IsAliasChoice crossed ∧
      (editing.compile .mysql).sql = (editing.statement .mysql).fill editing.aliases.aliasAt ∧
      ((editing.aliased crossed).compile .mysql).sql =
        (editing.statement .mysql).fill crossed.aliasAt ∧
      editing.aliases.aliasAt 0 = "T0" ∧ crossed.aliasAt 0 = "posts" := by
  have choice : editing.IsAliasChoice crossed := by
    constructor <;> decide +kernel
  obtain ⟨-, own, other, -⟩ := compile_aliased choice .mysql
  exact ⟨choice, own, other, rfl, rfl⟩

end Draft

end SqlQuery
