import SqlQuery.Proofs.JoinOrder

/-!
The names under which a statement introduces its tables.

A table is introduced by its own name or, after `AS`, by its alias, and its columns are qualified by
the same (`Scope.introducedName_eq`).  An alias table tells its tables apart by their names and by
their aliases.  The mode that uses table names mixes the two, so there a table whose chosen alias is
the name of another one can be introduced under the name of that one.  This is the only way in which
two tables come to share a name (`AliasTable.IsSound.qualifier_eq_iff`).
-/

namespace SqlQuery

namespace AliasTable

/-- The first table has the name of the second one for the alias that was chosen for it, and no
alias was chosen for the second one. -/
def TakesNameOf (t : AliasTable) (table other : String) : Prop :=
  ∃ e ∈ t.entries, ∃ o ∈ t.entries, e.name = table ∧ o.name = other ∧
    e.explicit = true ∧ o.explicit = false ∧ e.aliasName = other

instance (t : AliasTable) (table other : String) : Decidable (t.TakesNameOf table other) :=
  inferInstanceAs (Decidable (∃ e ∈ t.entries, ∃ o ∈ t.entries, e.name = table ∧ o.name = other ∧
    e.explicit = true ∧ o.explicit = false ∧ e.aliasName = other))

variable {t : AliasTable} {e o : AliasEntry}

theorem IsSound.takesNameOf_iff (sound : t.IsSound) (listed : e ∈ t.entries)
    (otherListed : o ∈ t.entries) :
    t.TakesNameOf e.name o.name ↔
      e.explicit = true ∧ o.explicit = false ∧ e.aliasName = o.name := by
  constructor
  · rintro ⟨e', listed', o', otherListed', named, otherNamed, taken⟩
    rw [sound.eq_of_name listed' listed named, sound.eq_of_name otherListed' otherListed otherNamed]
      at taken
    exact taken
  · exact fun taken => ⟨e, listed, o, otherListed, rfl, rfl, taken⟩

/-- Aliases are different and so are names, so two tables are qualified alike only where one is
qualified by its alias and the other one by its name. -/
theorem IsSound.qualifier_eq_iff (sound : t.IsSound) (listed : e ∈ t.entries)
    (otherListed : o ∈ t.entries) (different : e.name ≠ o.name) (mode : AliasMode) :
    e.qualifier mode = o.qualifier mode ↔
      mode = .tableNames ∧ (t.TakesNameOf e.name o.name ∨ t.TakesNameOf o.name e.name) := by
  have aliases : e.aliasName ≠ o.aliasName := by
    intro same
    exact different (congrArg AliasEntry.name (sound.eq_of_aliasName listed otherListed same))
  rw [sound.takesNameOf_iff listed otherListed, sound.takesNameOf_iff otherListed listed]
  unfold AliasEntry.qualifier
  by_cases byName : mode = .tableNames
  · cases chosen : e.explicit <;> cases otherChosen : o.explicit <;>
      simp [byName, aliases, different, eq_comm]
  · simp [byName, aliases]

end AliasTable

/-! ## Introductions -/

namespace Scope

/-- The name under which a table is introduced: the last piece of its introduction, which is the
name after `AS` where there is one. -/
def introducedName (s : Scope) (table : String) : String :=
  ((s.introduction table).getLast?.map (Piece.fill s.qualifierOf)).getD ""

variable {s : Scope} {i : Nat} {e : AliasEntry}

theorem resolve?_name (sound : s.aliases.IsSound) (found : s.aliases.entries[i]? = some e) :
    s.resolve? e.name = some i := by
  simp [resolve?, AliasTable.resolve?, sound.find?_eq found]

theorem qualifierOf_eq (found : s.aliases.entries[i]? = some e) :
    s.qualifierOf i = e.qualifier s.mode := by
  simp [qualifierOf, found]

/-- Where columns are qualified, it is by the names under which their tables are introduced.  Where
they are not, tables are introduced by their own names. -/
theorem introducedName_eq (sound : s.aliases.IsSound) (found : s.aliases.entries[i]? = some e) :
    s.introducedName e.name = if s.active then s.qualifierOf i else e.name := by
  unfold introducedName introduction
  rw [resolve?_name sound found]
  dsimp only
  rw [found, qualifierOf_eq found]
  cases active : s.active with
  | false => simp [Piece.fill]
  | true =>
    by_cases own : e.qualifier s.mode = e.name
    · simp [own, Piece.fill]
    · simp [own, Piece.fill, qualifierOf_eq found]

end Scope

namespace Draft

variable {d : Draft}

theorem mem_tablesInvolved {table : String} :
    table ∈ d.tablesInvolved ↔ table ∈ d.tables ∨ ∃ j ∈ d.joins, j.right? = some table := by
  unfold tablesInvolved
  rw [mem_foldl_addNew, mem_foldl_addNew]
  simp [List.mem_filterMap]

/-- All tables that take part in the statement are known to the alias table. -/
theorem TablesAreKnown.exists_entry (tables : d.TablesAreKnown) {table : String}
    (involved : table ∈ d.tablesInvolved) :
    ∃ (i : Nat) (e : AliasEntry), d.aliases.entries[i]? = some e ∧ e.name = table := by
  have known : table ∈ d.aliases.entries.map AliasEntry.name := by
    rcases mem_tablesInvolved.1 involved with declared | ⟨j, member, brings⟩
    · exact tables.known table declared
    · exact tables.right j member table brings
  rcases List.mem_map.1 known with ⟨e, listed, named⟩
  rcases List.mem_iff_getElem?.1 listed with ⟨i, found⟩
  exact ⟨i, e, found, named⟩

theorem TablesAreKnown.introducedName_eq_iff (tables : d.TablesAreKnown)
    (active : d.scope.active = true) {table other : String} (involved : table ∈ d.tablesInvolved)
    (otherInvolved : other ∈ d.tablesInvolved) (different : table ≠ other) :
    d.scope.introducedName table = d.scope.introducedName other ↔
      d.mode = .tableNames ∧
        (d.aliases.TakesNameOf table other ∨ d.aliases.TakesNameOf other table) := by
  rcases tables.exists_entry involved with ⟨i, e, found, rfl⟩
  rcases tables.exists_entry otherInvolved with ⟨j, o, otherFound, rfl⟩
  rw [Scope.introducedName_eq (s := d.scope) tables.sound found,
    Scope.introducedName_eq (s := d.scope) tables.sound otherFound, if_pos active, if_pos active,
    Scope.qualifierOf_eq (s := d.scope) found, Scope.qualifierOf_eq (s := d.scope) otherFound]
  exact tables.sound.qualifier_eq_iff (List.mem_of_getElem? found) (List.mem_of_getElem? otherFound)
    different d.mode

end Draft

/-! ## Sessions -/

namespace Session

/-- After any calls on a new builder that lead to a statement with qualified columns, the columns of
each of its tables are qualified by the name under which the table is introduced.  Two tables are
introduced under one name exactly if the mode uses table names and one of them has the name of the
other one for its chosen alias, while none was chosen for that one. -/
theorem introducedName_runUnder (mode : AliasMode) (escaper : Escaper)
    (calls : List (AliasMode × Call)) :
    ∀ b ∈ (runUnder ⟨{ draft := .empty mode, escaper }, []⟩ calls).builders,
      b.draft.scope.active = true → ∀ table ∈ b.draft.tablesInvolved,
        (∃ i, b.draft.scope.resolve? table = some i ∧
          b.draft.scope.qualifierOf i = b.draft.scope.introducedName table) ∧
        ∀ other ∈ b.draft.tablesInvolved, table ≠ other →
          (b.draft.scope.introducedName table = b.draft.scope.introducedName other ↔
            b.draft.mode = .tableNames ∧ (b.draft.aliases.TakesNameOf table other ∨
              b.draft.aliases.TakesNameOf other table)) := by
  intro b member active table involved
  have tables := tablesAreKnown_runUnder mode escaper calls b member
  constructor
  · rcases tables.exists_entry involved with ⟨i, e, found, rfl⟩
    refine ⟨i, Scope.resolve?_name (s := b.draft.scope) tables.sound found, ?_⟩
    rw [Scope.introducedName_eq (s := b.draft.scope) tables.sound found, if_pos active]
  · intro other otherInvolved different
    exact tables.introducedName_eq_iff active involved otherInvolved different

/-- Calls that choose the automatic alias of one table for another one, and the name of a table that
takes no part for a third one. -/
def relabelled : List (AliasMode × Call) :=
  [(.auto, .edit (.declareTables ["users, posts"])), (.auto, .edit (.setTableAlias "users" "T1")),
    (.auto, .edit (.join .left "posts" "tags" [("id", "post_id")])),
    (.auto, .read (.aliasFor "labels")), (.auto, .edit (.setTableAlias "tags" "labels")),
    (.auto, .edit (.setMode .tableNames))]

theorem introducedName_runUnder_relabelled :
    let b := (runUnder ⟨{ draft := .empty .auto, escaper := .mysql }, []⟩ relabelled).current
    b.draft.scope.active = true ∧ "users" ∈ b.draft.tablesInvolved ∧
      "tags" ∈ b.draft.tablesInvolved ∧ b.draft.mode = .tableNames ∧
        b.draft.scope.introducedName "users" ≠ b.draft.scope.introducedName "tags" := by
  intro b
  have active : b.draft.scope.active = true := by decide +kernel
  have involved : "users" ∈ b.draft.tablesInvolved := by decide +kernel
  have otherInvolved : "tags" ∈ b.draft.tablesInvolved := by decide +kernel
  have names := introducedName_runUnder .auto .mysql relabelled b (current_mem_builders _) active
    "users" involved
  have untaken : ¬(b.draft.aliases.TakesNameOf "users" "tags" ∨
      b.draft.aliases.TakesNameOf "tags" "users") := by decide +kernel
  refine ⟨active, involved, otherInvolved, by decide +kernel, ?_⟩
  intro same
  exact untaken ((names.2 "tags" otherInvolved (by decide)).1 same).2

/-- Calls that choose the name of a table for the alias of another one, in the mode that uses table
names. -/
def clashing : List (AliasMode × Call) :=
  [(.auto, .edit (.setAction .select)), (.auto, .edit (.declareTables ["users", "posts"])),
    (.auto, .edit (.setTableAlias "users" "posts"))]

/-- Two tables of a statement can be introduced under one name. -/
theorem introducedName_eq_clashing :
    let b := (runUnder ⟨{ draft := .empty .tableNames, escaper := .mysql }, []⟩ clashing).current
    b.draft.scope.active = true ∧ "users" ∈ b.draft.tablesInvolved ∧
      "posts" ∈ b.draft.tablesInvolved ∧
        b.draft.scope.introducedName "users" = b.draft.scope.introducedName "posts" ∧
          (b.draft.compile b.escaper).sql = "SELECT * FROM users AS posts, posts" := by
  intro b
  exact ⟨by decide +kernel, by decide +kernel, by decide +kernel, by decide +kernel,
    Draft.sql_of_joins_eq_nil (by decide +kernel) (by decide +kernel)⟩

end Session

end SqlQuery
