import SqlQuery.Proofs.Coherence
import SqlQuery.Proofs.SlotRange
import SqlQuery.Proofs.StoredCounts

/-!
Giving an alias to a table that a draft does not mention leaves its statement alone.

The table gets the last place of the alias table.  A text that is neither its name nor its alias is
resolved as before (`AliasTable.resolve?_of_entries_append`), so if no text of the draft is either,
the statement has the same pieces, and none of its slots is for the new place
(`Draft.compile_of_entries_append`).  Both ways of giving an alias to an unknown table add it that
way, and what is stored in a builder has no say in it (`Session.leavesStatement_runUnder`).
-/

namespace SqlQuery

namespace AliasTable

variable {t t' : AliasTable} {e : AliasEntry}

theorem find?_of_entries_append (more : t'.entries = t.entries ++ [e]) {name : String}
    (other : e.name ≠ name) : t'.find? name = t.find? name := by
  unfold find?
  rw [more, List.findIdx?_append]
  simp [List.findIdx?_cons, other]

/-- A table that is added is found by its name, unless one of that name is there. -/
theorem find?_of_entries_append_self (more : t'.entries = t.entries ++ [e])
    (unknown : t.find? e.name = none) : t'.find? e.name = some t.entries.length := by
  unfold find? at unknown ⊢
  rw [more, List.findIdx?_append, unknown]
  simp [List.findIdx?_cons]

theorem resolve?_of_entries_append (more : t'.entries = t.entries ++ [e]) {text : String}
    (name : e.name ≠ text) (aliasName : e.aliasName ≠ text) :
    t'.resolve? text = t.resolve? text := by
  have byAlias : t'.findByAlias? text = t.findByAlias? text := by
    unfold findByAlias?
    rw [more, List.findIdx?_append]
    simp [List.findIdx?_cons, aliasName]
  unfold resolve?
  rw [find?_of_entries_append more name, byAlias]

theorem find?_eq_none_of_lookup? {name : String} (unknown : t.lookup? name = none) :
    t.find? name = none := by
  rw [find?_eq_none_iff]
  unfold lookup? at unknown
  simpa using unknown

theorem lookup?_of_entries_append_self (more : t'.entries = t.entries ++ [e])
    (unknown : t.lookup? e.name = none) : t'.lookup? e.name = some e.aliasName := by
  unfold lookup? at unknown ⊢
  rw [more, List.find?_append, Option.map_eq_none_iff.1 unknown]
  simp

/-- Choosing an alias that no table has for an unknown table adds it. -/
theorem entries_setAlias_of_unused {name aliasName : String} (unknown : t.find? name = none)
    (unused : ∀ e ∈ t.entries, e.aliasName ≠ aliasName) :
    (t.setAlias name aliasName).entries =
      t.entries ++ [{ name, aliasName, explicit := true }] := by
  have noHolder : t.holder? name aliasName = none := by
    have none : t.findByAlias? aliasName = none := by simpa [findByAlias?] using unused
    simp [holder?, none]
  unfold setAlias assign
  rw [noHolder, unknown]

end AliasTable

/-! ## One more table -/

namespace Draft

variable {d : Draft} {t : AliasTable} {e : AliasEntry}

/-- No text of the draft is resolved otherwise, and the tables there were keep their places. -/
theorem takenAlike_of_entries_append (more : t.entries = d.aliases.entries ++ [e])
    (name : e.name ∉ d.tableTexts) (aliasName : e.aliasName ∉ d.tableTexts) : d.TakenAlike t := by
  apply takenAlike_of_resolution
  · intro text member
    exact AliasTable.resolve?_of_entries_append more (fun same => name (same ▸ member))
      (fun same => aliasName (same ▸ member))
  · intro text _ i resolved
    obtain ⟨entry, found⟩ := AliasTable.exists_getElem?_of_resolve? resolved
    have inside := (List.getElem?_eq_some_iff.1 found).1
    rw [more, List.getElem?_append_left inside]

/-- A table that the draft does not mention changes neither its text nor the references to other
tables, and there are none to it. -/
theorem compile_of_entries_append (more : t.entries = d.aliases.entries ++ [e])
    (unknown : d.aliases.find? e.name = none) (name : e.name ∉ d.tableTexts)
    (aliasName : e.aliasName ∉ d.tableTexts) (escaper : Escaper) :
    ((d.aliased t).compile escaper).sql = (d.compile escaper).sql ∧
      (∀ other, other ≠ e.name → ((d.aliased t).compile escaper).aliases.referenceCount other =
        (d.compile escaper).aliases.referenceCount other) ∧
      ((d.aliased t).compile escaper).aliases.referenceCount e.name = 0 := by
  have pieces : (d.aliased t).statement escaper = d.statement escaper :=
    (takenAlike_of_entries_append more name aliasName).statement_eq escaper
  have below := slotsBelow_statement d escaper
  have count (table : String) : ((d.aliased t).compile escaper).aliases.referenceCount table =
      ((t.find? table).map (d.statement escaper).references).getD 0 := by
    rw [← pieces]
    exact AliasTable.referenceCount_withReferences _ _ table
  refine ⟨?_, ?_, ?_⟩
  · change ((d.aliased t).statement escaper).fill (d.aliased t).scope.qualifierOf = _
    rw [pieces]
    apply below.fill_congr
    intro place inside
    change ((t.entries[place]?).map (·.qualifier d.mode)).getD "" = _
    rw [more, List.getElem?_append_left inside]
    rfl
  · intro other isOther
    rw [count, AliasTable.find?_of_entries_append more (Ne.symm isOther)]
    exact (AliasTable.referenceCount_withReferences _ _ other).symm
  · rw [count, AliasTable.find?_of_entries_append_self more unknown]
    exact below.references_eq_zero (Nat.le_refl _)

end Draft

/-! ## Giving an alias -/

namespace Builder

/-- The other builder has the statement of this one, which refers to the other tables as often, and
does not refer to the given table. -/
structure LeavesStatement (b after : Builder) (table : String) : Prop where
  sql : after.compilation.sql = b.compilation.sql
  others : ∀ other, other ≠ table → after.referenceCount other = b.referenceCount other
  unreferred : after.referenceCount table = 0

variable {b : Builder}

/-- What an unmentioned table does to the draft it does to a builder, whatever is stored there. -/
theorem IsCoherent.leavesStatement (coherent : b.IsCoherent) {t : AliasTable} {e : AliasEntry}
    (more : t.entries = b.draft.aliases.entries ++ [e])
    (unknown : b.draft.aliases.find? e.name = none) (name : e.name ∉ b.draft.tableTexts)
    (aliasName : e.aliasName ∉ b.draft.tableTexts) :
    b.LeavesStatement (b.edit (·.aliased t)) e.name := by
  have after : (b.edit (·.aliased t)).compilation = (b.draft.aliased t).compile b.escaper :=
    IsCoherent.compilation_eq (.of_forgotten rfl)
  obtain ⟨sql, others, unreferred⟩ :=
    Draft.compile_of_entries_append more unknown name aliasName b.escaper
  constructor
  case sql => rw [after, coherent.compilation_eq, sql]
  case others =>
    intro other isOther
    unfold referenceCount
    rw [after, coherent.compilation_eq, others other isOther]
  case unreferred =>
    unfold referenceCount
    rw [after, unreferred]

theorem IsCoherent.leavesStatement_aliasFor (coherent : b.IsCoherent) {table : String}
    (unknown : b.draft.aliases.lookup? table = none) (unmentioned : table ∉ b.draft.tableTexts)
    (unnamed : (b.aliasFor table).2 ∉ b.draft.tableTexts) :
    b.LeavesStatement (b.aliasFor table).1 table := by
  have missing := AliasTable.find?_eq_none_of_lookup? unknown
  rcases b.draft.aliases.register_cases table with ⟨⟨e, listed, named⟩, -⟩ | ⟨-, more, -⟩
  · exact absurd named (AliasTable.find?_eq_none_iff.1 missing e listed)
  · have added := AliasTable.lookup?_of_entries_append_self more unknown
    have registered : b.aliasFor table =
        (b.edit (·.aliased (b.draft.aliases.register table)),
          AliasTable.numbered b.draft.aliases.freeNumber) := by
      unfold aliasFor
      rw [unknown]
      dsimp only [draft_edit]
      rw [added]
      rfl
    rw [registered] at unnamed ⊢
    exact coherent.leavesStatement more missing unmentioned unnamed

theorem IsCoherent.leavesStatement_setTableAlias (coherent : b.IsCoherent)
    {table aliasName : String} (unknown : b.draft.aliases.lookup? table = none)
    (unmentioned : table ∉ b.draft.tableTexts) (unnamed : aliasName ∉ b.draft.tableTexts)
    (unused : ∀ e ∈ b.draft.aliases.entries, e.aliasName ≠ aliasName) :
    b.LeavesStatement (b.setTableAlias table aliasName) table := by
  have missing := AliasTable.find?_eq_none_of_lookup? unknown
  exact coherent.leavesStatement (AliasTable.entries_setAlias_of_unused missing unused) missing
    unmentioned unnamed

end Builder

namespace Session

/-- After any calls on a builder that starts from a draft, asking for the alias of a table leaves
the statement and the references to all other tables alone, and there are none to that table, if it
is unknown and neither its name nor the alias it gets is a text of the draft.  So does choosing an
alias for it that no table has. -/
theorem leavesStatement_runUnder (d : Draft) (escaper : Escaper) (calls : List (AliasMode × Call)) :
    ∀ b ∈ (runUnder ⟨{ draft := d, escaper }, []⟩ calls).builders, ∀ table,
      b.draft.aliases.lookup? table = none → table ∉ b.draft.tableTexts →
        ((b.aliasFor table).2 ∉ b.draft.tableTexts →
          b.LeavesStatement (b.aliasFor table).1 table) ∧
        ∀ aliasName, aliasName ∉ b.draft.tableTexts →
          (∀ e ∈ b.draft.aliases.entries, e.aliasName ≠ aliasName) →
          b.LeavesStatement (b.setTableAlias table aliasName) table := by
  intro b member table unknown unmentioned
  have coherent := isCoherent_of_mem_builders d escaper calls b member
  exact ⟨coherent.leavesStatement_aliasFor unknown unmentioned,
    fun _ => coherent.leavesStatement_setTableAlias unknown unmentioned⟩

/-- Calls that select from two joined tables and read the statement. -/
def joinedOnce : List (AliasMode × Call) :=
  [(.auto, .edit (.select ["id"] "users")),
    (.auto, .edit (.join .inner "users" "posts" [("id", "posts.user_id")])),
    (.auto, .edit (.addWhere {} [.table "drafts" [.equal "views" (.natural 1)]])),
    (.auto, .read .compile)]

theorem leavesStatement_runUnder_joinedOnce :
    let b := (runUnder ⟨.empty .auto, []⟩ joinedOnce).current
    b.draft.aliases.lookup? "tags" = none ∧ "tags" ∉ b.draft.tableTexts ∧
      (b.aliasFor "tags").2 = "T2" ∧ b.LeavesStatement (b.aliasFor "tags").1 "tags" ∧
      b.LeavesStatement (b.setTableAlias "tags" "labels") "tags" := by
  have unknown : (runUnder ⟨.empty .auto, []⟩ joinedOnce).current.draft.aliases.lookup? "tags" =
      none := by decide +kernel
  have unmentioned :
      "tags" ∉ (runUnder ⟨.empty .auto, []⟩ joinedOnce).current.draft.tableTexts := by
    decide +kernel
  obtain ⟨asked, chosen⟩ := leavesStatement_runUnder (.empty .auto) .mysql joinedOnce _
    List.mem_cons_self "tags" unknown unmentioned
  exact ⟨unknown, unmentioned, by decide +kernel, asked (by decide +kernel),
    chosen "labels" (by decide +kernel) (by decide +kernel)⟩

end Session

end SqlQuery
