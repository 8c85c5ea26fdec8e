import SqlQuery.Proofs.TableTexts

/-!
The counts that the alias table of a draft comes with decide nothing.

An alias table with other counts resolves and introduces every text alike, so a draft has the same
statement with it.  `Draft.compile_recounted` is what this comes to: neither the text nor the
references that are counted with it change.
-/

namespace SqlQuery

/-! ## Alias tables -/

namespace AliasTable

variable (t : AliasTable) (count : Nat → Nat)

theorem getElem?_entries_withReferences (i : Nat) :
    (t.withReferences count).entries[i]? =
      t.entries[i]?.map fun entry => { entry with references := count i } :=
  List.getElem?_mapIdx

/-- Counts that are set last are the ones that are kept. -/
theorem withReferences_withReferences (count' : Nat → Nat) :
    (t.withReferences count).withReferences count' = t.withReferences count' := by
  unfold withReferences
  congr 1
  rw [List.mapIdx_mapIdx]
  rfl

/-- The place of a name is its place in the list of names. -/
theorem find?_eq_findIdx? (name : String) :
    t.find? name = (t.entries.map AliasEntry.name).findIdx? (· == name) := by
  rw [List.findIdx?_map]
  rfl

theorem find?_withReferences (name : String) :
    (t.withReferences count).find? name = t.find? name := by
  rw [find?_eq_findIdx?, find?_eq_findIdx?, map_name_withReferences]

theorem findByAlias?_withReferences (aliasName : String) :
    (t.withReferences count).findByAlias? aliasName = t.findByAlias? aliasName := by
  have byAliases (t : AliasTable) :
      t.findByAlias? aliasName =
        (t.entries.map AliasEntry.aliasName).findIdx? (· == aliasName) := by
    rw [List.findIdx?_map]
    rfl
  rw [byAliases, byAliases, map_aliasName_withReferences]

/-- Names and aliases are resolved alike, whatever is counted. -/
theorem resolve?_withReferences (text : String) :
    (t.withReferences count).resolve? text = t.resolve? text := by
  unfold resolve?
  rw [find?_withReferences, findByAlias?_withReferences]

/-- A table has the count of its place. -/
theorem referenceCount_withReferences (name : String) :
    (t.withReferences count).referenceCount name = ((t.find? name).map count).getD 0 := by
  have place := t.find?_withReferences count name
  unfold referenceCount
  rw [List.find?_eq_bind_findIdx?_getElem?]
  unfold find? at place ⊢
  rw [place]
  cases found : t.entries.findIdx? (·.name == name) with
  | none => rfl
  | some i =>
    have inside := (List.findIdx?_eq_some_iff_getElem.1 found).1
    simp [getElem?_entries_withReferences, inside]

end AliasTable

/-! ## Drafts -/

namespace Draft

/-- The draft with other counts in its alias table. -/
def recounted (d : Draft) (count : Nat → Nat) : Draft :=
  { d with aliases := d.aliases.withReferences count }

/-- The draft takes an alias table with other counts like its own. -/
theorem takenAlike_withReferences (d : Draft) (count : Nat → Nat) :
    d.TakenAlike (d.aliases.withReferences count) := by
  apply takenAlike_of_resolution
  · exact fun text _ => d.aliases.resolve?_withReferences count text
  · intro text _ i _
    rw [AliasTable.getElem?_entries_withReferences, Option.map_map]
    rfl

/-- Counts have no part in a qualifier. -/
theorem qualifierOf_recounted (d : Draft) (count : Nat → Nat) :
    (d.recounted count).scope.qualifierOf = d.scope.qualifierOf := by
  funext table
  change (((d.aliases.withReferences count).entries[table]?).map _).getD "" = _
  rw [AliasTable.getElem?_entries_withReferences, Option.map_map]
  rfl

/-- The counts in the alias table of a draft influence neither its text nor the counts that come
with it. -/
theorem compile_recounted (d : Draft) (count : Nat → Nat) (escaper : Escaper) :
    (d.recounted count).compile escaper = d.compile escaper := by
  have statement : (d.recounted count).statement escaper = d.statement escaper :=
    (d.takenAlike_withReferences count).statement_eq escaper
  unfold compile
  rw [statement, qualifierOf_recounted]
  congr 1
  exact d.aliases.withReferences_withReferences count _

end Draft

end SqlQuery
