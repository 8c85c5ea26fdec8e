import SqlQuery.Alias.Mode

/-!
The alias table of a draft: which tables it knows, in the order they were first mentioned, and the
alias of each.

A table that is registered gets the next free alias of the form `T<n>`, and keeps it unless the
caller chooses that very text as the alias of another table. An alias that the caller chose for a
table is never taken away from it by choosing for another one.
-/

namespace SqlQuery

/-- One table of an alias table. -/
structure AliasEntry where
  name : String
  aliasName : String
  /-- The caller chose the alias. -/
  explicit : Bool := false
  /-- How often the qualifier of the table was written. -/
  references : Nat := 0
deriving DecidableEq, Repr

/-- The name that qualifies the columns of a table: its alias, except that the mode that uses table
names takes the table's own name where the caller chose no alias. -/
def AliasEntry.qualifier (entry : AliasEntry) (mode : AliasMode) : String :=
  if entry.explicit || mode != .tableNames then entry.aliasName else entry.name

/-- The tables a draft knows, in the order they were first mentioned, and the number that the search
for the next alias starts from. -/
structure AliasTable where
  entries : List AliasEntry := []
  nextNumber : Nat := 0
deriving DecidableEq, Repr

namespace AliasTable

/-- The alias with the given number. -/
def numbered (n : Nat) : String := "T" ++ n.repr

/-- Some table has the given alias. -/
def isTaken (t : AliasTable) (aliasName : String) : Bool := t.entries.any (·.aliasName == aliasName)

/-- The place of the table with the given name. -/
def find? (t : AliasTable) (name : String) : Option Nat := t.entries.findIdx? (·.name == name)

/-- The place of the table with the given alias. -/
def findByAlias? (t : AliasTable) (aliasName : String) : Option Nat :=
  t.entries.findIdx? (·.aliasName == aliasName)

/-- The place of the table with the given name or, if none has it, with the given alias. -/
def resolve? (t : AliasTable) (text : String) : Option Nat :=
  (t.find? text).orElse fun _ => t.findByAlias? text

/-- The alias of the table with the given name. -/
def lookup? (t : AliasTable) (name : String) : Option String :=
  (t.entries.find? (·.name == name)).map AliasEntry.aliasName

/-- How often the qualifier of the named table was written; an unknown table has none. -/
def referenceCount (t : AliasTable) (name : String) : Nat :=
  ((t.entries.find? (·.name == name)).map AliasEntry.references).getD 0

/-! ## Free aliases -/

/-- The first number from `n` on whose alias is free, if there is one among `n`, …, `n + fuel`. -/
def firstFree (t : AliasTable) : Nat → Nat → Nat
  | 0, n => n
  | fuel + 1, n => if t.isTaken (numbered n) then firstFree t fuel (n + 1) else n

/-- The number of the next free alias. Each table takes at most one number away, so there is a free
one among one more candidates than there are tables. -/
def freeNumber (t : AliasTable) : Nat := t.firstFree t.entries.length t.nextNumber

/-! ## Changes -/

/-- Adds an unknown table with the next free alias. A known one stays as it is. -/
def register (t : AliasTable) (name : String) : AliasTable :=
  match t.find? name with
  | some _ => t
  | none =>
    let number := t.freeNumber
    { entries := t.entries ++ [{ name, aliasName := numbered number }], nextNumber := number + 1 }

/-- Gives the alias to the named table and marks it as chosen; an unknown table is added. -/
def assign (t : AliasTable) (name aliasName : String) : AliasTable :=
  match t.find? name with
  | some i =>
    { t with entries := t.entries.modify i fun e => { e with aliasName, explicit := true } }
  | none => { t with entries := t.entries ++ [{ name, aliasName, explicit := true }] }

/-- Gives the next free alias to the table at the given place. -/
def renumber (t : AliasTable) (i : Nat) : AliasTable :=
  let number := t.freeNumber
  { entries := t.entries.modify i fun e => { e with aliasName := numbered number },
    nextNumber := number + 1 }

/-- The place and entry of the table, other than the named one, that has the given alias. -/
def holder? (t : AliasTable) (name aliasName : String) : Option (Nat × AliasEntry) := do
  let i ← t.findByAlias? aliasName
  let entry ← t.entries[i]?
  if entry.name == name then none else some (i, entry)

/-- Chooses the alias of the named table. Where another table has it by choice that one keeps it and
the named table is only registered; one that has it by number moves on to the next free one. -/
def setAlias (t : AliasTable) (name aliasName : String) : AliasTable :=
  match t.holder? name aliasName with
  | none => t.assign name aliasName
  | some (i, entry) =>
    if entry.explicit then t.register name else (t.assign name aliasName).renumber i

/-! ## Reference counts -/

/-- Counts one more reference to the table at the given place. -/
def reference (t : AliasTable) (i : Nat) : AliasTable :=
  { t with entries := t.entries.modify i fun e => { e with references := e.references + 1 } }

/-- The same tables with the given counts, by their places. -/
def withReferences (t : AliasTable) (count : Nat → Nat) : AliasTable :=
  { t with entries := t.entries.mapIdx fun i e => { e with references := count i } }

/-- The same tables with no reference counted. -/
def clearReferences (t : AliasTable) : AliasTable := t.withReferences fun _ => 0

/-! ## What the changes keep -/

theorem register_of_find? {t : AliasTable} {name : String} {i : Nat} (h : t.find? name = some i) :
    t.register name = t := by
  simp [register, h]

@[simp] theorem map_aliasName_withReferences (t : AliasTable) (count : Nat → Nat) :
    (t.withReferences count).entries.map AliasEntry.aliasName =
      t.entries.map AliasEntry.aliasName := by
  apply List.ext_getElem <;> simp [withReferences]

@[simp] theorem map_name_withReferences (t : AliasTable) (count : Nat → Nat) :
    (t.withReferences count).entries.map AliasEntry.name = t.entries.map AliasEntry.name := by
  apply List.ext_getElem <;> simp [withReferences]

/-- The number found is not below the one the search starts from. -/
theorem le_firstFree (t : AliasTable) (fuel n : Nat) : n ≤ t.firstFree fuel n := by
  induction fuel generalizing n with
  | zero => simp [firstFree]
  | succ fuel ih =>
    simp only [firstFree]
    split
    · exact Nat.le_trans (Nat.le_succ n) (ih (n + 1))
    · exact Nat.le_refl n

/-- Every number that the search passes over is taken. -/
theorem isTaken_of_lt_firstFree {t : AliasTable} {fuel n k : Nat} (hn : n ≤ k)
    (hk : k < t.firstFree fuel n) : t.isTaken (numbered k) = true := by
  induction fuel generalizing n with
  | zero => exact absurd hk (Nat.not_lt.2 hn)
  | succ fuel ih =>
    simp only [firstFree] at hk
    split at hk
    · rename_i taken
      rcases Nat.eq_or_lt_of_le hn with h | h
      · exact h ▸ taken
      · exact ih h hk
    · exact absurd hk (Nat.not_lt.2 hn)

end AliasTable

end SqlQuery
