import SqlQuery.Value

/-!
Rows to be written: values under column names, in the order in which the columns were first set.
-/

namespace SqlQuery

/-- A row to be written: values under columns that are all different. -/
@[ext]
structure Row where
  entries : List (String × Value)
  nodup : (entries.map Prod.fst).Nodup
deriving DecidableEq, Repr

namespace Row

/-- The row without columns. -/
def empty : Row := ⟨[], List.nodup_nil⟩

/-- A row starts without columns. -/
instance : Inhabited Row := ⟨empty⟩

/-- The entries with a value under the given column: in the place of the value it has, or at the end
if it has none. -/
def put (column : String) (v : Value) : List (String × Value) → List (String × Value)
  | [] => [(column, v)]
  | entry :: rest =>
    if entry.1 = column then (column, v) :: rest else entry :: put column v rest

/-- A column that has a value keeps its place, and a new one comes last. -/
theorem map_fst_put (column : String) (v : Value) (entries : List (String × Value)) :
    (put column v entries).map Prod.fst =
      if column ∈ entries.map Prod.fst then entries.map Prod.fst
      else entries.map Prod.fst ++ [column] := by
  induction entries with
  | nil => simp [put]
  | cons entry rest ih =>
    obtain ⟨name, value⟩ := entry
    by_cases hn : name = column
    · simp [put, hn]
    · simp only [put, hn, if_false, List.map_cons, ih, List.mem_cons]
      have hc : ¬column = name := fun h => hn h.symm
      split <;> simp_all

/-- Columns that are all different stay so, whichever is set. -/
theorem nodup_map_fst_put {entries : List (String × Value)}
    (distinct : (entries.map Prod.fst).Nodup) (column : String) (v : Value) :
    ((put column v entries).map Prod.fst).Nodup := by
  rw [map_fst_put]
  split
  case isTrue => exact distinct
  case isFalse new =>
    refine List.nodup_append.2 ⟨distinct, by simp, ?_⟩
    rintro name listed _ isNew rfl
    exact new (List.mem_singleton.1 isNew ▸ listed)

/-- The row with a value under the given column. -/
def set (r : Row) (column : String) (v : Value) : Row :=
  ⟨put column v r.entries, nodup_map_fst_put r.nodup column v⟩

/-- The row with a value for each of the given columns, the later ones of a column winning. -/
def setAll (r : Row) (entries : List (String × Value)) : Row :=
  entries.foldl (fun row entry => row.set entry.1 entry.2) r

/-- The row with the given values. -/
def ofList (entries : List (String × Value)) : Row := empty.setAll entries

/-- The value under a column. -/
def get? (r : Row) (column : String) : Option Value :=
  (r.entries.find? (·.1 = column)).map Prod.snd

/-- The columns that have a value, in order. -/
def columns (r : Row) : List String := r.entries.map Prod.fst

/-- The number of columns. -/
def size (r : Row) : Nat := r.entries.length

/-- The row has no columns. -/
def isEmpty (r : Row) : Bool := r.entries.isEmpty

/-! ## What setting a column does to the columns and values -/

theorem find?_put (column other : String) (v : Value) (entries : List (String × Value)) :
    ((put column v entries).find? (·.1 = other)).map Prod.snd =
      if other = column then some v else (entries.find? (·.1 = other)).map Prod.snd := by
  induction entries with
  | nil => by_cases h : other = column <;> simp [put, h, eq_comm]
  | cons entry rest ih =>
    obtain ⟨name, value⟩ := entry
    by_cases hn : name = column <;> by_cases h : other = column <;>
      by_cases ho : name = other <;> simp_all [put]

/-- The value set is the one found, and no other column is affected. -/
theorem get?_set (r : Row) (column other : String) (v : Value) :
    (r.set column v).get? other = if other = column then some v else r.get? other :=
  find?_put column other v r.entries

theorem columns_set (r : Row) (column : String) (v : Value) :
    (r.set column v).columns =
      if column ∈ r.columns then r.columns else r.columns ++ [column] :=
  map_fst_put column v r.entries

theorem put_of_not_mem {column : String} {entries : List (String × Value)}
    (new : column ∉ entries.map Prod.fst) (v : Value) :
    put column v entries = entries ++ [(column, v)] := by
  induction entries with
  | nil => rfl
  | cons entry entries ih =>
    rw [List.map_cons, List.mem_cons, not_or] at new
    rw [put, if_neg (Ne.symm new.1), ih new.2, List.cons_append]

/-- Columns that are all new come last, in the order in which they are set. -/
theorem entries_setAll_of_nodup {r : Row} {entries : List (String × Value)}
    (distinct : (r.columns ++ entries.map Prod.fst).Nodup) :
    (r.setAll entries).entries = r.entries ++ entries := by
  induction entries generalizing r with
  | nil => simp [setAll]
  | cons entry entries ih =>
    have new : entry.1 ∉ r.columns := by
      intro old
      exact (List.nodup_append.1 distinct).2.2 _ old _ List.mem_cons_self rfl
    have first : (r.set entry.1 entry.2).entries = r.entries ++ [entry] := put_of_not_mem new _
    have rest : ((r.set entry.1 entry.2).columns ++ entries.map Prod.fst).Nodup := by
      simpa [columns, first] using distinct
    change ((r.set entry.1 entry.2).setAll entries).entries = _
    rw [ih rest, first, List.append_assoc, List.singleton_append]

/-- A row is what comes of setting its own values. -/
theorem ofList_entries (r : Row) : ofList r.entries = r :=
  Row.ext (entries_setAll_of_nodup (r := .empty) r.nodup)

end Row

end SqlQuery
