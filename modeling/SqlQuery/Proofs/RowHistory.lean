import Mathlib.Data.Finset.Card
import SqlQuery.Proofs.WellFormedDraft

/-!
A row is a map that keeps the order in which its columns were first set.

`Row.IsMapOf` says what a row has to answer when columns were set one after the other.  Setting one
more column keeps a row in step with what was set (`Row.IsMapOf.set`), and so does merging a row
that is itself in step with what was set in it (`Row.IsMapOf.merge`).  The assignments of a draft
come about by merging: `Call.merged` follows the rows that were merged into those of each builder of
a session, the saved ones included, and `Session.isMapOf_runUnder` shows that the assignments are in
step with what was set in all of these rows.
-/

namespace SqlQuery

namespace Text

/-- A text at the end is kept if it is the first of its kind. -/
theorem eraseDups_append_singleton (texts : List String) (text : String) :
    (texts ++ [text]).eraseDups =
      if text ∈ texts then texts.eraseDups else texts.eraseDups ++ [text] := by
  by_cases known : text ∈ texts <;>
    simp [List.eraseDups_append, List.eraseDups_cons, List.removeAll, known]

/-- Repeated texts may be dropped early. -/
theorem eraseDups_append_eraseDups (texts more : List String) :
    (texts ++ more.eraseDups).eraseDups = (texts ++ more).eraseDups := by
  induction more using List.reverseRecOn with
  | nil => simp
  | append_singleton more text ih =>
    rw [eraseDups_append_singleton, ← List.append_assoc, eraseDups_append_singleton]
    by_cases known : text ∈ more
    · rw [if_pos known, if_pos (List.mem_append_right _ known), ih]
    · rw [if_neg known, ← List.append_assoc, eraseDups_append_singleton, ih]
      simp only [List.mem_append, List.mem_eraseDups]

end Text

/-! ## Rows and what was set in them -/

namespace Row

/-- The row answers as one has to in which the given values were set one after the other. -/
structure IsMapOf (r : Row) (sets : List (String × Value)) : Prop where
  /-- The columns stand in the order in which they were first set. -/
  columns : r.columns = (sets.map Prod.fst).eraseDups
  nodup : r.columns.Nodup
  size : r.size = (sets.map Prod.fst).toFinset.card
  /-- A column has the value that was set last, and none if it was never set. -/
  values : ∀ column, r.get? column = sets.reverse.lookup column

variable {r : Row} {sets : List (String × Value)}

/-- The number of columns need not be counted where they are known. -/
theorem isMapOf_of_columns (columns : r.columns = (sets.map Prod.fst).eraseDups)
    (values : ∀ column, r.get? column = sets.reverse.lookup column) : r.IsMapOf sets := by
  refine ⟨columns, r.nodup, ?_, values⟩
  have same : (sets.map Prod.fst).toFinset = r.columns.toFinset := by
    ext column
    rw [columns, List.mem_toFinset, List.mem_toFinset, List.mem_eraseDups]
  rw [same, Row.columns, List.toFinset_card_of_nodup r.nodup, List.length_map, size]

theorem isMapOf_empty : empty.IsMapOf [] :=
  isMapOf_of_columns rfl fun _ => rfl

/-- Setting one more value keeps the row the map of all that was set. -/
theorem IsMapOf.set (isMap : r.IsMapOf sets) (column : String) (v : Value) :
    (r.set column v).IsMapOf (sets ++ [(column, v)]) := by
  refine isMapOf_of_columns ?_ fun other => ?_
  · rw [columns_set, isMap.columns, List.map_append]
    simp only [List.map_cons, List.map_nil, Text.eraseDups_append_singleton, List.mem_eraseDups]
  · rw [get?_set, isMap.values, List.reverse_append, List.reverse_singleton, List.singleton_append,
      List.lookup_cons]
    by_cases same : other = column
    · simp [same]
    · simp [same, beq_eq_false_iff_ne.2 same]

/-- Setting several values keeps it the map of all that was set, by induction on them. -/
theorem IsMapOf.setAll (isMap : r.IsMapOf sets) (entries : List (String × Value)) :
    (r.setAll entries).IsMapOf (sets ++ entries) := by
  induction entries generalizing r sets with
  | nil => rwa [List.append_nil]
  | cons entry entries ih =>
    have rest := ih (isMap.set entry.1 entry.2)
    rwa [← List.append_cons] at rest

theorem isMapOf_ofList (sets : List (String × Value)) : (ofList sets).IsMapOf sets :=
  isMapOf_empty.setAll sets

/-- Each entry of a row could be what was set under its column, once. -/
theorem isMapOf_entries (r : Row) : r.IsMapOf r.entries := by
  have again := isMapOf_ofList r.entries
  rwa [ofList_entries] at again

/-- Merging a row that is in step with what was set in it is setting all of that. -/
theorem IsMapOf.merge {given : Row} {more : List (String × Value)} (isMap : r.IsMapOf sets)
    (givenIsMap : given.IsMapOf more) : (r.setAll given.entries).IsMapOf (sets ++ more) := by
  have merged := isMap.setAll given.entries
  refine isMapOf_of_columns ?_ fun column => ?_
  · have columns : given.entries.map Prod.fst = (more.map Prod.fst).eraseDups := givenIsMap.columns
    rw [merged.columns, List.map_append, List.map_append, columns, Text.eraseDups_append_eraseDups]
  · have value : given.entries.reverse.lookup column = more.reverse.lookup column := by
      rw [← given.isMapOf_entries.values, givenIsMap.values]
    rw [merged.values, List.reverse_append, List.reverse_append, List.lookup_append,
      List.lookup_append, value]

/-- The row that comes of merging rows one after the other. -/
def mergeAll (rows : List Row) : Row := rows.foldl (fun r given => r.setAll given.entries) .empty

/-- Merged rows are the map of all values in them, the rows in their order. -/
theorem isMapOf_mergeAll {rows : List Row} {sets : List (List (String × Value))}
    (areMaps : List.Forall₂ IsMapOf rows sets) : (mergeAll rows).IsMapOf sets.flatten := by
  have merging : ∀ (r : Row) (before : List (String × Value)), r.IsMapOf before →
      (rows.foldl (fun r given => r.setAll given.entries) r).IsMapOf (before ++ sets.flatten) := by
    induction areMaps with
    | nil =>
      intro r before isMap
      rwa [List.flatten_nil, List.append_nil]
    | cons first _ ih =>
      intro r before isMap
      rw [List.foldl_cons, List.flatten_cons, ← List.append_assoc]
      exact ih _ _ (isMap.merge first)
  exact merging .empty [] isMapOf_empty

/-- A column that is set leaves the others in their places. -/
theorem getElem?_columns_set_of_ne {column other : String} (different : other ≠ column) (r : Row)
    (v : Value) (i : Nat) :
    (r.set column v).columns[i]? = some other ↔ r.columns[i]? = some other := by
  rw [columns_set]
  split
  case isTrue => rfl
  case isFalse =>
    rcases Nat.lt_or_ge i r.columns.length with inside | outside
    · rw [List.getElem?_append_left inside]
    · rw [List.getElem?_append_right outside, List.getElem?_eq_none outside]
      simp [List.getElem?_singleton, different.symm]

end Row

/-! ## Assignments of a session -/

/-- The rows that have been merged into the assignments, after an edit. -/
def Edit.merged (rows : List Row) : Edit → List Row
  | .update r _ => rows ++ [r]
  | .reset => []
  | _ => rows

/-- The rows that have been merged into the assignments of each builder of a session, after a
call. -/
def Call.merged : List (List Row) → Call → List (List Row)
  | rows :: saved, .edit e => e.merged rows :: saved
  | rows :: saved, .save => rows :: rows :: saved
  | _ :: rows :: saved, .restore => rows :: saved
  | history, _ => history

@[simp] theorem Draft.assignments_declare (d : Draft) (table : String) :
    (d.declare table).assignments = d.assignments := by
  rcases d.exists_declare_eq table with ⟨aliases, tables, declared⟩
  rw [declared]

/-- Rows that are added are kept apart from the assignments. -/
theorem Draft.assignments_foldl_addRow (d : Draft) (rows : List Row) :
    (rows.foldl Draft.addRow d).assignments = d.assignments := by
  induction rows generalizing d with
  | nil => rfl
  | cons r rows ih =>
    rw [List.foldl_cons, ih]
    unfold addRow
    split <;> rfl

/-- An update merges its row, and starting over forgets them all; no other edit touches the
assignments. -/
theorem Edit.assignments_apply (mode : AliasMode) {b : Builder} {rows : List Row}
    (before : b.draft.assignments = .mergeAll rows) (e : Edit) :
    (e.apply mode b).draft.assignments = .mergeAll (e.merged rows) := by
  cases e with
  | update r conditions =>
    have merges : (Edit.apply mode b (.update r conditions)).draft.assignments =
        b.draft.assignments.setAll r.entries := by
      simp [apply, Builder.update, Builder.draft_addWhere]
    rw [merges, before]
    simp [merged, Row.mergeAll]
  | reset => rfl
  | select columns table => simpa [apply, Builder.select, merged] using before
  | declareTables names =>
    rcases b.draft.exists_foldl_declare_eq (Text.allItems names) with ⟨aliases, tables, declared⟩
    simpa [apply, Builder.declareTables, declared, merged] using before
  | addColumnsOf table columns => simpa [apply, Builder.addColumnsOf, merged] using before
  | addWhere options conditions => simpa [apply, Builder.draft_addWhere, merged] using before
  | addHaving options conditions => simpa [apply, Builder.draft_addHaving, merged] using before
  | join kind left right on => simpa [apply, Builder.join, merged] using before
  | joinRaw left sql => simpa [apply, Builder.joinRaw, merged] using before
  | upsert r => exact (Draft.assignments_foldl_addRow _ [r]).trans before
  | insertRows rows => exact (Draft.assignments_foldl_addRow _ rows).trans before
  | insertTuples columns tuples => exact (Draft.assignments_foldl_addRow _ _).trans before
  | delete conditions table =>
    simpa [apply, Builder.delete, Builder.draft_addWhere, merged] using before
  | truncate table => simpa [apply, Builder.truncate, merged] using before
  | setVerb verb => simpa [apply, Builder.setVerb, merged] using before
  | _ => exact before

namespace Session

/-- Of each builder of the session, the assignments are the given rows merged. -/
def AreMerged (s : Session) (history : List (List Row)) : Prop :=
  List.Forall₂ (fun b rows => b.draft.assignments = Row.mergeAll rows) s.builders history

/-- One call merges the rows of its own updates into the current history. -/
theorem AreMerged.step {s : Session} {history : List (List Row)} (merged : s.AreMerged history)
    (mode : AliasMode) (c : Call) : (s.step mode c).1.AreMerged (c.merged history) := by
  obtain ⟨current, saved⟩ := s
  cases merged with
  | cons now before =>
    cases c with
    | edit e => exact .cons (e.assignments_apply mode now) before
    | read r =>
      rcases r.exists_draft_run_eq current with ⟨aliases, same⟩
      have kept : (r.run current).1.draft.assignments = current.draft.assignments := by rw [same]
      exact .cons (kept.trans now) before
    | save => exact .cons now (.cons now before)
    | restore =>
      cases before with
      | nil => exact .cons now .nil
      | cons last earlier => exact .cons last earlier

/-- By induction on the calls, the assignments of every builder are the merged rows of its history.
-/
theorem AreMerged.runUnder {s : Session} {history : List (List Row)} (merged : s.AreMerged history)
    (calls : List (AliasMode × Call)) :
    (s.runUnder calls).AreMerged ((calls.map Prod.snd).foldl Call.merged history) := by
  induction calls generalizing s history with
  | nil => exact merged
  | cons call calls ih => exact ih (merged.step call.1 call.2)

/-- Setting columns, one by one or all at once, makes a row that lists each of them once in the
order in which they were first set, under its last value, and it leaves every other column in its
place with its value.  Whatever the calls on a builder are, the assignments of its draft are such a
row too, of all that was set in the rows that its updates merged since it was last started over. -/
theorem isMapOf_runUnder :
    (∀ sets, (Row.ofList sets).IsMapOf sets) ∧
    (∀ (r : Row) (sets : List (String × Value)) (column : String) (v : Value), r.IsMapOf sets →
      (r.set column v).IsMapOf (sets ++ [(column, v)])) ∧
    (∀ (r : Row) (column : String) (v : Value) (other : String), other ≠ column →
      (r.set column v).get? other = r.get? other ∧
        ∀ i : Nat, (r.set column v).columns[i]? = some other ↔ r.columns[i]? = some other) ∧
    ∀ (d : Draft) (escaper : Escaper) (calls : List (AliasMode × Call)),
      List.Forall₂ (fun b rows => ∀ sets, List.Forall₂ Row.IsMapOf rows sets →
          b.draft.assignments.IsMapOf sets.flatten)
        (runUnder ⟨{ draft := d, escaper }, []⟩ calls).builders
        ((calls.map Prod.snd).foldl Call.merged [[d.assignments]]) := by
  refine ⟨Row.isMapOf_ofList, fun r sets column v isMap => isMap.set column v, ?_, ?_⟩
  · intro r column v other different
    refine ⟨?_, Row.getElem?_columns_set_of_ne different r v⟩
    rw [Row.get?_set, if_neg different]
  · intro d escaper calls
    have start : AreMerged ⟨{ draft := d, escaper }, []⟩ [[d.assignments]] :=
      .cons d.assignments.ofList_entries.symm .nil
    refine (start.runUnder calls).imp ?_
    intro b rows merged sets areMaps
    rw [merged]
    exact Row.isMapOf_mergeAll areMaps

/-- Updates that set a column again, within a row and over several calls, one of which is taken
back. -/
def corrected : List (AliasMode × Call) :=
  [(.auto, .edit (.update
      (.ofList [("name", .null), ("age", .natural 1), ("name", .text "a")]) [])), (.auto, .save),
    (.auto, .edit (.update (.ofList [("lost", .null)]) [])), (.auto, .edit .reset),
    (.auto, .restore), (.auto, .read .compile), (.always, .edit .rebuild),
    (.auto, .edit (.update (.ofList [("email", .null), ("age", .natural 2)]) [.raw "id = 1"]))]

theorem isMapOf_runUnder_corrected :
    let assignments := (runUnder ⟨.empty .auto, []⟩ corrected).current.draft.assignments
    let sets : List (String × Value) :=
      [("name", .null), ("age", .natural 1), ("name", .text "a"), ("email", .null),
        ("age", .natural 2)]
    assignments.columns = ["name", "age", "email"] ∧ assignments.IsMapOf sets ∧
      (assignments.set "age" .null).IsMapOf (sets ++ [("age", .null)]) ∧
      "email" ≠ "age" ∧ (assignments.set "age" .null).get? "email" = assignments.get? "email" ∧
      ((assignments.set "age" .null).columns[2]? = some "email" ↔
        assignments.columns[2]? = some "email") := by
  intro assignments sets
  obtain ⟨collected, further, others, merged⟩ := isMapOf_runUnder
  obtain ⟨now, -⟩ := List.forall₂_cons.1 (merged (.empty .auto) .mysql corrected)
  have isMap : assignments.IsMapOf sets := now [[], sets.take 3, sets.drop 3]
    (.cons Row.isMapOf_empty (.cons (collected _) (.cons (collected _) .nil)))
  have different : "email" ≠ "age" := by decide
  obtain ⟨value, place⟩ := others assignments "age" .null "email" different
  exact ⟨by decide +kernel, isMap, further assignments sets "age" .null isMap, different, value,
    place 2⟩

end Session

end SqlQuery
