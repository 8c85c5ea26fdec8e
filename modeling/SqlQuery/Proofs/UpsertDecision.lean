import SqlQuery.Proofs.RowStatement

/-!
When an upsert changes rows, and when it adds them.

An upsert is the update to its first row (`Draft.asUpdate`) or the insertion of its rows
(`Draft.asInsertion`), text and counts alike.  It is the former if a condition on the rows survives.
Compiling finds that out by a trial, and the trial comes out the same for all drafts that state the
same conditions, whatever else they say and whatever the escaper is; neither kind of statement
starts like the other.
-/

namespace SqlQuery

/-- The second text starts with the first one. -/
def Text.StartsWith (start text : String) : Prop := ∃ rest, text = start ++ rest

/-- A text has the first character of what it starts with. -/
theorem Text.StartsWith.head?_eq {start text : String} (starts : StartsWith start text)
    (present : start ≠ "") : text.toList.head? = start.toList.head? := by
  rcases starts with ⟨rest, rfl⟩
  rw [String.toList_append]
  exact List.head?_append_of_ne_nil _ (by simpa using present)

/-- A text has one first character, so it does not start in two ways. -/
theorem Text.StartsWith.not_startsWith {start other text : String} (starts : StartsWith start text)
    (present : start ≠ "") (otherPresent : other ≠ "")
    (different : start.toList.head? ≠ other.toList.head?) : ¬StartsWith other text := by
  intro otherwise
  rw [← starts.head?_eq present, ← otherwise.head?_eq otherPresent] at different
  exact different rfl

theorem Text.not_startsWith_empty {start : String} (present : start ≠ "") :
    ¬StartsWith start "" := by
  rintro ⟨rest, same⟩
  exact present (String.append_eq_empty_iff.1 same.symm).1

namespace Fragment

theorem joined_cons_of_isBlank (separator : String) {f : Fragment} (blank : f.isBlank = true)
    (fs : List Fragment) : joined separator (f :: fs) = joined separator fs := by
  unfold joined
  rw [List.filter_cons_of_neg (by simp [blank])]

/-- Parts of which the first one is there start the way it does. -/
theorem startsWith_fill_joined (qualifierOf : Nat → String) (separator : String) {f : Fragment}
    (present : f.isBlank = false) {start : String}
    (starts : Text.StartsWith start (f.fill qualifierOf)) (fs : List Fragment) :
    Text.StartsWith start ((joined separator (f :: fs)).fill qualifierOf) := by
  rcases starts with ⟨rest, same⟩
  have parts := joined_append_cons separator [] present fs
  rw [List.nil_append, List.filter_nil, List.flatMap_nil, List.nil_append] at parts
  rw [parts, fill_append, same, String.append_assoc]
  exact ⟨_, rfl⟩

/-- A clause with a body starts with its keyword, and so do the parts that it is the first of. -/
theorem startsWith_fill_joined_clause (qualifierOf : Nat → String) (separator keyword : String)
    {body : Fragment} (present : body.isBlank = false) (fs : List Fragment) :
    Text.StartsWith (keyword ++ " ")
      ((joined separator (clause keyword body :: fs)).fill qualifierOf) := by
  have written : clause keyword body = .text (keyword ++ " ") :: body := by
    simp [clause, present]
  rw [written]
  exact startsWith_fill_joined qualifierOf separator (by simp [isBlank]) ⟨_, rfl⟩ fs

end Fragment

namespace Draft

/-- The conditions on the rows, without the groups they stand in. -/
def rowConditions (d : Draft) : List Condition := d.wheres.flatMap ConditionGroup.conditions

/-- The change of rows to the values of the first row, or to none where there is no row. -/
def asUpdate (d : Draft) : Draft :=
  { d with action := some .update, assignments := d.rows.head?.getD .empty }

/-- The insertion of the rows. -/
def asInsertion (d : Draft) : Draft := { d with action := some .insert }

variable {d : Draft} {escaper : Escaper}

/-! ## The trial -/

/-- A group survives if one of its conditions does. -/
theorem any_survives_wheres (d : Draft) :
    d.wheres.any ConditionGroup.survives = d.rowConditions.any Condition.survives := by
  have each (cs : List Condition) : Condition.anySurvives cs = cs.any Condition.survives := by
    induction cs with
    | nil => rfl
    | cons c cs ih => rw [Condition.anySurvives, List.any_cons, ih]
  unfold rowConditions
  rw [List.any_flatMap]
  congr 1
  funext g
  exact each g.conditions

/-- Some group is written exactly when some condition survives. -/
theorem whereGroups_ne_nil_iff (d : Draft) (escaper : Escaper) :
    d.whereGroups escaper ≠ [] ↔ ∃ c ∈ d.rowConditions, c.survives = true := by
  rw [← List.any_eq_true, ← any_survives_wheres, ← List.isEmpty_eq_false_iff, isEmpty_whereGroups,
    Bool.not_eq_false']

/-- The statement of an upsert is that of an update or of an insertion. -/
theorem statement_of_upsert (upserts : d.action = some .upsert) :
    d.statement escaper =
      (if ∃ c ∈ d.rowConditions, c.survives = true then d.asUpdate
        else d.asInsertion).statement escaper := by
  have decided := d.whereGroups_ne_nil_iff escaper
  by_cases survives : ∃ c ∈ d.rowConditions, c.survives = true
  · have written : d.upsertStatement escaper =
        d.updateStatement escaper (d.rows.head?.getD .empty) := by
      unfold upsertStatement
      rw [if_neg (by simpa using decided.2 survives)]
    rw [if_pos survives, statement, upserts]
    dsimp only
    rw [written]
    rfl
  · have written : d.upsertStatement escaper = d.insertStatement escaper := by
      unfold upsertStatement
      rw [if_pos (by simpa using mt decided.1 survives)]
    rw [if_neg survives, statement, upserts]
    dsimp only
    rw [written]
    rfl

/-! ## How the two kinds of statements start -/

/-- An insertion never starts like an update. -/
theorem not_startsWith_fill_insertStatement (qualifierOf : Nat → String) :
    ¬Text.StartsWith "UPDATE " ((d.insertStatement escaper).fill qualifierOf) := by
  unfold insertStatement
  split
  case h_1 => exact Text.not_startsWith_empty (by decide)
  case h_2 table _ =>
    split
    case isTrue => exact Text.not_startsWith_empty (by decide)
    case isFalse =>
      have verb : Text.StartsWith "INSERT INTO"
          (Fragment.fill qualifierOf [.text "INSERT INTO"]) := ⟨"", rfl⟩
      have inserts := Fragment.startsWith_fill_joined qualifierOf " " (by decide) verb
      exact (inserts _).not_startsWith (by decide) (by decide) (by decide)

/-- A change of rows starts with its table, or with its values where there is nothing to be written
for that. -/
theorem not_startsWith_fill_updateStatement (qualifierOf : Nat → String) (r : Row) :
    ¬Text.StartsWith "INSERT INTO " ((d.updateStatement escaper r).fill qualifierOf) := by
  unfold updateStatement
  split
  case isTrue => exact Text.not_startsWith_empty (by decide)
  case isFalse values =>
    dsimp only
    cases blank : d.fromList.isBlank with
    | false =>
      have updates := Fragment.startsWith_fill_joined_clause qualifierOf " " "UPDATE" blank
      exact (updates _).not_startsWith (by decide) (by decide) (by decide)
    | true =>
      have present : (d.assignmentList escaper r).isBlank = false := by
        unfold assignmentList
        rcases List.exists_cons_of_ne_nil (by simpa [Row.isEmpty] using values) with
          ⟨entry, entries, parts⟩
        rw [parts, List.map_cons]
        apply Fragment.isBlank_separated_cons
        simp [assignment, Fragment.isBlank]
      have none : Fragment.clause "UPDATE" d.fromList = [] := by simp [Fragment.clause, blank]
      have sets := Fragment.startsWith_fill_joined_clause qualifierOf " " "SET" present
      rw [none, Fragment.joined_cons_of_isBlank " " rfl]
      exact (sets _).not_startsWith (by decide) (by decide) (by decide)

/-- An update is empty or has its own verb. -/
theorem not_startsWith_asUpdate :
    ¬Text.StartsWith "INSERT INTO " (d.asUpdate.compile escaper).sql := by
  change ¬Text.StartsWith _ ((d.asUpdate.statement escaper).fill d.scope.qualifierOf)
  unfold statement
  split
  case isTrue => exact Text.not_startsWith_empty (by decide)
  case isFalse => exact not_startsWith_fill_updateStatement (d := d.asUpdate) _ _

theorem not_startsWith_asInsertion :
    ¬Text.StartsWith "UPDATE " (d.asInsertion.compile escaper).sql := by
  change ¬Text.StartsWith _ ((d.asInsertion.statement escaper).fill d.scope.qualifierOf)
  unfold statement
  split
  case isTrue => exact Text.not_startsWith_empty (by decide)
  case isFalse => exact not_startsWith_fill_insertStatement (d := d.asInsertion) _

/-! ## The decision -/

/-- Text and counts of an upsert are those of the statement it comes to. -/
theorem compile_of_upsert (upserts : d.action = some .upsert) :
    d.compile escaper =
      (if ∃ c ∈ d.rowConditions, c.survives = true then d.asUpdate
        else d.asInsertion).compile escaper := by
  have same : d.statement escaper = _ := statement_of_upsert upserts
  unfold compile
  rw [same]
  split <;> rfl

/-- An upsert has the text and the counts of the change of rows to its first row if one of its
conditions survives, and those of the insertion of its rows otherwise.  Its conditions alone decide
between the two: of two upserts with the same conditions, in whatever groups and with whatever
tables, aliases, rows and escapers, it is not one that changes rows and the other that adds them. -/
theorem compile_upserting (d : Draft) (escaper : Escaper) (upserts : d.action = some .upsert) :
    d.compile escaper =
        (if ∃ c ∈ d.rowConditions, c.survives = true then d.asUpdate
          else d.asInsertion).compile escaper ∧
      (d.whereGroups escaper ≠ [] ↔ ∃ c ∈ d.rowConditions, c.survives = true) ∧
      ∀ (other : Draft) (escaper' : Escaper), other.action = some .upsert →
        other.rowConditions = d.rowConditions →
          (other.whereGroups escaper' ≠ [] ↔ d.whereGroups escaper ≠ []) ∧
            ¬(Text.StartsWith "UPDATE " (d.compile escaper).sql ∧
              Text.StartsWith "INSERT INTO " (other.compile escaper').sql) ∧
            ¬(Text.StartsWith "INSERT INTO " (d.compile escaper).sql ∧
              Text.StartsWith "UPDATE " (other.compile escaper').sql) := by
  refine ⟨compile_of_upsert upserts, d.whereGroups_ne_nil_iff escaper, ?_⟩
  intro other escaper' alsoUpserts same
  rw [compile_of_upsert upserts, compile_of_upsert alsoUpserts, same]
  refine ⟨?_, ?_⟩
  · rw [whereGroups_ne_nil_iff, whereGroups_ne_nil_iff, same]
  · split
    case isTrue =>
      exact ⟨fun both => not_startsWith_asUpdate both.2, fun both => not_startsWith_asUpdate both.1⟩
    case isFalse =>
      exact ⟨fun both => not_startsWith_asInsertion both.1,
        fun both => not_startsWith_asInsertion both.2⟩

/-- An upsert whose only condition that survives stands below a table that nothing declares. -/
def correcting : Draft :=
  { Draft.empty .auto with
    action := some .upsert
    aliases := ⟨[⟨"users", "T0", false, 0⟩], 1⟩
    tables := ["users"]
    wheres := [⟨[.compare "name" none (.list [.null, .text ""]), .raw " "], {}⟩,
      ⟨[.table "posts" [.compare "id" (some .between) (.list [.null, .natural 9]),
        .compare "id" none (.single (.natural 4))]], {}⟩]
    equalities := [⟨"users", "id", "posts", "user_id"⟩]
    rows := [.ofList [("name", .text "O'Hara"), ("age", .null)], .ofList [("name", .text "Bo")]] }

/-- The same conditions in one group, on another table and with other rows. -/
def rearranged : Draft :=
  { Draft.empty .always with
    action := some .upsert
    aliases := ⟨[⟨"posts", "p", true, 0⟩], 0⟩
    tables := ["posts"]
    wheres := [⟨correcting.rowConditions, { relation := .or, table := some "p", unquoted := true }⟩]
    rows := [.ofList [("title", .text "A")]] }

theorem compile_upserting_correcting :
    correcting.action = some .upsert ∧ rearranged.action = some .upsert ∧
      rearranged.rowConditions = correcting.rowConditions ∧
      (∃ c ∈ correcting.rowConditions, c.survives = true) ∧
      correcting.compile .mysql = correcting.asUpdate.compile .mysql ∧
      ¬(Text.StartsWith "UPDATE " (correcting.compile .mysql).sql ∧
        Text.StartsWith "INSERT INTO " (rearranged.compile ⟨id, id⟩).sql) := by
  have survives : ∃ c ∈ correcting.rowConditions, c.survives = true := by
    rw [← List.any_eq_true]
    decide +kernel
  have same : rearranged.rowConditions = correcting.rowConditions := List.append_nil _
  rcases compile_upserting correcting .mysql rfl with ⟨update, -, alike⟩
  rw [if_pos survives] at update
  exact ⟨rfl, rfl, same, survives, update, (alike rearranged ⟨id, id⟩ rfl same).2.1⟩

end Draft

end SqlQuery
