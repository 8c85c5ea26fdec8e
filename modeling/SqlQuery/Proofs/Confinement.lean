import SqlQuery.Proofs.DraftTexts

/-!
Values cannot change the structure of a statement.

The outline of a draft is what is left of it when every value is replaced by null, the empty text or
one fixed text, whichever it is like.  `Draft.IsWellQuoted.frame_statement_outline` shows that a
draft and its outline have statements that differ in their strings only.  With what the strings are,
this is the whole of it: the compiled text is read back to its end, its strings are the texts of the
values in the order in which they are printed, and its skeleton is one that all drafts of the same
outline share.
-/

namespace SqlQuery

open Text

/-! ## Outlines -/

/-- The value with nothing left but whether it is null and whether it is blank. -/
def Value.outline (v : Value) : Value :=
  if v.isNull then .null else if v.isBlank then .text "" else .text "x"

/-- The operand with the outlines of its values. -/
def Operand.outline : Operand → Operand
  | .single v => .single v.outline
  | .list vs => .list (vs.map Value.outline)

/-- The comparison with the outline of its operand.  Other conditions have no values of their
own. -/
def Condition.outline : Condition → Condition
  | .compare field comparison operand => .compare field comparison operand.outline
  | c => c

/-- The group with the outlines of its conditions. -/
def ConditionGroup.outline (g : ConditionGroup) : ConditionGroup :=
  { g with conditions := g.conditions.map Condition.outline }

/-- The row with the outlines of its values. -/
def Row.outline (r : Row) : Row where
  entries := r.entries.map fun entry => (entry.1, entry.2.outline)
  nodup := by simpa [Function.comp_def] using r.nodup

/-- The draft with the outlines of all its values. -/
def Draft.outline (d : Draft) : Draft :=
  { d with
    wheres := d.wheres.map ConditionGroup.outline
    having := d.having.map ConditionGroup.outline
    rows := d.rows.map Row.outline
    assignments := d.assignments.outline }

/-! ## Values -/

namespace Value

@[simp] theorem isNull_outline (v : Value) : v.outline.isNull = v.isNull := by
  cases null : v.isNull <;> cases blank : v.isBlank <;> simp [outline, null, blank] <;> rfl

@[simp] theorem isBlank_outline (v : Value) : v.outline.isBlank = v.isBlank := by
  cases null : v.isNull with
  | true =>
    cases v with
    | null => rfl
    | _ => cases null
  | false => cases blank : v.isBlank <;> simp [outline, null, blank] <;> decide

@[simp] theorem isExpression_outline (v : Value) : v.outline.isExpression = false := by
  unfold outline
  repeat' split
  all_goals rfl

/-- The text that stands for another one is no sub-query. -/
theorem isSubquery_of_outline_eq_text {v : Value} {s : String} (outlined : v.outline = .text s) :
    isSubquery s = false := by
  unfold outline at outlined
  split at outlined
  · cases outlined
  · split at outlined
    · obtain rfl := Value.text.inj outlined
      decide
    · obtain rfl := Value.text.inj outlined
      decide

/-- An outline shows a string exactly where the value does. -/
theorem isSome_shown?_outline {v : Value} (data : v.isExpression = false) :
    v.outline.shown?.isSome = v.shown?.isSome := by
  rw [isSome_shown? data, isSome_shown? v.isExpression_outline, isNull_outline]

theorem skeleton_transcript (v : Value) :
    v.transcript.skeleton = if v.shown?.isSome then [.string] else marks "NULL" := by
  unfold transcript
  cases v.shown? <;> rfl

theorem skeleton_transcript_outline {v : Value} (data : v.isExpression = false) :
    v.outline.transcript.skeleton = v.transcript.skeleton := by
  rw [skeleton_transcript, skeleton_transcript, isSome_shown?_outline data]

end Value

/-! ## Operands -/

namespace Operand

/-- The outline of an operand has no expressions. -/
theorem isData_outline (operand : Operand) : operand.outline.IsData := by
  cases operand with
  | single v =>
    refine ⟨?_, ?_⟩
    · intro w member
      obtain rfl := List.mem_singleton.1 member
      exact v.isExpression_outline
    · intro s same
      exact Value.isSubquery_of_outline_eq_text (Operand.single.inj same)
  | list vs =>
    refine ⟨?_, ?_⟩
    · intro w member
      obtain ⟨v, -, rfl⟩ := List.mem_map.1 member
      exact v.isExpression_outline
    · intro s same
      cases same

theorem skeleton_outline (comparison : Option Comparison) (operand : Operand) (count : Nat) :
    operand.outline.skeleton comparison count = operand.skeleton comparison count := by
  cases operand <;> rfl

/-- Two bounds print two texts if both are there. -/
theorem map_length_rangeTexts? (vs : List Value) :
    (rangeTexts? vs).map List.length =
      match vs with
      | lower :: upper :: _ =>
        if lower.shown?.isSome && upper.shown?.isSome then some 2 else none
      | _ => none := by
  rcases vs with _ | ⟨lower, _ | ⟨upper, rest⟩⟩
  · rfl
  · rfl
  · cases low : lower.shown? <;> cases high : upper.shown? <;> simp [rangeTexts?, low, high]

/-- A list prints as many texts as it has values that are not blank, if it has any. -/
theorem map_length_listTexts? {vs : List Value} (data : ∀ v ∈ vs, v.isExpression = false) :
    (listTexts? vs).map List.length =
      if (vs.filter (!·.isBlank)).length = 0 then none
      else some (vs.filter (!·.isBlank)).length := by
  have keptData : ∀ v ∈ vs.filter (!·.isBlank), v.isExpression = false := by
    intro v member
    exact data v (List.mem_filter.1 member).1
  rw [← length_filterMap_shown? keptData (isNull_of_mem_filter vs)]
  unfold listTexts?
  cases (vs.filter (!·.isBlank)).filterMap Value.shown? <;> simp

/-- A pattern is sought for every value but null. -/
theorem isSome_soughtText? (comparison : Comparison) {v : Value} (data : v.isExpression = false) :
    (soughtText? comparison v).isSome = !v.isNull := by
  cases sought : soughtText? comparison v with
  | none => simp [(soughtText?_eq_none_iff data).1 sought]
  | some text =>
    cases null : v.isNull with
    | false => rfl
    | true =>
      rw [(soughtText?_eq_none_iff data).2 null] at sought
      cases sought

/-- A range shows as many strings for an outline as for its bounds. -/
theorem map_length_rangeTexts?_outline {vs : List Value}
    (data : ∀ v ∈ vs, v.isExpression = false) :
    (rangeTexts? (vs.map Value.outline)).map List.length = (rangeTexts? vs).map List.length := by
  rw [map_length_rangeTexts?, map_length_rangeTexts?]
  rcases vs with _ | ⟨lower, _ | ⟨upper, rest⟩⟩
  · rfl
  · rfl
  · have low := Value.isSome_shown?_outline (data lower (by simp))
    have high := Value.isSome_shown?_outline (data upper (by simp))
    simp [low, high]

/-- A list shows as many strings for an outline, since blank values are left out of both. -/
theorem map_length_listTexts?_outline {vs : List Value}
    (data : ∀ v ∈ vs, v.isExpression = false) :
    (listTexts? (vs.map Value.outline)).map List.length = (listTexts? vs).map List.length := by
  have outlined : ∀ v ∈ vs.map Value.outline, v.isExpression = false :=
    (isData_outline (.list vs)).1
  rw [map_length_listTexts? outlined, map_length_listTexts? data]
  simp [List.filter_map, Function.comp_def]

theorem isSome_soughtText?_outline (comparison : Comparison) {v : Value}
    (data : v.isExpression = false) :
    (soughtText? comparison v.outline).isSome = (soughtText? comparison v).isSome := by
  rw [isSome_soughtText? comparison data, isSome_soughtText? comparison v.isExpression_outline,
    Value.isNull_outline]

/-- The outline of an operand prints as many texts. -/
theorem map_length_texts?_outline (comparison : Option Comparison) {operand : Operand}
    (data : operand.IsData) :
    (operand.outline.texts? comparison).map List.length =
      (operand.texts? comparison).map List.length := by
  unfold texts?
  by_cases check : comparison.any (·.isNullCheck) = true
  · rw [if_pos check, if_pos check]
  · rw [if_neg check, if_neg check]
    cases operand with
    | list vs =>
      simp only [outline]
      split
      · exact map_length_rangeTexts?_outline data.1
      · exact map_length_listTexts?_outline data.1
    | single v =>
      simp only [outline]
      split
      · rfl
      · have same := isSome_soughtText?_outline (comparison.getD .equal)
          (data.1 v List.mem_cons_self)
        cases sought : soughtText? (comparison.getD .equal) v <;>
          cases outlined : soughtText? (comparison.getD .equal) v.outline <;>
            simp [sought, outlined] at same ⊢

/-- A comparison and its outline are written alike but for their strings. -/
theorem frame_predicate?_outline (comparison : Option Comparison) {operand : Operand}
    (data : operand.IsData) :
    (operand.outline.predicate? .mysql true comparison).map
        (fun text => (Piece.text (" " ++ text)).frame) =
      (operand.predicate? .mysql true comparison).map
        fun text => (Piece.text (" " ++ text)).frame := by
  have present : " ".isEmpty = false := by decide
  have frames {operand : Operand} (data : operand.IsData) :
      (operand.predicate? .mysql true comparison).map
          (fun text => (Piece.text (" " ++ text)).frame) =
        ((operand.texts? comparison).map List.length).map fun count =>
          .text false (some (marks " " ++ operand.skeleton comparison count)) := by
    have read := transcript?_predicate? comparison data
    cases written : operand.predicate? .mysql true comparison with
    | none =>
      rw [written] at read
      have dropped : operand.texts? comparison = none := by simpa using read.symm
      simp [dropped]
    | some text =>
      rw [written] at read
      obtain ⟨texts, shown, same⟩ := Option.map_eq_some_iff.1 read.symm
      simp [shown, Piece.frame_text_append present quoteFree_space same.symm]
  rw [frames data, frames (isData_outline operand), map_length_texts?_outline _ data]
  congr 1
  funext count
  rw [skeleton_outline]

end Operand

/-! ## Groups of conditions -/

namespace Scope

variable (s : Scope)

/-- A condition and its outline have the same predicate, or none, but for its strings. -/
theorem frame_leaves_outline (known : String → Bool) (context : Option String) {c : Condition}
    (quoted : c.IsWellQuoted) :
    ((c.outline.leaves known context true).filterMap (s.predicate? .mysql)).map Fragment.frame =
      ((c.leaves known context true).filterMap (s.predicate? .mysql)).map Fragment.frame := by
  cases c with
  | raw sql => exact quoted.elim
  | table name conditions => exact quoted.elim
  | compare field comparison operand =>
    have same := Operand.frame_predicate?_outline comparison quoted.2
    by_cases unnamed : field.isEmpty = true
    · simp [Condition.outline, Condition.leaves, predicate?, unnamed]
    · cases written : operand.predicate? .mysql true comparison <;>
        cases outlined : operand.outline.predicate? .mysql true comparison <;>
          simp [written, outlined] at same <;>
            simp [Condition.outline, Condition.leaves, predicate?, unnamed, written, outlined, same]

/-- The same leaves are dropped, and the others have predicates of the same frame. -/
theorem frame_predicates_outline {g : ConditionGroup} (quoted : g.IsWellQuoted) :
    (s.predicates .mysql g.outline).map Fragment.frame =
      (s.predicates .mysql g).map Fragment.frame := by
  obtain ⟨inQuotes, conditions⟩ := quoted
  unfold predicates ConditionGroup.leaves ConditionGroup.outline
  rw [inQuotes, Bool.not_false]
  generalize g.conditions = cs at conditions ⊢
  induction cs with
  | nil => rfl
  | cons c cs ih =>
    have first := frame_leaves_outline s s.resolves g.options.table
      (conditions c List.mem_cons_self)
    have rest := ih fun other member => conditions other (List.mem_cons_of_mem c member)
    simp only [List.map_cons, Condition.leavesOfAll, List.filterMap_append, List.map_append]
    rw [first, rest]

/-- A group is left out or has the same frame. -/
theorem frame_group?_outline {g : ConditionGroup} (quoted : g.IsWellQuoted) :
    (s.group? .mysql g.outline).map Fragment.frame = (s.group? .mysql g).map Fragment.frame := by
  have same := frame_predicates_outline s quoted
  have relation : g.outline.options.relation = g.options.relation := rfl
  unfold group?
  rw [relation]
  cases written : s.predicates .mysql g with
  | nil =>
    rw [written] at same
    rw [List.map_eq_nil_iff.1 same]
  | cons f fs =>
    rw [written] at same
    cases outlined : s.predicates .mysql g.outline with
    | nil => simp [outlined] at same
    | cons f' fs' =>
      rw [outlined] at same
      simp [Fragment.frame_separated_congr same]

/-- The same groups are left. -/
theorem frame_groups_outline {gs : List ConditionGroup} (quoted : ∀ g ∈ gs, g.IsWellQuoted) :
    (s.groups .mysql (gs.map ConditionGroup.outline)).map Fragment.frame =
      (s.groups .mysql gs).map Fragment.frame := by
  unfold groups
  rw [List.filterMap_map, List.map_filterMap, List.map_filterMap]
  apply List.filterMap_congr
  intro g member
  exact frame_group?_outline s (quoted g member)

/-- Which equalities are written depends on the frame of the rest. -/
theorem equalities_congr {mentioned mentioned' : Fragment}
    (same : mentioned.frame = mentioned'.frame) (es : List Equality) :
    s.equalities mentioned es = s.equalities mentioned' es := by
  unfold equalities
  congr 1
  apply List.filter_congr
  intro e _
  rw [mentions_congr s same, mentions_congr s same]

end Scope

/-! ## Rows -/

namespace Row

@[simp] theorem isEmpty_outline (r : Row) : r.outline.isEmpty = r.isEmpty := by
  rcases r with ⟨entries, _⟩
  cases entries <;> rfl

theorem get?_outline (r : Row) (column : String) :
    r.outline.get? column = (r.get? column).map Value.outline := by
  unfold get? outline
  rw [List.find?_map, Option.map_map, Option.map_map]
  rfl

theorem isWellQuoted_outline {r : Row} (quoted : r.IsWellQuoted) : r.outline.IsWellQuoted := by
  intro entry member
  obtain ⟨original, inside, rfl⟩ := List.mem_map.1 member
  exact ⟨(quoted original inside).1, original.2.isExpression_outline⟩

end Row

namespace Draft

/-- An item has a string in the same places. -/
theorem skeleton_itemTranscript_outline {r : Row} (quoted : r.IsWellQuoted) (column : String) :
    (itemTranscript r.outline column).skeleton = (itemTranscript r column).skeleton := by
  unfold itemTranscript
  rw [Row.get?_outline]
  cases found : r.get? column with
  | none => rfl
  | some v =>
    obtain ⟨entry, isEntry, rfl⟩ := Option.map_eq_some_iff.1 found
    exact Value.skeleton_transcript_outline (quoted entry (List.mem_of_find?_eq_some isEntry)).2

theorem skeleton_tupleTranscript_outline {r : Row} (quoted : r.IsWellQuoted)
    (columns : List String) :
    (tupleTranscript columns r.outline).skeleton = (tupleTranscript columns r).skeleton := by
  simp only [tupleTranscript, skeleton_itemTranscript_outline quoted]

/-! ## Statements -/

variable {d : Draft}

theorem rows_outline (d : Draft) : d.outline.rows = d.rows.map Row.outline := rfl

/-- Every tuple has its parentheses, so there is a text as soon as there is a row. -/
theorem isEmpty_tuples (escaper : Escaper) (columns : List String) (rs : List Row) :
    (", ".intercalate (rs.map (tuple escaper columns))).isEmpty = rs.isEmpty := by
  cases rs with
  | nil => rfl
  | cons r rs =>
    have opened : tuple escaper columns r ≠ "" := by
      simp [tuple_eq, String.append_eq_empty_iff]
    cases rs <;> simp [String.isEmpty_eq_false_iff, String.append_eq_empty_iff, opened]

/-- The tuples of the rows are written alike but for their strings. -/
theorem frame_tuples_outline {rs : List Row} (quoted : ∀ r ∈ rs, r.IsWellQuoted)
    (columns : List String) :
    (Piece.text (", ".intercalate ((rs.map Row.outline).map (tuple .mysql columns)))).frame =
      (Piece.text (", ".intercalate (rs.map (tuple .mysql columns)))).frame := by
  have read := transcript?_intercalate quoteFree_comma fun r (member : r ∈ rs) =>
    transcript?_tuple (quoted r member) columns
  have outlined := transcript?_intercalate quoteFree_comma fun r (member : r ∈ rs) =>
    transcript?_tuple (Row.isWellQuoted_outline (quoted r member)) columns
  have skeletons : rs.map (fun r => (tupleTranscript columns r.outline).skeleton) =
      rs.map fun r => (tupleTranscript columns r).skeleton :=
    List.map_congr_left fun r member => skeleton_tupleTranscript_outline (quoted r member) columns
  have outlinedEmpty := isEmpty_tuples .mysql columns (rs.map Row.outline)
  rw [List.map_map] at outlinedEmpty ⊢
  simp only [Piece.frame, isEmpty_tuples, outlinedEmpty, List.isEmpty_map]
  rw [read]
  unfold Function.comp
  rw [outlined, skeletons]
  rfl

/-- Adding rows has the same frame, since there are as many rows and columns. -/
theorem IsWellQuoted.frame_insertStatement (quoted : d.IsWellQuoted) :
    (d.outline.insertStatement .mysql).frame = (d.insertStatement .mysql).frame := by
  have tuples := frame_tuples_outline
    (fun r member => quoted.rows r (List.mem_cons_of_mem _ member)) d.insertColumns
  have values : (Fragment.clause "VALUES" [.text (", ".intercalate
        ((d.rows.map Row.outline).map (tuple .mysql d.insertColumns)))]).frame =
      (Fragment.clause "VALUES"
        [.text (", ".intercalate (d.rows.map (tuple .mysql d.insertColumns)))]).frame := by
    apply Fragment.frame_clause_congr
    rw [Fragment.frame_cons, Fragment.frame_cons, tuples]
  have primary : d.outline.primary? = d.primary? := rfl
  have columns : d.outline.insertColumns = d.insertColumns := rfl
  unfold insertStatement
  rw [primary, columns, rows_outline, List.isEmpty_map]
  cases d.primary? with
  | none => rfl
  | some table =>
    dsimp only
    split
    · rfl
    · apply Fragment.frame_joined_congr
      simp only [List.map_cons, values, List.map_nil]

/-- An assignment has the slot of its key, and an outline for its value. -/
theorem frame_assignment_outline (entry : String × Value) (data : entry.2.isExpression = false) :
    (d.assignment .mysql (entry.1, entry.2.outline)).frame = (d.assignment .mysql entry).frame := by
  have equals : QuoteFree "=" := by decide
  have present : "=".isEmpty = false := by decide
  have read := Piece.frame_text_append present equals (Value.transcript?_assigned data)
  have outlined := Piece.frame_text_append present equals
    (Value.transcript?_assigned entry.2.isExpression_outline)
  simp [assignment, read, outlined, Value.skeleton_transcript_outline data]

theorem frame_assignmentList_outline {r : Row} (quoted : r.IsWellQuoted) :
    (d.assignmentList .mysql r.outline).frame = (d.assignmentList .mysql r).frame := by
  apply Fragment.frame_separated_congr
  rw [Row.outline, List.map_map, List.map_map, List.map_map]
  apply List.map_congr_left
  intro entry member
  exact frame_assignment_outline entry (quoted entry member).2

/-- The `WHERE` clause is written alike but for its strings, if the rest of the statement is. -/
theorem IsWellQuoted.frame_whereClause (quoted : d.IsWellQuoted) {others others' : Fragment}
    (same : others'.frame = others.frame) :
    (d.outline.whereClause .mysql others').frame = (d.whereClause .mysql others).frame := by
  have groups : (d.outline.whereGroups .mysql).map Fragment.frame =
      (d.whereGroups .mysql).map Fragment.frame :=
    Scope.frame_groups_outline d.scope fun g member =>
      quoted.groups g (List.mem_append_left _ member)
  -- The groups of the clause decide on the equalities as well, and they have the same slots.
  have mentioned : (others' ++ (d.outline.whereGroups .mysql).flatten).frame =
      (others ++ (d.whereGroups .mysql).flatten).frame := by
    rw [Fragment.frame_append, Fragment.frame_append, same]
    unfold Fragment.frame at groups ⊢
    rw [List.map_flatten, List.map_flatten, groups]
  have equalities := d.scope.equalities_congr mentioned d.equalities
  apply Fragment.frame_clause_congr
  apply Fragment.frame_joined_congr
  unfold predicates
  change ((d.outline.whereGroups .mysql) ++ d.scope.equalities
    (others' ++ (d.outline.whereGroups .mysql).flatten) d.equalities).map Fragment.frame = _
  rw [equalities, List.map_append, List.map_append, groups]

theorem IsWellQuoted.frame_havingPredicates (quoted : d.IsWellQuoted) :
    (d.outline.havingPredicates .mysql).frame = (d.havingPredicates .mysql).frame :=
  Fragment.frame_joined_congr (Scope.frame_groups_outline d.scope fun g member =>
    quoted.groups g (List.mem_append_right d.wheres member))

/-- A selection has the same frame as that of the outline. -/
theorem IsWellQuoted.frame_selectStatement (quoted : d.IsWellQuoted) :
    (d.outline.selectStatement .mysql).frame = (d.selectStatement .mysql).frame := by
  have having := quoted.frame_havingPredicates
  have others : (d.selectList ++ d.fromList ++ d.grouping ++
        d.outline.havingPredicates .mysql ++ d.ordering).frame =
      (d.selectList ++ d.fromList ++ d.grouping ++ d.havingPredicates .mysql ++
        d.ordering).frame := by
    simp only [Fragment.frame_append, having]
  have conditions := quoted.frame_whereClause others
  have havingClause : (Fragment.clause "HAVING" (d.outline.havingPredicates .mysql)).frame =
      (Fragment.clause "HAVING" (d.havingPredicates .mysql)).frame :=
    Fragment.frame_clause_congr having
  apply Fragment.frame_joined_congr
  simp only [List.map_cons, List.map_nil]
  rw [← conditions, ← havingClause]
  rfl

/-- A change has the same frame as that to the outline of its row. -/
theorem IsWellQuoted.frame_updateStatement (quoted : d.IsWellQuoted) {r : Row}
    (row : r.IsWellQuoted) :
    (d.outline.updateStatement .mysql r.outline).frame = (d.updateStatement .mysql r).frame := by
  have assignments : (d.outline.assignmentList .mysql r.outline).frame =
      (d.assignmentList .mysql r).frame := frame_assignmentList_outline row
  have others : (d.fromList ++ d.outline.assignmentList .mysql r.outline ++ d.ordering).frame =
      (d.fromList ++ d.assignmentList .mysql r ++ d.ordering).frame := by
    simp only [Fragment.frame_append, assignments]
  have conditions := quoted.frame_whereClause others
  have set : (Fragment.clause "SET" (d.outline.assignmentList .mysql r.outline)).frame =
      (Fragment.clause "SET" (d.assignmentList .mysql r)).frame :=
    Fragment.frame_clause_congr assignments
  unfold updateStatement
  rw [Row.isEmpty_outline]
  split
  · rfl
  · apply Fragment.frame_joined_congr
    simp only [List.map_cons, List.map_nil]
    rw [← conditions, ← set]
    rfl

theorem IsWellQuoted.frame_deleteStatement (quoted : d.IsWellQuoted) :
    (d.outline.deleteStatement .mysql).frame = (d.deleteStatement .mysql).frame := by
  have others : (d.fromList ++ d.ordering).frame = (d.fromList ++ d.ordering).frame := rfl
  have conditions := quoted.frame_whereClause others
  apply Fragment.frame_joined_congr
  simp only [List.map_cons, List.map_nil]
  rw [← conditions]
  rfl

/-- An upsert tests whether conditions are left, which the outline answers alike. -/
theorem IsWellQuoted.isEmpty_whereGroups_outline (quoted : d.IsWellQuoted) :
    (d.outline.whereGroups .mysql).isEmpty = (d.whereGroups .mysql).isEmpty := by
  have groups : (d.outline.whereGroups .mysql).map Fragment.frame =
      (d.whereGroups .mysql).map Fragment.frame :=
    Scope.frame_groups_outline d.scope fun g member =>
      quoted.groups g (List.mem_append_left _ member)
  rw [← List.isEmpty_map (f := Fragment.frame), groups, List.isEmpty_map]

theorem IsWellQuoted.frame_upsertStatement (quoted : d.IsWellQuoted) :
    (d.outline.upsertStatement .mysql).frame = (d.upsertStatement .mysql).frame := by
  have firstOutline : (d.outline.rows.head?.getD .empty) = (d.rows.head?.getD .empty).outline := by
    rw [rows_outline]
    cases d.rows <;> rfl
  unfold upsertStatement
  rw [quoted.isEmpty_whereGroups_outline, firstOutline]
  split
  · exact quoted.frame_insertStatement
  · exact quoted.frame_updateStatement quoted.firstRow

/-- A draft and its outline have statements that differ in their strings only. -/
theorem IsWellQuoted.frame_statement_outline (quoted : d.IsWellQuoted) :
    (d.outline.statement .mysql).frame = (d.statement .mysql).frame := by
  have tables : d.outline.tables = d.tables := rfl
  have action : d.outline.action = d.action := rfl
  unfold statement
  rw [tables, action]
  split
  · rfl
  · cases d.action with
    | none => rfl
    | some action =>
      cases action with
      | select => exact quoted.frame_selectStatement
      | insert => exact quoted.frame_insertStatement
      | upsert => exact quoted.frame_upsertStatement
      | update => exact quoted.frame_updateStatement (quoted.rows _ List.mem_cons_self)
      | delete => exact quoted.frame_deleteStatement
      | truncate => rfl

/-- Values are confined to strings: the text of a statement is read to its end, its strings are the
texts of the values it prints, in their order, and whatever those say, the skeleton is the same. -/
theorem transcript?_compile (quoted : d.IsWellQuoted) :
    ∃ skeleton, transcript? (d.compile .mysql).sql = some ⟨skeleton, d.texts⟩ ∧
      ∀ d' : Draft, d'.IsWellQuoted → d'.outline = d.outline →
        transcript? (d'.compile .mysql).sql = some ⟨skeleton, d'.texts⟩ := by
  have compiled {d : Draft} (quoted : d.IsWellQuoted) :=
    quoted.reads_statement.transcript?_fill (Scope.quoteFree_qualifierOf quoted.names)
  refine ⟨_, compiled quoted, ?_⟩
  intro d' quoted' alike
  have outlined := congrArg Draft.scope alike
  have scope : d'.scope = d.scope := outlined
  have frame : (d'.statement .mysql).frame = (d.statement .mysql).frame := by
    rw [← quoted'.frame_statement_outline, alike, quoted.frame_statement_outline]
  have read := compiled quoted'
  rw [frame, scope] at read
  rw [compile, scope]
  exact read

/-- A change of texts that end strings of their own, or do not, in every place that shows a text. -/
def changeOfName (name motto : String) : Draft :=
  { Draft.empty .auto with
    action := some .update
    tables := ["users"]
    assignments := ⟨[("name", .text name), ("seen", .null), ("visits", .natural 3)], by simp⟩
    wheres := [⟨[.isIn "name" [.text motto, .text "", .text name],
      .like "motto" (.text motto),
      .between "name" (.text "a") (.text name)], {}⟩] }

/-- The draft is well quoted, whatever the two texts are, as long as one is no sub-query. -/
theorem isWellQuoted_changeOfName (name motto : String)
    (data : Text.isSubquery motto = false) : (changeOfName name motto).IsWellQuoted where
  tables := by
    have users : QuoteFree "users" := by decide
    simpa [changeOfName] using users
  aliases := by simp [changeOfName, empty]
  columns := by simp [changeOfName, empty]
  joins := by simp [changeOfName, empty]
  equalities := by simp [changeOfName, empty]
  groups := by
    have fields : QuoteFree "name" ∧ QuoteFree "motto" := by decide
    intro g member
    obtain rfl : g = _ := by simpa [changeOfName, empty] using member
    refine ⟨rfl, ?_⟩
    simp [Condition.isIn, Condition.like, Condition.between, Condition.IsWellQuoted, Operand.IsData,
      Operand.values, Value.isExpression, fields, data]
  insertColumns := by simp [changeOfName, empty]
  rows := by
    have columns : QuoteFree "name" ∧ QuoteFree "seen" ∧ QuoteFree "visits" := by decide
    obtain ⟨name, seen, visits⟩ := columns
    intro r member entry inside
    obtain rfl : r = _ := by simpa [changeOfName, empty] using member
    simp only [List.mem_cons, List.not_mem_nil, or_false] at inside
    rcases inside with rfl | rfl | rfl
    · exact ⟨name, rfl⟩
    · exact ⟨seen, rfl⟩
    · exact ⟨visits, rfl⟩

theorem transcript?_compile_changeOfName :
    ∃ skeleton,
      transcript? ((changeOfName "Robert'); --" "\\' OR '1'='1").compile .mysql).sql =
        some ⟨skeleton, ["Robert'); --", "3", "\\' OR '1'='1", "Robert'); --",
          "%\\\\' OR '1'='1%", "a", "Robert'); --"]⟩ ∧
      transcript? ((changeOfName "Eve" "ever").compile .mysql).sql =
        some ⟨skeleton, ["Eve", "3", "ever", "Eve", "%ever%", "a", "Eve"]⟩ := by
  have texts : (changeOfName "Robert'); --" "\\' OR '1'='1").texts = ["Robert'); --", "3",
      "\\' OR '1'='1", "Robert'); --", "%\\\\' OR '1'='1%", "a", "Robert'); --"] := by decide
  have alike : (changeOfName "Eve" "ever").outline =
      (changeOfName "Robert'); --" "\\' OR '1'='1").outline := rfl
  obtain ⟨skeleton, read, others⟩ := transcript?_compile
    (isWellQuoted_changeOfName "Robert'); --" "\\' OR '1'='1" (by decide))
  rw [texts] at read
  refine ⟨skeleton, read, ?_⟩
  exact others _ (isWellQuoted_changeOfName "Eve" "ever" (by decide)) alike

end Draft

end SqlQuery
