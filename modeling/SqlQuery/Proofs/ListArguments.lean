import SqlQuery.Proofs.ListPieces
import SqlQuery.Proofs.WrittenColumn

/-!
Calls that take lists of tables or columns.

Such a call makes of a draft what the items of its lists say, whatever lists they come from
(`ListCall.apply_edit`).  So it may be given one list for several, and what a call adds may be added
in two calls (`ListCall.change_append`).  A table is declared and a column is listed once: a call
that adds neither to an ordering nor to a grouping makes no difference when it is repeated
(`ListCall.change_change`), and a select list has the first column of each resolved name
(`Column.addAllTo_nil`).
-/

namespace SqlQuery

/-! ## Columns listed once -/

namespace Column

/-- The columns that have a resolved name which no column before them has. -/
def firstOfNames (cs : List Column) : List Column :=
  (cs.zipIdx.filter fun (c, place) => c.resolvedName ∉ (cs.take place).map resolvedName).map
    Prod.fst

theorem firstOfNames_append_singleton (cs : List Column) (c : Column) :
    firstOfNames (cs ++ [c]) =
      if c.resolvedName ∈ cs.map resolvedName then firstOfNames cs else firstOfNames cs ++ [c] := by
  have earlier : cs.zipIdx.filter
      (fun (c', place) => c'.resolvedName ∉ ((cs ++ [c]).take place).map resolvedName) =
        cs.zipIdx.filter fun (c', place) => c'.resolvedName ∉ (cs.take place).map resolvedName := by
    refine List.filter_congr fun (c', place) member => ?_
    have inside : place ≤ cs.length := (List.snd_lt_of_mem_zipIdx member).le
    dsimp only
    rw [List.take_append_of_le_length inside]
  unfold firstOfNames
  rw [List.zipIdx_append, List.filter_append, earlier]
  by_cases listed : c.resolvedName ∈ cs.map resolvedName
  · simp [listed]
  · simp [listed]

theorem mem_resolvedNames_addTo {columns : List Column} {c : Column} {name : String} :
    name ∈ (addTo columns c).map resolvedName ↔
      name ∈ columns.map resolvedName ∨ name = c.resolvedName := by
  rw [addTo_eq]
  split
  case isTrue listed =>
    refine (or_iff_left_of_imp ?_).symm
    rintro rfl
    exact listed
  case isFalse => simp

theorem mem_resolvedNames_addAllTo {columns added : List Column} {name : String} :
    name ∈ (addAllTo columns added).map resolvedName ↔
      name ∈ columns.map resolvedName ∨ name ∈ added.map resolvedName := by
  induction added generalizing columns with
  | nil => simp [addAllTo]
  | cons c added ih =>
    change name ∈ (addAllTo (addTo columns c) added).map resolvedName ↔ _
    rw [ih, mem_resolvedNames_addTo, List.map_cons, List.mem_cons, or_assoc]

/-- Columns that are listed are not added. -/
theorem addAllTo_of_listed {columns added : List Column}
    (listed : ∀ c ∈ added, c.resolvedName ∈ columns.map resolvedName) :
    addAllTo columns added = columns := by
  induction added with
  | nil => rfl
  | cons c added ih =>
    rw [List.forall_mem_cons] at listed
    change addAllTo (addTo columns c) added = columns
    rw [addTo_eq, if_pos listed.1, ih listed.2]

theorem addAllTo_addAllTo (columns added : List Column) :
    addAllTo (addAllTo columns added) added = addAllTo columns added :=
  addAllTo_of_listed fun _ member =>
    mem_resolvedNames_addAllTo.2 (.inr (List.mem_map_of_mem member))

/-- A list of columns that starts anew has the first column of each resolved name, in order. -/
theorem addAllTo_nil (added : List Column) : addAllTo [] added = firstOfNames added := by
  induction added using List.reverseRecOn with
  | nil => rfl
  | append_singleton added c ih =>
    have names : c.resolvedName ∈ (addAllTo [] added).map resolvedName ↔
        c.resolvedName ∈ added.map resolvedName := by
      rw [mem_resolvedNames_addAllTo]
      simp
    rw [addAllTo_append, firstOfNames_append_singleton, ← ih]
    change addTo (addAllTo [] added) c = _
    simp only [addTo_eq, names]

end Column

/-! ## Tables declared once -/

namespace Draft

/-- The draft declares the table and knows it, or the table has a blank name. -/
def Declares (d : Draft) (table : String) : Prop :=
  Text.trim table = "" ∨
    Text.trim table ∈ d.tables ∧ Text.trim table ∈ d.aliases.entries.map AliasEntry.name

theorem Declares.congr {d d' : Draft} {table : String} (declares : d.Declares table)
    (same : d.SameTables d') : d'.Declares table := by
  unfold Declares
  rw [same.tables, same.aliases]
  exact declares

theorem declare_of_declares {d : Draft} {table : String} (declares : d.Declares table) :
    d.declare table = d := by
  rcases d.declare_eq table with ⟨same, -⟩ | ⟨named, declared⟩
  · exact same
  · obtain ⟨listed, known⟩ := declares.resolve_left named
    have registered : d.aliases.register (Text.trim table) = d.aliases := by
      rcases d.aliases.register_cases (Text.trim table) with ⟨-, same⟩ | ⟨unknown, -⟩
      · exact same
      · obtain ⟨e, member, isName⟩ := List.mem_map.1 known
        exact absurd isName (unknown e member)
    rw [declared, registered, addNew_of_mem listed]

/-- A table that is declared is declared again without effect, whatever is selected. -/
theorem Declares.declare_with {d : Draft} {table : String} (declares : d.Declares table)
    (action : Option Action) (columns : List Column) :
    declare { d with action, columns } table = { d with action, columns } :=
  declare_of_declares (declares.congr ⟨rfl, rfl, rfl⟩)

theorem declares_declare (d : Draft) (table : String) : (d.declare table).Declares table := by
  rcases d.declare_eq table with ⟨-, blank⟩ | ⟨-, declared⟩
  · exact .inl blank
  · rw [declared]
    exact .inr ⟨mem_addNew.2 (.inr rfl), d.aliases.mem_names_register _⟩

/-- A table stays declared when another one is. -/
theorem Declares.declare {d : Draft} {table : String} (declares : d.Declares table)
    (other : String) : (d.declare other).Declares table := by
  rcases d.declare_eq other with ⟨same, -⟩ | ⟨-, declared⟩
  · rwa [same]
  · rw [declared]
    refine declares.imp_right fun ⟨listed, known⟩ => ⟨mem_addNew.2 (.inl listed), ?_⟩
    rw [AliasTable.names_register]
    exact List.mem_append_left _ known

theorem Declares.foldl_declare {d : Draft} {table : String} (declares : d.Declares table)
    (names : List String) : (names.foldl Draft.declare d).Declares table := by
  induction names generalizing d with
  | nil => exact declares
  | cons name names ih =>
    rw [List.foldl_cons]
    exact ih (declares.declare name)

theorem declares_foldl_declare {names : List String} {table : String} (member : table ∈ names)
    (d : Draft) : (names.foldl declare d).Declares table := by
  induction names generalizing d with
  | nil => cases member
  | cons name names ih =>
    rw [List.foldl_cons]
    rcases List.mem_cons.1 member with rfl | later
    · exact (d.declares_declare table).foldl_declare names
    · exact ih later (d.declare name)

theorem foldl_declare_of_declares {d : Draft} {names : List String}
    (declares : ∀ table ∈ names, d.Declares table) : names.foldl declare d = d := by
  induction names with
  | nil => rfl
  | cons name names ih =>
    rw [List.forall_mem_cons] at declares
    rw [List.foldl_cons, declare_of_declares declares.1, ih declares.2]

end Draft

/-! ## The calls -/

/-- A call that takes lists. -/
inductive ListCall
  | declareTables
  | setColumns
  | addColumns
  | addColumnsOf (table : String)
  | select (table : String)
  | groupBy (table : Option String)
  | orderBy (table : Option String)

namespace ListCall

/-- The call with the given lists. -/
def edit (lists : List String) : ListCall → Edit
  | declareTables => .declareTables lists
  | setColumns => .setColumns lists
  | addColumns => .addColumns lists
  | addColumnsOf table => .addColumnsOf table lists
  | select table => .select lists table
  | groupBy table => .groupBy table lists
  | orderBy table => .orderBy table lists

/-- The call adds to what the draft has, and replaces nothing. -/
def Adds : ListCall → Prop
  | setColumns | select _ => False
  | _ => True

/-- The call takes nothing that the draft has a second time. -/
def AddsOnce : ListCall → Prop
  | groupBy _ | orderBy _ => False
  | _ => True

/-- The columns that items stand for, of the given table where they name none. -/
def columnsOf (table : Option String) (items : List String) : List Column :=
  items.map fun spec => (Column.parse spec).within table

/-- What the call makes of a draft, from the items of its lists. -/
def change (items : List String) (d : Draft) : ListCall → Draft
  | declareTables => items.foldl Draft.declare d
  | setColumns => { d with columns := Column.addAllTo [] (columnsOf none items) }
  | addColumns => { d with columns := Column.addAllTo d.columns (columnsOf none items) }
  | addColumnsOf table =>
    { d.declare table with columns := Column.addAllTo d.columns (columnsOf (some table) items) }
  | select table =>
    { d.declare table with
      action := some .select
      columns := Column.addAllTo [] (columnsOf (some table) items) }
  | groupBy table => { d with groupBy := d.groupBy ++ columnsOf table items }
  | orderBy table => { d with orderBy := d.orderBy ++ columnsOf table items }

/-- The lists have a say in the call through their items alone. -/
theorem apply_edit (mode : AliasMode) (b : Builder) (call : ListCall) (lists : List String) :
    (call.edit lists).apply mode b = b.edit fun d => call.change (Text.allItems lists) d := by
  cases call <;> rfl

/-- A table that a call brings in is declared from then on. -/
theorem declare_change_addColumnsOf (table : String) (items : List String) (d : Draft) :
    (change items d (addColumnsOf table)).declare table = change items d (addColumnsOf table) :=
  (d.declares_declare table).declare_with _ _

theorem declare_change_select (table : String) (items : List String) (d : Draft) :
    (change items d (select table)).declare table = change items d (select table) :=
  (d.declares_declare table).declare_with _ _

/-- What a call adds can be added in two calls. -/
theorem change_append {call : ListCall} (adds : call.Adds) (xs ys : List String) (d : Draft) :
    call.change (xs ++ ys) d = call.change ys (call.change xs d) := by
  cases call with
  | setColumns | select table => exact adds.elim
  | declareTables => exact List.foldl_append
  | addColumns => simp [change, columnsOf, Column.addAllTo_append]
  | addColumnsOf table =>
    conv_rhs => rw [change, declare_change_addColumnsOf]
    simp [change, columnsOf, Column.addAllTo_append]
  | groupBy table | orderBy table => simp [change, columnsOf]

/-- A repeated call changes nothing if it takes nothing a second time. -/
theorem change_change {call : ListCall} (once : call.AddsOnce) (items : List String) (d : Draft) :
    call.change items (call.change items d) = call.change items d := by
  cases call with
  | groupBy table | orderBy table => exact once.elim
  | declareTables =>
    exact Draft.foldl_declare_of_declares fun table member => Draft.declares_foldl_declare member d
  | setColumns => rfl
  | addColumns => simp [change, Column.addAllTo_addAllTo]
  | addColumnsOf table =>
    conv_lhs => rw [change, declare_change_addColumnsOf]
    simp [change, Column.addAllTo_addAllTo]
  | select table =>
    conv_lhs => rw [change, declare_change_select]
    simp [change]

/-- A call that takes lists can be given one list that joins them by commas, if each but the last
closes what it opens.  Where it only adds, several lists can be given in two calls.  Where it takes
nothing a second time, to repeat it changes nothing.  And a select list that a call replaces has the
first column of each resolved name, of those that the items of the lists are read as. -/
theorem apply_lists (mode : AliasMode) (b : Builder) (call : ListCall) :
    (∀ lists : List String, (∀ list ∈ lists.dropLast, Text.openBehind 0 list.toList = 0) →
      (call.edit [",".intercalate lists]).apply mode b = (call.edit lists).apply mode b) ∧
    (call.Adds → ∀ xs ys,
      (call.edit (xs ++ ys)).apply mode b =
        (call.edit ys).apply mode ((call.edit xs).apply mode b)) ∧
    (call.AddsOnce → ∀ lists,
      (call.edit lists).apply mode ((call.edit lists).apply mode b) =
        (call.edit lists).apply mode b) ∧
    ∀ lists, ((Edit.setColumns lists).apply mode b).draft.columns =
      Column.firstOfNames ((Text.allItems lists).map Column.parse) := by
  simp only [apply_edit]
  refine ⟨?_, ?_, ?_, ?_⟩
  · intro lists closed
    rw [Text.allItems_singleton_intercalate closed]
  · intro adds xs ys
    rw [Text.allItems_append]
    exact congrArg b.edit (funext fun d => change_append adds _ _ d)
  · intro once lists
    exact congrArg b.edit (funext fun d => change_change once _ d)
  · intro lists
    have read : columnsOf none (Text.allItems lists) = (Text.allItems lists).map Column.parse := by
      refine List.map_congr_left fun spec _ => ?_
      simp [Column.within]
    rw [← read, ← Column.addAllTo_nil]
    rfl

/-- The first list closes more than it opens, and the last one does not close what it opens. -/
theorem apply_lists_addColumnsOf :
    let lists := ["MAX(a, b)) AS m", "id", "f(x, y"]
    let call := addColumnsOf " posts "
    let b : Builder := { draft := .empty .auto }
    (∀ list ∈ lists.dropLast, Text.openBehind 0 list.toList = 0) ∧ call.Adds ∧ call.AddsOnce ∧
      (call.edit ["MAX(a, b)) AS m,id,f(x, y"]).apply .auto b = (call.edit lists).apply .auto b ∧
      (call.edit (lists ++ lists)).apply .auto b = (call.edit lists).apply .auto b := by
  intro lists call b
  have closed : ∀ list ∈ lists.dropLast, Text.openBehind 0 list.toList = 0 := by decide
  have adds : call.Adds := trivial
  have once : call.AddsOnce := trivial
  obtain ⟨oneList, twoCalls, again, -⟩ := apply_lists .auto b call
  have whole : ",".intercalate lists = "MAX(a, b)) AS m,id,f(x, y" := by decide
  refine ⟨closed, adds, once, ?_, ?_⟩
  · rw [← whole]
    exact oneList lists closed
  · rw [twoCalls adds, again once]

end ListCall

end SqlQuery
