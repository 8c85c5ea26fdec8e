import SqlQuery.Proofs.LegibleFragments
import SqlQuery.Proofs.ReferenceCounts
import SqlQuery.Proofs.SlotRange

/-!
Writing a statement in one pass gives what compiling gives.

The pass goes from one scope to the next, and each of these has the counts of the slots that were
written up to there (`Scope.after`).  `Rendering.Yields` says of one step that it gives a value and
adds the slots of a fragment to those, and `Rendering.Writes` of a step for a text that the text is
that of the fragment, wherever the step is taken.  Steps for the parts of a statement are put
together like the fragments of the parts.

The equalities are the one part that reads what is counted.  A count is positive if and only if the
slot is in what was written (`Scope.references_after_pos_iff`), so the pass may ask for counts where
compiling asks for slots.  `Draft.render_eq_compile` is the agreement of the two.
-/

namespace SqlQuery

/-! ## Scopes in the course of the pass -/

/-- Counting one more reference. -/
theorem AliasTable.reference_withReferences (t : AliasTable) (count : Nat → Nat) (i : Nat) :
    (t.withReferences count).reference i =
      t.withReferences fun table => count table + if i = table then 1 else 0 := by
  unfold reference withReferences
  congr 1
  apply List.ext_getElem?
  intro table
  rw [List.getElem?_modify, List.getElem?_mapIdx, List.getElem?_mapIdx]
  cases t.entries[table]? with
  | none => rfl
  | some entry => by_cases here : i = table <;> simp [here]

namespace Scope

/-- The scope in which the slots of the given fragment are counted. -/
def after (s : Scope) (written : Fragment) : Scope :=
  { s with aliases := s.aliases.withReferences written.references }

variable (s : Scope) (written : Fragment)

@[simp] theorem resolve?_after (text : String) :
    (s.after written).resolve? text = s.resolve? text :=
  s.aliases.resolve?_withReferences _ text

@[simp] theorem resolves_after (text : String) :
    (s.after written).resolves text = s.resolves text := by
  unfold resolves
  rw [resolve?_after]

@[simp] theorem qualify?_after (text : String) :
    (s.after written).qualify? text = s.qualify? text := by
  unfold qualify?
  rw [resolve?_after]
  rfl

@[simp] theorem qualifierOf_after : (s.after written).qualifierOf = s.qualifierOf := by
  funext table
  change (((s.aliases.withReferences _).entries[table]?).map _).getD "" = _
  rw [AliasTable.getElem?_entries_withReferences, Option.map_map]
  rfl

/-- How a table is introduced does not depend on what is counted. -/
@[simp] theorem introduction_after (text : String) :
    (s.after written).introduction text = s.introduction text := by
  have active : (s.after written).active = s.active := rfl
  apply introduction_congr active (resolve?_after s written text)
  intro i _
  unfold after
  rw [AliasTable.getElem?_entries_withReferences, Option.map_map]
  rfl

variable {s written}

theorem after_congr {f g : Fragment} (same : ∀ table, f.references table = g.references table) :
    s.after f = s.after g := by
  unfold after
  rw [show f.references = g.references from funext same]

/-- Counting the slot of a table is writing it. -/
theorem reference_after (i : Nat) :
    { s.after written with aliases := (s.after written).aliases.reference i } =
      s.after (written ++ [.qualifier i]) := by
  have counts : (fun table => written.references table + if i = table then 1 else 0) =
      Fragment.references (written ++ [.qualifier i]) := by
    funext table
    simp
  unfold after
  rw [← counts, ← AliasTable.reference_withReferences]

/-- A table was referred to if and only if its slot was written. -/
theorem references_after_pos_iff {table : String} :
    0 < (s.after written).references table ↔ s.mentions written table = true := by
  rw [mentions_eq_true_iff]
  unfold references
  rw [resolve?_after]
  cases resolved : s.resolve? table with
  | none => simp
  | some i =>
    obtain ⟨entry, found⟩ := AliasTable.exists_getElem?_of_resolve? resolved
    simp [after, AliasTable.getElem?_entries_withReferences, found]

end Scope

/-! ## Steps of the pass -/

namespace Rendering

variable {α β : Type} {s : Scope} {written f g : Fragment}

/-- Behind what is written, the step gives the value and counts the slots of the fragment. -/
def Yields (s : Scope) (written : Fragment) (m : Rendering α) (a : α) (f : Fragment) : Prop :=
  m.run (s.after written) = (a, s.after (written ++ f))

theorem yields_pure (a : α) : Yields s written (pure a) a [] := by
  unfold Yields
  rw [List.append_nil]
  rfl

/-- Two steps add their fragments one behind the other. -/
theorem Yields.bind {m : Rendering α} {k : α → Rendering β} {a : α} {b : β}
    (first : Yields s written m a f) (second : Yields s (written ++ f) (k a) b g) :
    Yields s written (m >>= k) b (f ++ g) := by
  unfold Yields at first second ⊢
  rw [StateT.run_bind, first, ← List.append_assoc]
  exact second

/-- What is done with the value of a step without a look at the scope adds nothing. -/
theorem Yields.map {m : Rendering α} {a : α} (yields : Yields s written m a f) (k : α → β) :
    Yields s written (m >>= fun x => pure (k x)) (k a) f := by
  have all : Yields s written (m >>= fun x => pure (k x)) (k a) (f ++ []) :=
    yields.bind (yields_pure (k a))
  rwa [List.append_nil] at all

/-- What counts of the fragment is how often it refers to each table. -/
theorem Yields.congr {m : Rendering α} {a b : α} (yields : Yields s written m a f) (value : a = b)
    (counts : ∀ table, f.references table = g.references table) : Yields s written m b g := by
  have scopes : s.after (written ++ f) = s.after (written ++ g) := by
    apply Scope.after_congr
    intro table
    rw [Fragment.references_append, Fragment.references_append, counts]
  unfold Yields at yields ⊢
  rw [yields, value, scopes]

/-- Reading the scope, which differs from the one at the start in its counts only. -/
theorem Yields.get {k : Scope → Rendering β} {b : β}
    (yields : Yields s written (k (s.after written)) b f) : Yields s written (get >>= k) b f :=
  yields

/-- One step for each element of a list, in order. -/
theorem Yields.mapM {γ : Type} {m : γ → Rendering α} {value : γ → α} {part : γ → Fragment}
    {xs : List γ} (each : ∀ x ∈ xs, ∀ written, Yields s written (m x) (value x) (part x))
    (written : Fragment) :
    Yields s written (xs.mapM m) (xs.map value) (xs.map part).flatten := by
  induction xs generalizing written with
  | nil => exact yields_pure []
  | cons x xs ih =>
    have rest := ih fun y member => each y (List.mem_cons_of_mem x member)
    rw [List.mapM_cons]
    exact (each x List.mem_cons_self written).bind ((rest _).map (value x :: ·))

/-- The step writes the fragment: it gives its text and counts its slots, wherever it is taken. -/
structure Writes (s : Scope) (m : Rendering String) (f : Fragment) : Prop where
  legible : f.Legible
  yields : ∀ written, Yields s written m (f.fill s.qualifierOf) f

theorem Writes.shows {m : Rendering String} (writes : Writes s m f) :
    f.Shows s.qualifierOf (f.fill s.qualifierOf) :=
  ⟨writes.legible, rfl⟩

theorem writes_text (text : String) : Writes s (pure text) [.text text] where
  legible := Fragment.legible_text text
  yields written := (yields_pure text).congr (by simp [Piece.fill]) fun table => by simp

/-- A fragment that refers to no table is written without a trace. -/
theorem yields_part (unreferenced : ∀ table, f.references table = 0) :
    Yields s written (part f) (f.fill s.qualifierOf) f := by
  have value : Yields s written (part f) (f.fill (s.after written).qualifierOf) [] :=
    Yields.get (yields_pure _)
  rw [Scope.qualifierOf_after] at value
  exact value.congr rfl fun table => (unreferenced table).symm

/-- The step writes the fragments: it gives their texts and counts their slots, wherever it is
taken. -/
structure WritesAll (s : Scope) (m : Rendering (List String)) (fs : List Fragment) : Prop where
  legible : ∀ f ∈ fs, f.Legible
  yields : ∀ written, Yields s written m (fs.map (Fragment.fill s.qualifierOf)) fs.flatten

theorem writesAll_nil : WritesAll s (pure []) [] :=
  ⟨List.forall_mem_nil _, fun _ => yields_pure []⟩

/-- Steps that write a fragment each, one for each element of a list. -/
theorem writesAll_mapM {m : α → Rendering String} {part : α → Fragment} {xs : List α}
    (each : ∀ x ∈ xs, Writes s (m x) (part x)) : WritesAll s (xs.mapM m) (xs.map part) where
  legible := List.forall_mem_map.2 fun x member => (each x member).legible
  yields written := by
    rw [List.map_map]
    exact Yields.mapM (fun x member => (each x member).yields) written

section Lists

variable {m n : Rendering (List String)} {fs gs : List Fragment}

theorem Writes.appendText {m : Rendering String} (writes : Writes s m f) (text : String) :
    Writes s (m >>= fun before => pure (before ++ text)) (f ++ [.text text]) where
  legible := writes.legible.append (Fragment.legible_text text)
  yields written :=
    ((writes.yields written).map _).congr (by simp [Piece.fill]) fun table => by simp

theorem Writes.singleton {m : Rendering String} (writes : Writes s m f) :
    WritesAll s (m >>= fun text => pure [text]) [f] where
  legible := List.forall_mem_singleton.2 writes.legible
  yields written := ((writes.yields written).map fun text => [text]).congr rfl fun table => by simp

/-- Two lists of texts are those of two lists of fragments. -/
theorem WritesAll.append (first : WritesAll s m fs) (second : WritesAll s n gs) :
    WritesAll s (m >>= fun texts => n >>= fun others => pure (texts ++ others)) (fs ++ gs) where
  legible := List.forall_mem_append.2 ⟨first.legible, second.legible⟩
  yields written := by
    rw [List.map_append, List.flatten_append]
    exact (first.yields written).bind ((second.yields _).map _)

theorem WritesAll.separated (writes : WritesAll s m fs) (separator : String) :
    Writes s (m >>= fun texts => pure (separator.intercalate texts))
      (Fragment.separated separator fs) where
  legible := Fragment.legible_separated writes.legible
  yields written := by
    rw [Fragment.fill_separated]
    exact ((writes.yields written).map _).congr rfl fun table =>
      (Fragment.references_separated separator fs table).symm

/-- Texts are put together like their fragments, the empty and the blank ones left out. -/
theorem WritesAll.joined (writes : WritesAll s m fs) (separator : String) :
    Writes s (m >>= fun texts => pure (Text.joined separator texts))
      (Fragment.joined separator fs) where
  legible := Fragment.legible_joined writes.legible
  yields written := by
    rw [Fragment.fill_joined_of_legible _ _ writes.legible]
    exact ((writes.yields written).map _).congr rfl fun table =>
      (Fragment.references_joined separator fs table).symm

end Lists

/-! ## Columns -/

/-- The qualifier of a table is its slot, where its columns are qualified. -/
theorem yields_qualifier? (written : Fragment) (table : String) :
    Yields s written (qualifier? table) ((s.qualify? table).map s.qualifierOf)
      ((s.qualify? table).toList.map Piece.qualifier) := by
  unfold qualifier?
  apply Yields.get
  rw [Scope.qualify?_after, Scope.qualifierOf_after]
  cases s.qualify? table with
  | none => exact yields_pure none
  | some i =>
    exact congrArg (some (s.qualifierOf i), ·) (Scope.reference_after i)

theorem yields_qualifierOf? (written : Fragment) (table : Option String) :
    Yields s written (qualifierOf? table) ((table.bind s.qualify?).map s.qualifierOf)
      ((table.bind s.qualify?).toList.map Piece.qualifier) := by
  cases table with
  | none => exact yields_pure none
  | some table => exact yields_qualifier? written table

/-- A name behind the qualifier that a step gives, or another text where it gives none. -/
theorem Yields.qualified {m : Rendering (Option String)} {place : Option Nat}
    (yields : Yields s written m (place.map s.qualifierOf) (place.toList.map Piece.qualifier))
    (name other : String) :
    Yields s written (m >>= fun q => pure (q.elim other (· ++ "." ++ name)))
      (Fragment.fill s.qualifierOf
        (place.elim [.text other] fun i => Scope.qualified (some i) name))
      (place.elim [.text other] fun i => Scope.qualified (some i) name) := by
  apply (yields.map _).congr
  · cases place <;> simp [Scope.qualified, Piece.fill, String.append_assoc]
  · intro table
    cases place <;> simp [Scope.qualified]

/-- A key is written as compiling does it, behind the slot of its own table or of its context. -/
theorem writes_key (context : Option String) (field : String) :
    Writes s (key context field) (s.key context field) where
  legible := Scope.legible_key context field
  yields written := by
    unfold key Scope.key
    cases Text.splitQualified? field with
    | some parts =>
      have qualified := (yields_qualifier? (s := s) written parts.1).qualified parts.2 field
      cases h : s.qualify? parts.1 <;> simpa [h] using qualified
    | none =>
      have qualified := (yields_qualifierOf? (s := s) written context).qualified field field
      cases h : context.bind s.qualify? <;> simpa [h, Scope.qualified] using qualified

/-- A star and a verbatim expression ask for no qualifier, and count nothing. -/
theorem writes_column (c : Column) : Writes s (column c) (s.column c) := by
  by_cases unqualified : (c.isStar || c.isVerbatim) = true
  · have step : column c = pure (c.render none) := by
      unfold column
      rw [if_pos unqualified]
    rw [step, Scope.column_eq_text unqualified]
    exact writes_text _
  · have step : column c = qualifierOf? c.table >>= fun q => pure (c.render q) := by
      unfold column
      rw [if_neg unqualified]
    obtain ⟨legible, counts⟩ := Scope.column_of_qualified (s := s) unqualified
    refine ⟨legible, fun written => ?_⟩
    rw [step, Scope.fill_column]
    exact ((yields_qualifierOf? written c.table).map _).congr rfl fun table => (counts table).symm

theorem writes_columns (cs : List Column) : Writes s (columns cs) (s.columns cs) :=
  (writesAll_mapM fun c _ => writes_column c).joined ", "

/-! ## Tables -/

theorem writes_introduction (table : String) :
    Writes s (introduction table) (s.introduction table) where
  legible := Scope.legible_introduction table
  yields written := by
    apply Yields.get
    rw [Scope.introduction_after]
    exact yields_part (s.references_introduction table)

theorem writes_equation (left leftColumn right rightColumn : String) :
    Writes s (equation left leftColumn right rightColumn)
      (s.equation left leftColumn right rightColumn) where
  legible := Scope.legible_equation left leftColumn right rightColumn
  yields written := by
    have first := (writes_key (s := s) (some left) leftColumn).yields written
    have second := (writes_key (s := s) (some right) rightColumn).yields
      (written ++ s.key (some left) leftColumn)
    refine Yields.congr (first.bind (second.map _)) ?_ ?_
    · simp [Scope.equation, Piece.fill, String.append_assoc]
    · simp [Scope.equation]

/-- A join writes the table it brings in and then its pairs, from left to right. -/
theorem writes_join (j : Join) : Writes s (join j) (s.join j) := by
  cases j with
  | raw left sql => exact writes_text (Text.trim sql)
  | structured kind left right on =>
    refine ⟨Scope.legible_join _, fun written => ?_⟩
    have table := (writes_introduction (s := s) right).yields written
    have pairs := (writesAll_mapM fun pair (_ : pair ∈ on) =>
      writes_equation (s := s) left pair.1 right pair.2).yields (written ++ s.introduction right)
    refine Yields.congr (table.bind (pairs.map _)) ?_ ?_
    · unfold Scope.join
      dsimp only
      rw [List.isEmpty_map]
      cases on with
      | nil => simp [Piece.fill]
      | cons pair on =>
        simp [Piece.fill, Fragment.fill_separated, Function.comp_def, String.append_assoc]
    · intro table
      unfold Scope.join
      dsimp only
      cases on with
      | nil => simp
      | cons pair on => simp [Fragment.references_separated]

/-- The joins of an item are written in the order in which they are placed. -/
theorem writes_fromItem (item : FromItem) : Writes s (fromItem item) (s.fromItem item) := by
  have head : WritesAll s (item.head.toList.mapM introduction)
      (item.head.toList.map s.introduction) :=
    writesAll_mapM fun table _ => writes_introduction table
  have joins : WritesAll s (item.joins.mapM join) (item.joins.map s.join) :=
    writesAll_mapM fun j _ => writes_join j
  have step := (head.append joins).separated " "
  have parts : (item.head.map s.introduction).toList = item.head.toList.map s.introduction := by
    cases item.head <;> rfl
  unfold fromItem Scope.fromItem
  rw [parts]
  simpa only [bind_assoc, pure_bind] using step

theorem writes_fromList (tables : List String) (joins : List Join) :
    Writes s (fromList tables joins) (s.fromList tables joins) :=
  (writesAll_mapM fun item _ => writes_fromItem item).joined ", "

/-! ## Conditions -/

variable (s) (escaper : Escaper)

mutual

/-- What is left of a condition are the predicates of its leaves.  Whether a leaf is dropped is
decided before its key asks for a qualifier, so a dropped one counts nothing. -/
theorem writesAll_condition (context : Option String) (quoted : Bool) :
    ∀ c : Condition,
      WritesAll s (condition escaper context quoted c)
        ((c.leaves s.resolves context quoted).filterMap (s.predicate? escaper))
  | .raw sql => by
    unfold condition Condition.leaves
    by_cases blank : (Text.trimChars sql.toList).isEmpty = true
    · simpa [Scope.predicate?, blank] using writesAll_nil
    · simpa [Scope.predicate?, blank] using (writes_text sql).singleton
  | .compare field comparison operand => by
    unfold condition Condition.leaves
    by_cases unnamed : field.isEmpty = true
    · simpa [Scope.predicate?, unnamed] using writesAll_nil
    · cases written : operand.predicate? escaper quoted comparison with
      | none => simpa [Scope.predicate?, unnamed, written] using writesAll_nil
      | some text =>
        have key := ((writes_key (s := s) context field).appendText (" " ++ text)).singleton
        simpa [Scope.predicate?, unnamed, written] using key
  | .table name conditions => by
    unfold condition Condition.leaves
    by_cases known : s.resolves name = true
    · have within := writesAll_conditionsOf (some name) false conditions
      rw [if_pos known]
      refine ⟨within.legible, fun written => Yields.get ?_⟩
      rw [Scope.resolves_after, if_pos known]
      exact within.yields written
    · have within := writesAll_conditionsOf none quoted conditions
      rw [if_neg known]
      refine ⟨within.legible, fun written => Yields.get ?_⟩
      rw [Scope.resolves_after, if_neg known]
      exact within.yields written

/-- What is left of several conditions, by induction on the list inside the induction on the
nesting. -/
theorem writesAll_conditionsOf (context : Option String) (quoted : Bool) :
    ∀ cs : List Condition,
      WritesAll s (conditionsOf escaper context quoted cs)
        ((Condition.leavesOfAll s.resolves context quoted cs).filterMap (s.predicate? escaper))
  | [] => by
    unfold conditionsOf
    exact writesAll_nil
  | c :: cs => by
    unfold conditionsOf Condition.leavesOfAll
    rw [List.filterMap_append]
    exact (writesAll_condition context quoted c).append (writesAll_conditionsOf context quoted cs)

end

/-- A group that nothing is left of gives no text, and has counted nothing. -/
theorem yields_group? (written : Fragment) (g : ConditionGroup) :
    Yields s written (group? escaper g)
      ((s.group? escaper g).map (Fragment.fill s.qualifierOf)) ((s.group? escaper g).getD []) := by
  have left : WritesAll s (conditionsOf escaper g.options.table (!g.options.unquoted) g.conditions)
      (s.predicates escaper g) := writesAll_conditionsOf s escaper _ _ g.conditions
  refine ((left.yields written).map _).congr ?_ ?_
  · unfold Scope.group?
    cases s.predicates escaper g with
    | nil => rfl
    | cons f fs => simp [Piece.fill, Fragment.fill_separated, String.append_assoc]
  · intro table
    unfold Scope.group?
    cases s.predicates escaper g with
    | nil => rfl
    | cons f fs => simp [Fragment.references_separated]

/-- The groups that are left are those that compiling keeps. -/
theorem writesAll_groups (gs : List ConditionGroup) :
    WritesAll s (groups escaper gs) (s.groups escaper gs) where
  legible f member := by
    obtain ⟨g, -, left⟩ := List.mem_filterMap.1 member
    exact Scope.legible_group? left
  yields written := by
    have each := Yields.mapM (fun g (_ : g ∈ gs) written => yields_group? s escaper written g)
      written
    rw [Scope.flatten_groups]
    refine (each.map _).congr ?_ fun table => rfl
    simp [Scope.groups, List.filterMap_map, List.map_filterMap]

/-- What is counted is what was written, so the equalities that are left are those between tables
that it mentions. -/
theorem yields_equalities {mentioned : Fragment}
    (same : ∀ table, written.references table = mentioned.references table) (es : List Equality) :
    Yields s written (equalities es)
      ((s.equalities mentioned es).map (Fragment.fill s.qualifierOf))
      (s.equalities mentioned es).flatten := by
  have live : (es.filter fun e => 0 < (s.after written).references e.left &&
      0 < (s.after written).references e.right) =
      es.filter fun e => s.mentions mentioned e.left && s.mentions mentioned e.right := by
    have mentions : s.mentions written = s.mentions mentioned := by
      funext table
      rw [Bool.eq_iff_iff, Scope.mentions_eq_true_iff, Scope.mentions_eq_true_iff]
      simp only [same]
    apply List.filter_congr
    intro e _
    rw [Bool.eq_iff_iff]
    simp only [Bool.and_eq_true, decide_eq_true_eq, Scope.references_after_pos_iff, mentions]
  unfold equalities Scope.equalities
  apply Yields.get
  rw [← live]
  exact (writesAll_mapM fun e _ =>
    writes_equation e.left e.leftColumn e.right e.rightColumn).yields written

/-! ## Statements -/

variable {d : Draft}

/-- The clause has the texts of the groups first, and then those of the equalities. -/
theorem shows_whereClause (others : Fragment) :
    (d.whereClause escaper others).Shows d.scope.qualifierOf
      (Text.clause "WHERE" (Text.joined " AND "
        ((d.whereGroups escaper).map (Fragment.fill d.scope.qualifierOf) ++
          (d.scope.equalities (others ++ (d.whereGroups escaper).flatten) d.equalities).map
            (Fragment.fill d.scope.qualifierOf)))) := by
  have groups : ∀ f ∈ d.whereGroups escaper, f.Legible :=
    (writesAll_groups d.scope escaper d.wheres).legible
  have equations : ∀ f ∈ d.scope.equalities (others ++ (d.whereGroups escaper).flatten)
      d.equalities, f.Legible :=
    List.forall_mem_map.2 fun e _ =>
      Scope.legible_equation e.left e.leftColumn e.right e.rightColumn
  have predicates := List.forall_mem_append.2 ⟨groups, equations⟩
  rw [← List.map_append]
  exact Fragment.Shows.clause ⟨Fragment.legible_joined predicates,
    Fragment.fill_joined_of_legible _ _ predicates⟩ "WHERE"

theorem shows_countClause (keyword : String) (n : Option UInt64) (qualifierOf : Nat → String) :
    (Draft.countClause keyword n).Shows qualifierOf (countClause keyword n) := by
  cases n with
  | none => exact Fragment.shows_nil
  | some n => exact (Fragment.shows_text n.toNat.repr).clause keyword

variable (d)

theorem writes_selectList : Writes d.scope (selectList d) d.selectList := by
  unfold selectList Draft.selectList
  split
  case isTrue => exact writes_text "*"
  case isFalse => exact writes_columns d.columns

theorem writes_tables : Writes d.scope (fromList d.tables d.joins) d.fromList :=
  writes_fromList d.tables d.joins

theorem writes_ordering : Writes d.scope (columns d.orderBy) d.ordering := writes_columns d.orderBy

theorem writesAll_whereGroups :
    WritesAll d.scope (groups escaper d.wheres) (d.whereGroups escaper) :=
  writesAll_groups d.scope escaper d.wheres

/-- A selection.  Its clauses are written in an order of their own, but all of them before the
equalities, so these find everything counted that brings them in. -/
theorem yields_select :
    Yields d.scope [] (select d escaper)
      ((d.selectStatement escaper).fill d.scope.qualifierOf) (d.selectStatement escaper) := by
  have selected := writes_selectList d
  have tables := writes_tables d
  have wheres := writesAll_whereGroups escaper d
  have grouping : Writes d.scope (columns d.groupBy) d.grouping := writes_columns d.groupBy
  have having := writesAll_groups d.scope escaper d.having
  have ordering := writes_ordering d
  -- The groups on the rows are written before those that compiling takes them after.
  have mentioned (table : Nat) :
      Fragment.references ([] ++ d.selectList ++ d.fromList ++ (d.whereGroups escaper).flatten ++
        d.grouping ++ (d.scope.groups escaper d.having).flatten ++ d.ordering) table =
      Fragment.references (d.selectList ++ d.fromList ++ d.grouping ++
        d.havingPredicates escaper ++ d.ordering ++ (d.whereGroups escaper).flatten) table := by
    simp only [Draft.havingPredicates, Fragment.references_append, Fragment.references_nil,
      Fragment.references_joined]
    omega
  have equations := yields_equalities d.scope mentioned d.equalities
  refine Yields.congr ((selected.yields _).bind ((tables.yields _).bind ((wheres.yields _).bind
    ((grouping.yields _).bind ((having.yields _).bind ((ordering.yields _).bind
      (equations.map _))))))) ?_ ?_
  · have distinct : Fragment.Shows d.scope.qualifierOf _ _ :=
      (Fragment.shows_text "DISTINCT").ite (d.distinct = true)
    have conditions := shows_whereClause escaper (d := d) (d.selectList ++ d.fromList ++
      d.grouping ++ d.havingPredicates escaper ++ d.ordering)
    have havings : (d.havingPredicates escaper).Shows d.scope.qualifierOf _ :=
      ⟨Fragment.legible_joined having.legible, Fragment.fill_joined_of_legible _ _ having.legible⟩
    have offset : Fragment.Shows d.scope.qualifierOf _ _ :=
      (shows_countClause "OFFSET" d.offset _).ite (d.limit.isSome = true)
    have statement := Fragment.Shows.joined
      (.cons (Fragment.shows_text "SELECT") <| .cons distinct <| .cons selected.shows <|
        .cons (tables.shows.clause "FROM") <| .cons conditions <|
        .cons (grouping.shows.clause "GROUP BY") <| .cons (havings.clause "HAVING") <|
        .cons (ordering.shows.clause "ORDER BY") <|
        .cons (shows_countClause "LIMIT" d.limit _) <| .cons offset .nil) " "
    exact statement.fill.symm
  · intro table
    rw [Draft.references_selectStatement, Draft.references_whereClause]
    simp only [Draft.havingPredicates, Fragment.references_append, Fragment.references_joined]
    omega

/-- A change of rows, where the keys of the assignments count as well. -/
theorem yields_update (r : Row) :
    Yields d.scope [] (update d escaper r)
      ((d.updateStatement escaper r).fill d.scope.qualifierOf) (d.updateStatement escaper r) := by
  unfold update
  by_cases empty : r.isEmpty = true
  · unfold Draft.updateStatement
    rw [if_pos empty, if_pos empty]
    exact yields_pure ""
  · have tables := writes_tables d
    have assignments : WritesAll d.scope
        (r.entries.mapM fun entry => do
          return (← key d.primary? entry.1) ++ ("=" ++ entry.2.assigned escaper))
        (r.entries.map (d.assignment escaper)) :=
      writesAll_mapM fun entry _ => (writes_key d.primary? entry.1).appendText _
    have wheres := writesAll_whereGroups escaper d
    have ordering := writes_ordering d
    have mentioned (table : Nat) :
        Fragment.references ([] ++ d.fromList ++ (r.entries.map (d.assignment escaper)).flatten ++
          (d.whereGroups escaper).flatten ++ d.ordering) table =
        Fragment.references (d.fromList ++ d.assignmentList escaper r ++ d.ordering ++
          (d.whereGroups escaper).flatten) table := by
      simp only [Draft.assignmentList, Fragment.references_append, Fragment.references_nil,
        Fragment.references_separated]
      omega
    have equations := yields_equalities d.scope mentioned d.equalities
    rw [if_neg empty]
    refine Yields.congr ((tables.yields _).bind ((assignments.yields _).bind
      ((wheres.yields _).bind ((ordering.yields _).bind (equations.map _))))) ?_ ?_
    · have list : (d.assignmentList escaper r).Shows d.scope.qualifierOf _ :=
        ⟨Fragment.legible_separated assignments.legible, Fragment.fill_separated _ _ _⟩
      have conditions := shows_whereClause escaper (d := d)
        (d.fromList ++ d.assignmentList escaper r ++ d.ordering)
      have statement := Fragment.Shows.joined
        (.cons (tables.shows.clause "UPDATE") <| .cons (list.clause "SET") <|
          .cons conditions <| .cons (ordering.shows.clause "ORDER BY") <|
          .cons (shows_countClause "LIMIT" d.limit _) .nil) " "
      unfold Draft.updateStatement
      rw [if_neg empty]
      exact statement.fill.symm
    · intro table
      rw [Draft.references_updateStatement empty, Draft.references_whereClause]
      simp only [Draft.assignmentList, Fragment.references_append, Fragment.references_separated]
      omega

/-- A deletion. -/
theorem yields_delete :
    Yields d.scope [] (delete d escaper)
      ((d.deleteStatement escaper).fill d.scope.qualifierOf) (d.deleteStatement escaper) := by
  have tables := writes_tables d
  have wheres := writesAll_whereGroups escaper d
  have ordering := writes_ordering d
  have mentioned (table : Nat) :
      Fragment.references ([] ++ d.fromList ++ (d.whereGroups escaper).flatten ++ d.ordering)
        table =
      Fragment.references (d.fromList ++ d.ordering ++ (d.whereGroups escaper).flatten) table := by
    simp only [Fragment.references_append, Fragment.references_nil]
    omega
  have equations := yields_equalities d.scope mentioned d.equalities
  refine Yields.congr ((tables.yields _).bind ((wheres.yields _).bind ((ordering.yields _).bind
    (equations.map _)))) ?_ ?_
  · have conditions := shows_whereClause escaper (d := d) (d.fromList ++ d.ordering)
    have statement := Fragment.Shows.joined
      (.cons (tables.shows.clause "DELETE FROM") <| .cons conditions <|
        .cons (ordering.shows.clause "ORDER BY") <|
        .cons (shows_countClause "LIMIT" d.limit _) .nil) " "
    exact statement.fill.symm
  · intro table
    rw [Draft.references_deleteStatement, Draft.references_whereClause]
    simp only [Fragment.references_append]
    omega

theorem yields_insert :
    Yields d.scope [] (part (d.insertStatement escaper))
      ((d.insertStatement escaper).fill d.scope.qualifierOf) (d.insertStatement escaper) := by
  apply yields_part
  intro table
  rw [Draft.names_insertStatement table, Scope.places_nil]

/-- The conditions are tried in the scope at the start, and only whether any is left is kept of
that. -/
theorem yields_upsert :
    Yields d.scope [] (upsert d escaper)
      ((d.upsertStatement escaper).fill d.scope.qualifierOf) (d.upsertStatement escaper) := by
  have tried := (writesAll_whereGroups escaper d).yields []
  unfold upsert Draft.upsertStatement
  apply Yields.get
  unfold Yields at tried
  rw [tried]
  dsimp only
  rw [List.isEmpty_map]
  split
  case isTrue => exact yields_insert escaper d
  case isFalse =>
    cases d.rows.head? with
    | none =>
      -- Compiling takes the row without values, for which it has no statement either.
      exact yields_pure ""
    | some r => exact yields_update escaper d r

/-- Whatever the action is, the pass writes the statement of the draft and counts its slots. -/
theorem yields_statement :
    Yields d.scope [] (statement d escaper)
      ((d.statement escaper).fill d.scope.qualifierOf) (d.statement escaper) := by
  unfold statement Draft.statement
  split
  case isTrue => exact yields_pure ""
  case isFalse =>
    cases d.action with
    | none => exact yields_pure ""
    | some action =>
      cases action with
      | select => exact yields_select escaper d
      | insert => exact yields_insert escaper d
      | upsert => exact yields_upsert escaper d
      | update => exact yields_update escaper d d.assignments
      | delete => exact yields_delete escaper d
      | truncate =>
        apply yields_part
        intro table
        rw [Draft.names_truncateStatement table, Scope.places_nil]

end Rendering

/-- Writing a statement in one pass that counts as it goes gives the text and the counts of
compiling. -/
theorem Draft.render_eq_compile (d : Draft) (escaper : Escaper) :
    d.render escaper = d.compile escaper := by
  have written := Rendering.yields_statement escaper d
  have start : { d.scope with aliases := d.aliases.clearReferences } = d.scope.after [] := rfl
  unfold Rendering.Yields at written
  unfold render
  rw [start, written]
  rfl

end SqlQuery
