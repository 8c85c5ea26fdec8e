import SqlQuery.Proofs.TableEdits

/-!
In which order calls on different parts of a builder come makes no difference.

A call edits some of the parts of a builder (`Call.parts`): a clause of the draft, the escaper, or
the subject, which is all the rest of the draft.  The other parts it leaves as they are, and what it
makes of a part depends on that part alone (`Call.editsOnly_act`).  So a run leaves of a part what
the calls on that part would leave of it without the others (`Session.sameIn_runUnder`).  Runs in
which each part sees the same calls in the same order therefore end alike
(`Session.endsAlike_of_callsOn_eq`), however the calls on different parts are interleaved and
whatever is read in between.
-/

namespace SqlQuery

/-! ## The parts of a builder -/

/-- A part of a builder that calls edit. -/
inductive Part
  | wheres
  | having
  | groupBy
  | orderBy
  | equalities
  | distinct
  | limit
  | offset
  | mode
  | escaper
  /-- The rest of the draft: what is done, to which tables, columns and rows, and the aliases. -/
  | subject
deriving DecidableEq, Repr

namespace Draft

/-- The draft with the clauses of another one. -/
def withClauses (d other : Draft) : Draft :=
  { d with
    mode := other.mode
    distinct := other.distinct
    equalities := other.equalities
    wheres := other.wheres
    groupBy := other.groupBy
    having := other.having
    orderBy := other.orderBy
    limit := other.limit
    offset := other.offset }

/-- The draft without its clauses. -/
def subject (d : Draft) : Draft := d.withClauses (.empty .auto)

/-- The change of a draft neither looks at the clauses nor touches them. -/
def IsOnSubject (f : Draft → Draft) : Prop :=
  ∀ d other, f (d.withClauses other) = (f d).withClauses other

/-- Edits of the subject stay so when they are repeated over a list. -/
theorem IsOnSubject.foldl {α : Type} {f : Draft → α → Draft} (each : ∀ x, IsOnSubject (f · x))
    (xs : List α) (d other : Draft) :
    xs.foldl f (d.withClauses other) = (xs.foldl f d).withClauses other := by
  induction xs generalizing d with
  | nil => rfl
  | cons x xs ih =>
    have first : f (d.withClauses other) x = (f d x).withClauses other := each x d other
    rw [List.foldl_cons, first, ih]
    rfl

theorem declare_withClauses (table : String) (d other : Draft) :
    (d.withClauses other).declare table = (d.declare table).withClauses other := by
  dsimp only [declare]
  split <;> rfl

theorem addRow_withClauses (r : Row) (d other : Draft) :
    (d.withClauses other).addRow r = (d.addRow r).withClauses other := by
  dsimp only [addRow]
  split <;> rfl

end Draft

namespace Builder

/-- The builders agree in a part. -/
def SameIn (b b' : Builder) : Part → Prop
  | .wheres => b'.draft.wheres = b.draft.wheres
  | .having => b'.draft.having = b.draft.having
  | .groupBy => b'.draft.groupBy = b.draft.groupBy
  | .orderBy => b'.draft.orderBy = b.draft.orderBy
  | .equalities => b'.draft.equalities = b.draft.equalities
  | .distinct => b'.draft.distinct = b.draft.distinct
  | .limit => b'.draft.limit = b.draft.limit
  | .offset => b'.draft.offset = b.draft.offset
  | .mode => b'.draft.mode = b.draft.mode
  | .escaper => b'.escaper = b.escaper
  | .subject => b'.draft.subject = b.draft.subject

variable {b b' b'' : Builder} {p : Part}

theorem SameIn.refl (b : Builder) (p : Part) : b.SameIn b p := by cases p <;> rfl

theorem SameIn.symm (same : b.SameIn b' p) : b'.SameIn b p := by cases p <;> exact Eq.symm same

theorem SameIn.trans (first : b.SameIn b' p) (second : b'.SameIn b'' p) : b.SameIn b'' p := by
  cases p <;> exact Eq.trans second first

theorem SameIn.of_eq (draft : b'.draft = b.draft) (escaper : b'.escaper = b.escaper) (p : Part) :
    b.SameIn b' p := by
  cases p <;> simp only [SameIn, draft, escaper]

/-- Builders that agree in every part have the same draft and the same escaper. -/
theorem eq_of_sameIn (same : ∀ p, b.SameIn b' p) :
    b'.draft = b.draft ∧ b'.escaper = b.escaper := by
  have clauses (d : Draft) : d.withClauses b'.draft = d.withClauses b.draft := by
    unfold Draft.withClauses
    rw [show b'.draft.wheres = b.draft.wheres from same .wheres,
      show b'.draft.having = b.draft.having from same .having,
      show b'.draft.groupBy = b.draft.groupBy from same .groupBy,
      show b'.draft.orderBy = b.draft.orderBy from same .orderBy,
      show b'.draft.equalities = b.draft.equalities from same .equalities,
      show b'.draft.distinct = b.draft.distinct from same .distinct,
      show b'.draft.limit = b.draft.limit from same .limit,
      show b'.draft.offset = b.draft.offset from same .offset,
      show b'.draft.mode = b.draft.mode from same .mode]
  refine ⟨?_, same .escaper⟩
  have subject : b'.draft.subject = b.draft.subject := same .subject
  calc
    b'.draft = b'.draft.subject.withClauses b'.draft := rfl
    _ = b.draft.subject.withClauses b.draft := by rw [clauses, subject]
    _ = b.draft := rfl

/-! ## Calls on some parts -/

/-- The call changes no other parts than the given ones, and what it makes of each of these depends
on that part alone. -/
structure EditsOnly (parts : List Part) (call : Builder → Builder) : Prop where
  frame : ∀ b : Builder, ∀ p ∉ parts, b.SameIn (call b) p
  inside : ∀ b b' : Builder, ∀ p ∈ parts, b.SameIn b' p → (call b).SameIn (call b') p

namespace EditsOnly

variable {parts others : List Part} {call next : Builder → Builder}

/-- Builders that agree in a part agree in it after the call. -/
theorem sameIn (edits : EditsOnly parts call) (same : b.SameIn b' p) :
    (call b).SameIn (call b') p := by
  by_cases edited : p ∈ parts
  · exact edits.inside b b' p edited same
  · exact ((edits.frame b p edited).symm.trans same).trans (edits.frame b' p edited)

/-- Two calls in a row edit the parts of both. -/
theorem comp (first : EditsOnly parts call) (second : EditsOnly others next) :
    EditsOnly (parts ++ others) fun b => next (call b) := by
  constructor
  · intro b p out
    rw [List.mem_append, not_or] at out
    exact (first.frame b p out.1).trans (second.frame (call b) p out.2)
  · intro b b' p _ same
    exact second.sameIn (first.sameIn same)

/-- A call that does nothing in some cases edits no more. -/
theorem ite (edits : EditsOnly parts call) (c : Prop) [Decidable c] :
    EditsOnly parts fun b => if c then b else call b := by
  split
  · exact ⟨fun b p _ => .refl b p, fun _ _ _ _ same => same⟩
  · exact edits

/-- A call on one part. -/
theorem of_part (frame : ∀ b : Builder, ∀ q ≠ p, b.SameIn (call b) q)
    (inside : ∀ b b' : Builder, b.SameIn b' p → (call b).SameIn (call b') p) :
    EditsOnly [p] call := by
  constructor
  · exact fun b q out => frame b q fun same => out (List.mem_singleton.2 same)
  · intro b b' q member same
    obtain rfl := List.mem_singleton.1 member
    exact inside b b' same

/-- A call that keeps the draft and the escaper edits nothing. -/
theorem of_keeps (draft : ∀ b, (call b).draft = b.draft)
    (escaper : ∀ b, (call b).escaper = b.escaper) : EditsOnly [] call where
  frame b p _ := .of_eq (draft b) (escaper b) p
  inside _ _ _ member := nomatch member

/-- A call that edits the subject of a draft leaves the other parts of the builder alone. -/
theorem of_isOnSubject {f : Draft → Draft} (onSubject : Draft.IsOnSubject f)
    (draft : ∀ b, (call b).draft = f b.draft) (escaper : ∀ b, (call b).escaper = b.escaper) :
    EditsOnly [.subject] call := by
  apply of_part
  · intro b p other
    obtain ⟨d, kept⟩ : ∃ d : Draft, (call b).draft = d.withClauses b.draft :=
      ⟨f b.draft, by rw [draft, ← onSubject]; rfl⟩
    cases p with
    | subject => exact absurd rfl other
    | escaper => exact escaper b
    | _ =>
      dsimp only [SameIn]
      rw [kept]
      rfl
  · intro b b' same
    change (call b').draft.subject = (call b).draft.subject
    unfold Draft.subject
    rw [draft, draft, ← onSubject, ← onSubject]
    exact congrArg f same

theorem of_subset (edits : EditsOnly parts call) (more : parts ⊆ others) :
    EditsOnly others call where
  frame b p out := edits.frame b p fun edited => out (more edited)
  inside _ _ _ _ same := edits.sameIn same

/-- Editing the draft on its subject edits the subject only. -/
theorem edit {f : Draft → Draft} (onSubject : Draft.IsOnSubject f) :
    EditsOnly [.subject] (·.edit f) :=
  of_isOnSubject onSubject (fun _ => rfl) fun _ => rfl

end EditsOnly

theorem editsOnly_addWhere (conditions : List Condition) (options : GroupOptions) :
    EditsOnly [.wheres] (·.addWhere conditions options) := by
  apply EditsOnly.ite
  refine .of_part (fun b q other => ?_) fun b b' same =>
    congrArg (· ++ [ConditionGroup.mk conditions options]) same
  cases q <;> first | rfl | exact absurd rfl other

theorem editsOnly_addHaving (conditions : List Condition) (options : GroupOptions) :
    EditsOnly [.having] (·.addHaving conditions options) := by
  apply EditsOnly.ite
  refine .of_part (fun b q other => ?_) fun b b' same =>
    congrArg (· ++ [ConditionGroup.mk conditions options]) same
  cases q <;> first | rfl | exact absurd rfl other

theorem editsOnly_insertRows (rows : List Row) : EditsOnly [.subject] (·.insertRows rows) := by
  unfold insertRows
  refine .edit fun d other => ?_
  rw [← Draft.IsOnSubject.foldl Draft.addRow_withClauses]
  dsimp only [Draft.withClauses]

end Builder

/-! ## Calls -/

/-- The parts that an edit edits. -/
def Edit.parts : Edit → List Part
  | .addWhere _ _ => [.wheres]
  | .addHaving _ _ => [.having]
  | .groupBy _ _ => [.groupBy]
  | .orderBy _ _ => [.orderBy]
  | .equate _ => [.equalities]
  | .distinct _ => [.distinct]
  | .limit _ => [.limit]
  | .offset _ => [.offset]
  | .setMode _ => [.mode]
  | .setEscaper _ => [.escaper]
  | .update _ _ | .delete _ _ => [.subject, .wheres]
  | _ => [.subject]

/-- The parts that a reading edits.  Only asking for an alias can register a table. -/
def Reading.parts : Reading → List Part
  | .aliasFor _ => [.subject]
  | _ => []

/-- The parts that a call edits. -/
def Call.parts : Call → List Part
  | .edit e => e.parts
  | .read r => r.parts
  | .save | .restore => []

/-- The call goes on with the builder at hand, and with all of it. -/
def Call.isPlain : Call → Bool
  | .edit .reset | .edit .rebuild | .save | .restore => false
  | _ => true

/-- The builder after a call that goes on with it. -/
def Call.act (mode : AliasMode) (b : Builder) : Call → Builder
  | .edit e => e.apply mode b
  | .read r => (r.run b).1
  | .save | .restore => b

open Builder Draft

/-- An edit that goes on with the builder edits its parts and no others. -/
theorem Edit.editsOnly_apply (mode : AliasMode) {e : Edit} (plain : (Call.edit e).isPlain = true) :
    EditsOnly e.parts (e.apply mode) := by
  cases e with
  | reset => cases plain
  | rebuild => cases plain
  | addWhere options conditions => exact editsOnly_addWhere conditions options
  | addHaving options conditions => exact editsOnly_addHaving conditions options
  -- The other edits of a clause add to what is there, or do not look at it.
  | groupBy _ _ | orderBy _ _ | equate _ =>
    refine .of_part (fun b q other => ?_) fun b b' same => congrArg (· ++ _) same
    cases q <;> first | rfl | exact absurd rfl other
  | distinct _ | limit _ | offset _ | setMode _ | setEscaper _ =>
    refine .of_part (fun b q other => ?_) fun b b' same => rfl
    cases q <;> first | rfl | exact absurd rfl other
  -- The clauses pass through the edits of the subject, whatever these do to it.
  | setColumns _ | addColumns _ | setTableAlias _ _ | setAction _ | setVerb _ =>
    dsimp only [apply, parts, Builder.setColumns, Builder.addColumns, Builder.setTableAlias,
      Builder.setAction, Builder.setVerb]
    refine .edit fun d other => ?_
    dsimp only [withClauses]
  | select _ table | addColumnsOf table _ | join _ table _ _ | joinRaw table _ | truncate table =>
    dsimp only [apply, parts, Builder.select, Builder.addColumnsOf, Builder.join, Builder.joinRaw,
      Builder.truncate]
    refine .edit fun d other => ?_
    rw [declare_withClauses]
    dsimp only [withClauses]
  | declareTables names =>
    dsimp only [apply, parts, Builder.declareTables]
    exact .edit (.foldl declare_withClauses (Text.allItems names))
  | upsert r =>
    dsimp only [apply, parts, Builder.upsert]
    refine .edit fun d other => ?_
    rw [← addRow_withClauses]
    dsimp only [withClauses]
  | insertRows rows =>
    dsimp only [apply, parts]
    exact editsOnly_insertRows rows
  | insertTuples columns tuples =>
    dsimp only [apply, parts, Builder.insertTuples]
    have named : EditsOnly [.subject] (Builder.edit · fun d =>
        { d with insertColumns := columns.foldl addNew d.insertColumns }) := by
      refine .edit fun d other => ?_
      dsimp only [withClauses]
    exact (named.comp (editsOnly_insertRows _)).of_subset (by simp)
  | update r conditions =>
    have assigned : EditsOnly [.subject] (Builder.edit · fun d =>
        { d with action := some .update, assignments := d.assignments.setAll r.entries }) := by
      refine .edit fun d other => ?_
      dsimp only [withClauses]
    exact assigned.comp (editsOnly_addWhere conditions {})
  | delete conditions table =>
    have declared : EditsOnly [.subject] (Builder.edit · fun d =>
        { d.declare table with action := some .delete }) := by
      refine .edit fun d other => ?_
      rw [declare_withClauses]
      dsimp only [withClauses]
    exact declared.comp (editsOnly_addWhere conditions {})

/-- A reading edits no part, but for asking for an alias, which can register a table. -/
theorem Reading.editsOnly_run (r : Reading) : EditsOnly r.parts fun b => (r.run b).1 := by
  cases r with
  | aliasFor table =>
    -- A table that is known is registered without effect, so in any case it is registered.
    refine .of_isOnSubject (f := fun d => { d with aliases := d.aliases.register table })
      (fun d other => ?_) (fun b => ?_) fun b => ?_
    · dsimp only [withClauses]
    · dsimp only [run, Builder.aliasFor]
      cases known : b.draft.aliases.lookup? table with
      | some aliasName =>
        dsimp only
        rw [AliasTable.register_of_lookup? known]
      | none => rfl
    · dsimp only [run, Builder.aliasFor]
      cases b.draft.aliases.lookup? table <;> rfl
  | recompile => exact .of_keeps (fun _ => draft_compile _) fun _ => escaper_compile _
  | referenceCount table => exact .of_keeps draft_compile escaper_compile
  | compile => exact .of_keeps draft_compile escaper_compile
  | sql => exact .of_keeps draft_compile escaper_compile
  | execute executor single => exact .of_keeps draft_compile escaper_compile
  | stored => exact .of_keeps (fun _ => rfl) fun _ => rfl
  | resultShape single => exact .of_keeps (fun _ => rfl) fun _ => rfl
  | draft => exact .of_keeps (fun _ => rfl) fun _ => rfl

/-- Only starting over asks for the mode that new drafts start in. -/
theorem Call.act_eq_of_isPlain {c : Call} (plain : c.isPlain = true) (mode mode' : AliasMode)
    (b : Builder) : c.act mode b = c.act mode' b := by
  cases c with
  | edit e =>
    cases e with
    | reset => cases plain
    | _ => rfl
  | _ => rfl

/-- A call edits its parts and no others, and each of these by itself. -/
theorem Call.editsOnly_act (mode : AliasMode) {c : Call} (plain : c.isPlain = true) :
    EditsOnly c.parts (c.act mode) := by
  cases c with
  | edit e => exact e.editsOnly_apply mode plain
  | read r => exact r.editsOnly_run
  | save => cases plain
  | restore => cases plain

/-! ## Runs -/

namespace Session

/-- The calls that edit the given part, in their order. -/
def callsOn (p : Part) (calls : List (AliasMode × Call)) : List Call :=
  (calls.map Prod.snd).filter fun c => decide (p ∈ c.parts)

theorem current_step (mode : AliasMode) (s : Session) {c : Call} (plain : c.isPlain = true) :
    (s.step mode c).1.current = c.act mode s.current := by
  cases c with
  | edit e => rfl
  | read r => rfl
  | save => cases plain
  | restore => cases plain

/-- What a run leaves of a part is what the calls on that part make of it without the others. -/
theorem sameIn_runUnder {p : Part} {calls : List (AliasMode × Call)}
    (plain : ∀ c ∈ calls, c.2.isPlain = true) {s : Session} {b : Builder}
    (same : s.current.SameIn b p) :
    (s.runUnder calls).current.SameIn ((callsOn p calls).foldl (Call.act .auto) b) p := by
  induction calls generalizing s b with
  | nil => exact same
  | cons call calls ih =>
    obtain ⟨mode, c⟩ := call
    have isPlain : c.isPlain = true := plain _ List.mem_cons_self
    have edits := Call.editsOnly_act mode isPlain
    have now : (s.step mode c).1.current = c.act mode s.current := current_step mode s isPlain
    have rest := fun c member => plain c (List.mem_cons_of_mem _ member)
    by_cases on : p ∈ c.parts
    · have kept : callsOn p ((mode, c) :: calls) = c :: callsOn p calls := by simp [callsOn, on]
      rw [kept]
      apply ih rest
      rw [now, Call.act_eq_of_isPlain isPlain .auto mode b]
      exact edits.sameIn same
    · have dropped : callsOn p ((mode, c) :: calls) = callsOn p calls := by simp [callsOn, on]
      rw [dropped]
      apply ih rest
      rw [now]
      exact (edits.frame s.current p on).symm.trans same

end Session

/-- The builders have the same draft and the same escaper, and the same text and references for
their statement, whatever is stored in them. -/
structure Builder.EndsAlike (b b' : Builder) : Prop where
  draft : b'.draft = b.draft
  escaper : b'.escaper = b.escaper
  sql : b'.compilation.sql = b.compilation.sql
  referenceCount : ∀ table, b'.referenceCount table = b.referenceCount table

namespace Session

/-- The builder at hand after calls on one that starts from a draft. -/
def builderAfter (d : Draft) (escaper : Escaper) (calls : List (AliasMode × Call)) : Builder :=
  (runUnder ⟨{ draft := d, escaper }, []⟩ calls).current

variable {d : Draft} {escaper : Escaper}

/-- Builders that agree in every part end alike, since every reading is determined by the parts. -/
theorem endsAlike_of_sameIn {calls calls' : List (AliasMode × Call)}
    (same : ∀ p, (builderAfter d escaper calls).SameIn (builderAfter d escaper calls') p) :
    (builderAfter d escaper calls).EndsAlike (builderAfter d escaper calls') := by
  obtain ⟨draft, sameEscaper⟩ := Builder.eq_of_sameIn same
  have coherent := isCoherent_of_mem_builders d escaper calls _ List.mem_cons_self
  have coherent' := isCoherent_of_mem_builders d escaper calls' _ List.mem_cons_self
  have compilation : (builderAfter d escaper calls').compilation =
      (builderAfter d escaper calls).compilation := by
    have anew := coherent.compilation_eq
    have anew' := coherent'.compilation_eq
    change (builderAfter d escaper calls).compilation = _ at anew
    change (builderAfter d escaper calls').compilation = _ at anew'
    rw [anew, anew']
    change (builderAfter d escaper calls').draft.compile (builderAfter d escaper calls').escaper = _
    rw [draft, sameEscaper]
    rfl
  refine ⟨draft, sameEscaper, by rw [compilation], fun table => ?_⟩
  unfold Builder.referenceCount
  rw [compilation]

/-- Plain calls leave the same, however those on different parts are interleaved. -/
theorem endsAlike_of_callsOn {calls calls' : List (AliasMode × Call)}
    (plain : ∀ c ∈ calls ++ calls', c.2.isPlain = true)
    (same : ∀ p, callsOn p calls' = callsOn p calls) :
    (builderAfter d escaper calls).EndsAlike (builderAfter d escaper calls') := by
  obtain ⟨isPlain, isPlain'⟩ := List.forall_mem_append.1 plain
  apply endsAlike_of_sameIn
  intro p
  have start : Builder.SameIn { draft := d, escaper } { draft := d, escaper } p := .refl _ p
  have left := sameIn_runUnder isPlain (s := ⟨{ draft := d, escaper }, []⟩) start
  have right := sameIn_runUnder isPlain' (s := ⟨{ draft := d, escaper }, []⟩) start
  rw [same p] at right
  exact left.trans right.symm

theorem callsOn_append (p : Part) (xs ys : List (AliasMode × Call)) :
    callsOn p (xs ++ ys) = callsOn p xs ++ callsOn p ys := by
  simp [callsOn]

/-- Where no part is edited by both of two neighbouring calls, each part sees them in one order. -/
theorem callsOn_swap (p : Part) {x y : AliasMode × Call}
    (apart : ∀ p ∈ x.2.parts, p ∉ y.2.parts)
    (before after : List (AliasMode × Call)) :
    callsOn p (before ++ y :: x :: after) = callsOn p (before ++ x :: y :: after) := by
  rw [callsOn_append, callsOn_append]
  by_cases first : p ∈ x.2.parts
  · have second : p ∉ y.2.parts := apart p first
    simp [callsOn, first, second]
  · simp [callsOn, List.filter_cons, first]

/-- Calls on a builder that starts from a draft leave the same draft, escaper, text and references
if each part of it sees the same calls in the same order, starting over and coming back to saved
states apart.  So two neighbouring calls that edit no part in common can change places, and
readings can stand anywhere. -/
theorem endsAlike_of_callsOn_eq (d : Draft) (escaper : Escaper) :
    (∀ xs ys, (∀ c ∈ xs ++ ys, c.2.isPlain = true) → (∀ p, callsOn p ys = callsOn p xs) →
      (builderAfter d escaper xs).EndsAlike (builderAfter d escaper ys)) ∧
    (∀ before x y after, (∀ c ∈ before ++ x :: y :: after, c.2.isPlain = true) →
      (∀ p ∈ x.2.parts, p ∉ y.2.parts) →
      (builderAfter d escaper (before ++ x :: y :: after)).EndsAlike
        (builderAfter d escaper (before ++ y :: x :: after))) ∧
    ∀ before mode (r : Reading) after, (∀ c ∈ before ++ after, c.2.isPlain = true) →
      (∀ table, r ≠ .aliasFor table) →
      (builderAfter d escaper (before ++ after)).EndsAlike
        (builderAfter d escaper (before ++ (mode, .read r) :: after)) := by
  refine ⟨fun xs ys plain same => endsAlike_of_callsOn plain same, ?_, ?_⟩
  · intro before x y after plain apart
    refine endsAlike_of_callsOn ?_ fun p => callsOn_swap p apart before after
    simp only [List.forall_mem_append, List.forall_mem_cons] at plain ⊢
    obtain ⟨isPlain, left, right, rest⟩ := plain
    exact ⟨⟨isPlain, left, right, rest⟩, isPlain, right, left, rest⟩
  · intro before mode r after plain reads
    have inert : r.parts = [] := by
      cases r with
      | aliasFor table => exact absurd rfl (reads table)
      | _ => rfl
    refine endsAlike_of_callsOn ?_ fun p => ?_
    · simp only [List.forall_mem_append, List.forall_mem_cons] at plain ⊢
      exact ⟨plain, plain.1, rfl, plain.2⟩
    · rw [callsOn_append, callsOn_append]
      simp [callsOn, Call.parts, inert]

/-- Calls that choose what is selected before its clauses. -/
def clausesLast : List (AliasMode × Call) :=
  [(.auto, .edit (.select ["id"] "users")),
    (.auto, .edit (.join .inner "users" "posts" [("id", "user_id")])),
    (.auto, .edit (.addWhere {} [.equal "posts.views" (.natural 1)])),
    (.auto, .edit (.orderBy (some "posts") ["id"])), (.auto, .edit (.setMode .always)),
    (.auto, .edit (.limit 5))]

/-- The same calls with the clauses before what is selected, and with readings in between. -/
def clausesFirst : List (AliasMode × Call) :=
  [(.always, .edit (.limit 5)), (.auto, .read .compile),
    (.auto, .edit (.orderBy (some "posts") ["id"])), (.auto, .edit (.setMode .always)),
    (.auto, .edit (.addWhere {} [.equal "posts.views" (.natural 1)])),
    (.auto, .edit (.select ["id"] "users")), (.auto, .read (.referenceCount "users")),
    (.auto, .edit (.join .inner "users" "posts" [("id", "user_id")]))]

theorem endsAlike_clausesFirst :
    (builderAfter (.empty .auto) .mysql clausesLast).EndsAlike
        (builderAfter (.empty .auto) .mysql clausesFirst) ∧
      (builderAfter (.empty .auto) .mysql (clausesLast ++
          (.auto, .edit (.offset 2)) :: (.auto, .edit (.delete [] "users")) :: [])).EndsAlike
        (builderAfter (.empty .auto) .mysql (clausesLast ++
          (.auto, .edit (.delete [] "users")) :: (.auto, .edit (.offset 2)) :: [])) ∧
      (builderAfter (.empty .auto) .mysql (clausesFirst ++ [])).EndsAlike
        (builderAfter (.empty .auto) .mysql (clausesFirst ++ (.auto, .read .sql) :: [])) := by
  obtain ⟨interleaved, swapped, read⟩ := endsAlike_of_callsOn_eq (.empty .auto) .mysql
  refine ⟨interleaved _ _ (by decide) fun p => ?_, swapped _ _ _ _ (by decide) (by decide),
    read _ _ _ _ (by decide) nofun⟩
  cases p <;> rfl

end Session

end SqlQuery
