import SqlQuery.Proofs.TableEdits

/-!
When a table keeps its alias.

`AliasTable.Change.Respects` says what a call may do to one entry of an alias table, and
`AliasTable.Change.exists_respects_apply` that every call on a sound table does no more.  An alias
is changed by choosing only: for the table itself, or for another one where the alias was automatic.
The calls of a session other than those that choose an alias or start over do not even do that; they
only add entries (`Session.entries_prefix_runUnder`).
-/

namespace SqlQuery

namespace AliasTable

/-- What a call on an alias table may do to the entry at a place of it. -/
structure Change.Respects (c : Change) (t : AliasTable) (i : Nat) (e after : AliasEntry) :
    Prop where
  name : after.name = e.name
  /-- An alias that was chosen stays a chosen one. -/
  explicit : e.explicit = true → after.explicit = true
  /-- The alias changes only when one is chosen for the table that no other has by choice, or when
  its own is chosen for another table and was automatic. -/
  changed : after.aliasName ≠ e.aliasName →
    (∃ a, c = .setAlias e.name a ∧ ¬t.IsChosenByOther e.name a) ∨
      ∃ other, other ≠ e.name ∧ c = .setAlias other e.aliasName ∧ e.explicit = false
  chosen : ∀ a, c = .setAlias e.name a → ¬t.IsChosenByOther e.name a →
    after.aliasName = a ∧ after.explicit = true
  /-- A table that loses its automatic alias moves to the next number that is free by then. -/
  displaced : ∀ other, other ≠ e.name → c = .setAlias other e.aliasName → e.explicit = false →
    after.explicit = false ∧
      ∃ n, IsLeast {n | t.nextNumber ≤ n ∧ ¬t.IsInUseOnce other e.aliasName (numbered n)} n ∧
        after.aliasName = numbered n
  /-- Choosing an alias that another table has by choice leaves all entries as they are. -/
  refused : ∀ other a, c = .setAlias other a → t.IsChosenByOther other a → after = e
  /-- A chosen alias is changed by choosing another one for the same table only. -/
  kept : e.explicit = true → (∀ a, c ≠ .setAlias e.name a) → after.aliasName = e.aliasName
  references : after.references ≠ e.references → c = .reference i ∨ c = .clearReferences

/-- Registering a name leaves the entries there are in place. -/
theorem entries_prefix_register (t : AliasTable) (name : String) :
    t.entries <+: (t.register name).entries := by
  rcases t.register_cases name with ⟨-, same⟩ | ⟨-, entries, -⟩
  · rewrite [same]
    exact List.prefix_refl _
  · rw [entries]
    exact List.prefix_append _ _

/-- A table that only grew finds the same aliases. -/
theorem lookup?_of_prefix {t after : AliasTable} (more : t.entries <+: after.entries)
    {name aliasName : String} (known : t.lookup? name = some aliasName) :
    after.lookup? name = some aliasName := by
  rcases more with ⟨added, entries⟩
  rcases Option.map_eq_some_iff.1 known with ⟨e, found, rfl⟩
  rw [lookup?, ← entries, List.find?_append, found]
  rfl

namespace Change

variable {t : AliasTable} {i : Nat} {e : AliasEntry}

/-- A call that chooses no alias respects an entry if it changes nothing but its count, and that
only if it is to count. -/
theorem respects_of_count {c : Change} (unchosen : ∀ name aliasName, c ≠ .setAlias name aliasName)
    (count : Nat) (counts : count ≠ e.references → c = .reference i ∨ c = .clearReferences) :
    c.Respects t i e { e with references := count } where
  name := rfl
  explicit := id
  changed differs := absurd rfl differs
  chosen a choice := absurd choice (unchosen _ a)
  displaced _ _ choice := absurd choice (unchosen _ _)
  refused _ _ choice := absurd choice (unchosen _ _)
  kept _ _ := rfl
  references := counts

theorem getElem?_register (found : t.entries[i]? = some e) (name : String) :
    (t.register name).entries[i]? = some e := by
  rcases t.entries_prefix_register name with ⟨added, entries⟩
  rw [← entries, List.getElem?_append_left (List.getElem?_eq_some_iff.1 found).1, found]

/-- A choice that is refused leaves every entry as it is. -/
theorem respects_refused (sound : t.IsSound) (found : t.entries[i]? = some e)
    {name aliasName : String} (chosen : t.IsChosenByOther name aliasName) :
    (setAlias name aliasName).Respects t i e e where
  name := rfl
  explicit := id
  changed differs := absurd rfl differs
  chosen a choice free := by
    cases choice
    exact absurd chosen free
  displaced other different choice automatic := by
    cases choice
    rcases chosen with ⟨holder, listed, holds, -, explicit⟩
    rw [sound.eq_of_aliasName listed (List.mem_of_getElem? found) holds, automatic] at explicit
    cases explicit
  refused _ _ _ _ := rfl
  kept _ _ := rfl
  references differs := absurd rfl differs

/-- The number that a displaced table moves to is the next that is free by then. -/
theorem isLeast_freeNumber_assign (sound : t.IsSound) (name aliasName : String) :
    IsLeast {n | t.nextNumber ≤ n ∧ ¬t.IsInUseOnce name aliasName (numbered n)}
      (t.assign name aliasName).freeNumber := by
  have least := (t.assign name aliasName).isLeast_freeNumber
  simpa only [nextNumber_assign, ← Bool.not_eq_true, sound.isTaken_assign] using least

/-- A choice that is granted changes the entry of its name, and at most one that had the alias by
number. -/
theorem respects_relabel (sound : t.IsSound) {name aliasName : String}
    (free : ¬t.IsChosenByOther name aliasName) (listed : e ∈ t.entries) :
    (setAlias name aliasName).Respects t i e (t.relabel name aliasName e) := by
  have refused {after : AliasEntry} : ∀ other a, setAlias name aliasName = setAlias other a →
      t.IsChosenByOther other a → after = e := by
    rintro other a choice chosen
    cases choice
    exact absurd chosen free
  rcases t.relabel_cases name aliasName e with
    ⟨rfl, after⟩ | ⟨other, rfl, after⟩ | ⟨other, unheld, after⟩ <;> rw [after]
  · refine ⟨rfl, fun _ => rfl, fun _ => .inl ⟨aliasName, rfl, free⟩, ?_, ?_, refused, ?_,
      fun differs => absurd rfl differs⟩
    · intro a choice _
      cases choice
      exact ⟨rfl, rfl⟩
    · intro other different choice
      cases choice
      exact absurd rfl different
    · intro _ unchosen
      exact absurd rfl (unchosen aliasName)
  · have automatic : e.explicit = false := by
      rw [← Bool.not_eq_true]
      exact fun explicit => free ⟨e, listed, rfl, other, explicit⟩
    refine ⟨rfl, id, fun _ => .inr ⟨name, other.symm, rfl, automatic⟩, ?_, ?_, refused, ?_,
      fun differs => absurd rfl differs⟩
    · intro a choice
      cases choice
      exact absurd rfl other
    · intro _ _ choice _
      cases choice
      exact ⟨automatic, _, isLeast_freeNumber_assign sound name e.aliasName, rfl⟩
    · intro explicit
      rw [automatic] at explicit
      cases explicit
  · refine ⟨rfl, id, fun differs => absurd rfl differs, ?_, ?_, refused, fun _ _ => rfl,
      fun differs => absurd rfl differs⟩
    · intro a choice
      cases choice
      exact absurd rfl other
    · intro _ _ choice
      cases choice
      exact absurd rfl unheld

/-- A call on a sound table leaves each entry in its place, and respects it. -/
theorem exists_respects_apply (sound : t.IsSound) (found : t.entries[i]? = some e) (c : Change) :
    ∃ after, (c.apply t).entries[i]? = some after ∧ c.Respects t i e after := by
  have untouched {c : Change} (unchosen : ∀ name aliasName, c ≠ .setAlias name aliasName) :
      c.Respects t i e e :=
    respects_of_count unchosen e.references fun differs => absurd rfl differs
  cases c with
  | register name => exact ⟨e, getElem?_register found name, untouched (by simp)⟩
  | aliasFor name => exact ⟨e, getElem?_register found name, untouched (by simp)⟩
  | setAlias name aliasName =>
    by_cases chosen : t.IsChosenByOther name aliasName
    · refine ⟨e, ?_, respects_refused sound found chosen⟩
      rw [apply, setAlias_of_isChosenByOther sound chosen]
      exact getElem?_register found name
    · refine ⟨_, ?_, respects_relabel sound chosen (List.mem_of_getElem? found)⟩
      have inside : i < t.entries.length := (List.getElem?_eq_some_iff.1 found).1
      rw [apply, (setAlias_of_not_isChosenByOther sound chosen).1,
        List.getElem?_append_left (by simpa using inside), List.getElem?_map, found]
      rfl
  | reference table =>
    by_cases here : table = i
    · refine ⟨_, ?_, respects_of_count (by simp) (e.references + 1) fun _ => .inl (by rw [here])⟩
      simp [apply, AliasTable.reference, found, here]
    · refine ⟨e, ?_, untouched (by simp)⟩
      simp [apply, AliasTable.reference, found, here]
  | clearReferences =>
    refine ⟨_, ?_, respects_of_count (by simp) 0 fun _ => .inr rfl⟩
    simp [apply, AliasTable.clearReferences, withReferences, found]

end Change

end AliasTable

/-! ## Sessions -/

namespace Draft

theorem entries_prefix_declare (d : Draft) (table : String) :
    d.aliases.entries <+: (d.declare table).aliases.entries := by
  rcases d.declare_eq table with ⟨same, -⟩ | ⟨-, declared⟩
  · rewrite [same]
    exact List.prefix_refl _
  · rw [declared]
    exact AliasTable.entries_prefix_register _ _

/-- A step that neither chooses an alias nor clears the draft only adds entries. -/
theorem TableStep.entries_prefix_apply {step : TableStep}
    (unchosen : ∀ table aliasName, step ≠ .setAlias table aliasName)
    (uncleared : ∀ mode, step ≠ .clear mode) (d : Draft) :
    d.aliases.entries <+: (step.apply d).aliases.entries := by
  cases step with
  | declare table => simpa only [apply] using d.entries_prefix_declare table
  | register table => exact AliasTable.entries_prefix_register _ _
  | join j =>
    have declared := d.entries_prefix_declare j.left
    cases brought : j.right? with
    | none => simpa [apply, brought] using declared
    | some right =>
      have registered := AliasTable.entries_prefix_register (d.declare j.left).aliases right
      simpa [apply, brought] using declared.trans registered
  | setAlias table aliasName => exact absurd rfl (unchosen table aliasName)
  | clear mode => exact absurd rfl (uncleared mode)

/-- Steps that neither choose an alias nor clear the tables only add entries. -/
theorem entries_prefix_takeSteps {steps : List TableStep}
    (keep : ∀ step ∈ steps, (∀ table aliasName, step ≠ .setAlias table aliasName) ∧
      ∀ mode, step ≠ .clear mode) (d : Draft) :
    d.aliases.entries <+: (d.takeSteps steps).aliases.entries := by
  induction steps generalizing d with
  | nil => exact List.prefix_refl _
  | cons step steps ih =>
    rcases keep step List.mem_cons_self with ⟨unchosen, uncleared⟩
    have first := TableStep.entries_prefix_apply unchosen uncleared d
    exact first.trans (ih (fun later member => keep later (List.mem_cons_of_mem _ member)) _)

end Draft

/-- All edits but choosing an alias and resetting only add entries. -/
theorem Edit.entries_prefix_apply (mode : AliasMode) (b : Builder) {e : Edit}
    (unchosen : ∀ table aliasName, e ≠ .setTableAlias table aliasName) (uncleared : e ≠ .reset) :
    b.draft.aliases.entries <+: (e.apply mode b).draft.aliases.entries := by
  rw [(e.sameTables_apply mode b).aliases]
  apply Draft.entries_prefix_takeSteps
  cases e with
  | setTableAlias table aliasName => exact absurd rfl (unchosen table aliasName)
  | reset => exact absurd rfl uncleared
  | _ => simp [tableSteps]

/-- A reading may register a table, which adds an entry at the end. -/
theorem Reading.entries_prefix_run (b : Builder) (r : Reading) :
    b.draft.aliases.entries <+: (r.run b).1.draft.aliases.entries := by
  rw [(r.sameTables_run b).aliases]
  apply Draft.entries_prefix_takeSteps
  cases r <;> simp [tableSteps]

/-- The calls of a run that neither chooses an alias nor starts over nor goes back only add entries
to the alias table. -/
theorem Session.entries_prefix_runUnder {s : Session} {calls : List (AliasMode × Call)}
    (keep : ∀ call ∈ calls, (∀ table aliasName, call.2 ≠ .edit (.setTableAlias table aliasName)) ∧
      call.2 ≠ .edit .reset ∧ call.2 ≠ .restore) :
    s.current.draft.aliases.entries <+: (s.runUnder calls).current.draft.aliases.entries := by
  induction calls generalizing s with
  | nil => exact List.prefix_refl _
  | cons call calls ih =>
    refine List.IsPrefix.trans ?_ (ih ?later)
    case later => exact fun later member => keep later (List.mem_cons_of_mem _ member)
    rcases call with ⟨mode, call⟩
    rcases keep _ List.mem_cons_self with ⟨unchosen, uncleared, ahead⟩
    cases call with
    | edit e =>
      exact e.entries_prefix_apply mode s.current
        (fun table aliasName same => unchosen table aliasName (by rw [same]))
        fun same => uncleared (by rw [same])
    | read r => exact r.entries_prefix_run s.current
    | save => exact List.prefix_refl _
    | restore => exact absurd rfl ahead

/-- Whatever calls an alias table has had, the next one leaves the tables in their order and places
and respects each entry.  Whatever calls a session has had, those that follow leave the alias of a
known table alone as long as none of them chooses an alias, starts over or goes back. -/
theorem aliases_stable :
    (∀ (changes : List AliasTable.Change) (c : AliasTable.Change),
      (AliasTable.run changes).entries.map AliasEntry.name <+:
          (c.apply (AliasTable.run changes)).entries.map AliasEntry.name ∧
        ∀ i e, (AliasTable.run changes).entries[i]? = some e →
          ∃ after, (c.apply (AliasTable.run changes)).entries[i]? = some after ∧
            c.Respects (AliasTable.run changes) i e after) ∧
      ∀ (s : Session) (calls : List (AliasMode × Call)),
        (∀ call ∈ calls, (∀ table aliasName, call.2 ≠ .edit (.setTableAlias table aliasName)) ∧
          call.2 ≠ .edit .reset ∧ call.2 ≠ .restore) →
        ∀ table aliasName, s.current.draft.aliases.lookup? table = some aliasName →
          (s.runUnder calls).current.draft.aliases.lookup? table = some aliasName := by
  refine ⟨?_, ?_⟩
  · intro changes c
    have sound := AliasTable.isSound_run changes
    refine ⟨?_, fun i e found => AliasTable.Change.exists_respects_apply sound found c⟩
    rw [sound.names_apply c]
    exact List.prefix_append _ _
  · intro s calls keep table aliasName known
    exact AliasTable.lookup?_of_prefix (Session.entries_prefix_runUnder keep) known

/-- Two tables with automatic aliases, the second of which is the alias of a third one by choice
afterwards. -/
def AliasTable.displacing : List AliasTable.Change :=
  [.register "users", .aliasFor "posts", .setAlias "tags" "T3"]

/-- A session that knows one table, by an alias that was chosen for it. -/
def Session.renamed : Session :=
  runUnder ⟨.empty .auto, []⟩ [(.auto, .edit (.setTableAlias "users" "T1"))]

theorem aliases_stable_displacing :
    let t := AliasTable.run AliasTable.displacing
    let calls : List (AliasMode × Call) :=
      [(.auto, .read (.aliasFor "T1")), (.always, .edit (.joinRaw "posts" "CROSS JOIN tags")),
        (.auto, .edit .rebuild), (.auto, .save), (.auto, .edit (.select ["id"] "comments"))]
    (t.entries[1]? = some ⟨"posts", "T1", false, 0⟩ ∧
        ∃ after, (AliasTable.Change.apply t (.setAlias "tags" "T1")).entries[1]? = some after ∧
          (AliasTable.Change.setAlias "tags" "T1").Respects t 1 ⟨"posts", "T1", false, 0⟩ after) ∧
      (∀ call ∈ calls, (∀ table aliasName, call.2 ≠ .edit (.setTableAlias table aliasName)) ∧
          call.2 ≠ .edit .reset ∧ call.2 ≠ .restore) ∧
      Session.renamed.current.draft.aliases.lookup? "users" = some "T1" ∧
      (Session.renamed.runUnder calls).current.draft.aliases.lookup? "users" = some "T1" := by
  intro t calls
  have posts : t.entries[1]? = some ⟨"posts", "T1", false, 0⟩ := by decide
  have keep : ∀ call ∈ calls,
      (∀ table aliasName, call.2 ≠ .edit (.setTableAlias table aliasName)) ∧
        call.2 ≠ .edit .reset ∧ call.2 ≠ .restore := by simp [calls]
  have known : Session.renamed.current.draft.aliases.lookup? "users" = some "T1" := by
    decide +kernel
  exact ⟨⟨posts, (aliases_stable.1 AliasTable.displacing _).2 1 _ posts⟩, keep, known,
    aliases_stable.2 Session.renamed calls keep "users" "T1" known⟩

end SqlQuery
