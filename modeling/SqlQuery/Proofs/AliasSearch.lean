import SqlQuery.Proofs.DistinctAliases

/-!
The search for an alias ends, and no number is handed out twice.

The search has no bound of its own.  A pass of it (`AliasTable.pass`) uses up one number, and ends
the search if no table has the alias of that number; `AliasTable.SearchEnds` follows the passes for
as long as it takes.  Since the aliases of different numbers are different, and a table has one
alias, there are at most as many passes without an answer as there are tables: the search ends with
the least number that is free (`AliasTable.searchEnds_iff`).

A call on an alias table searches once or not at all (`AliasTable.Change.searched?`).  The numbers
that a run hands out (`AliasTable.handedOut`) are those that its searches end with, and each search
goes on behind the one before it.
-/

namespace SqlQuery.AliasTable

/-! ## Passes -/

/-- One pass of the search for an alias.  The next number is used up, and its alias is the answer if
no table has it. -/
def pass (t : AliasTable) : AliasTable × Option String :=
  let aliasName := numbered t.nextNumber
  let after := { t with nextNumber := t.nextNumber + 1 }
  (after, if after.isTaken aliasName then none else some aliasName)

/-- The search makes the given number of passes, of which only the last one has an answer, and
leaves the second table. -/
inductive SearchEnds : AliasTable → Nat → AliasTable → String → Prop
  | answered {t after : AliasTable} {aliasName : String} (last : t.pass = (after, some aliasName)) :
    SearchEnds t 1 after aliasName
  | goesOn {t next after : AliasTable} {passes : Nat} {aliasName : String}
    (taken : t.pass = (next, none)) (rest : SearchEnds next passes after aliasName) :
    SearchEnds t (passes + 1) after aliasName

theorem pass_of_isTaken {t : AliasTable} (taken : t.isTaken (numbered t.nextNumber) = true) :
    t.pass = ({ t with nextNumber := t.nextNumber + 1 }, none) :=
  congrArg (Prod.mk _) (if_pos taken)

theorem pass_of_free {t : AliasTable} (free : t.isTaken (numbered t.nextNumber) = false) :
    t.pass = ({ t with nextNumber := t.nextNumber + 1 }, some (numbered t.nextNumber)) :=
  congrArg (Prod.mk _) (if_neg (by simpa [isTaken] using free))

/-- The passes that go before the one with the answer are those over the numbers that are taken. -/
theorem searchEnds_of_free {t : AliasTable} {k : Nat} (notBelow : t.nextNumber ≤ k)
    (taken : ∀ n, t.nextNumber ≤ n → n < k → t.isTaken (numbered n) = true)
    (free : t.isTaken (numbered k) = false) :
    t.SearchEnds (k - t.nextNumber + 1) { t with nextNumber := k + 1 } (numbered k) := by
  -- The induction is on the numbers to pass over.  The counter moves, the tables stay.
  induction distance : k - t.nextNumber generalizing t with
  | zero =>
    obtain rfl : k = t.nextNumber := by omega
    exact .answered (pass_of_free free)
  | succ further ih =>
    have first : t.isTaken (numbered t.nextNumber) = true := taken _ (le_refl _) (by omega)
    refine .goesOn (pass_of_isTaken first) ?_
    refine ih (t := { t with nextNumber := t.nextNumber + 1 }) ?_ ?_ free ?_
    · show t.nextNumber + 1 ≤ k
      omega
    · intro n later below
      exact taken n (Nat.le_of_succ_le later) below
    · show k - (t.nextNumber + 1) = further
      omega

/-- The search ends in one way only, since each pass is determined by the table. -/
theorem SearchEnds.unique {t after after' : AliasTable} {passes passes' : Nat}
    {aliasName aliasName' : String} (ends : t.SearchEnds passes after aliasName)
    (ends' : t.SearchEnds passes' after' aliasName') :
    passes = passes' ∧ after = after' ∧ aliasName = aliasName' := by
  induction ends generalizing passes' with
  | answered last =>
    cases ends' with
    | answered last' =>
      rw [last] at last'
      cases last'
      exact ⟨rfl, rfl, rfl⟩
    | goesOn taken' rest' =>
      rw [last] at taken'
      cases taken'
  | goesOn taken rest ih =>
    cases ends' with
    | answered last' =>
      rw [taken] at last'
      cases last'
    | goesOn taken' rest' =>
      rw [taken] at taken'
      cases taken'
      obtain ⟨rfl, rfl, rfl⟩ := ih rest'
      exact ⟨rfl, rfl, rfl⟩

/-- The bounded search goes no further than its fuel. -/
theorem firstFree_le (t : AliasTable) (fuel n : Nat) : t.firstFree fuel n ≤ n + fuel := by
  induction fuel generalizing n with
  | zero => exact le_refl n
  | succ fuel ih =>
    unfold firstFree
    split
    · have further := ih (n + 1)
      omega
    · omega

theorem freeNumber_le (t : AliasTable) : t.freeNumber ≤ t.nextNumber + t.entries.length :=
  t.firstFree_le _ _

/-- The search ends in one way, which is with the next free number. -/
theorem searchEnds_iff {t after : AliasTable} {passes : Nat} {aliasName : String} :
    t.SearchEnds passes after aliasName ↔
      passes = t.freeNumber - t.nextNumber + 1 ∧
        after = { t with nextNumber := t.freeNumber + 1 } ∧ aliasName = numbered t.freeNumber := by
  have ends : t.SearchEnds (t.freeNumber - t.nextNumber + 1)
      { t with nextNumber := t.freeNumber + 1 } (numbered t.freeNumber) :=
    searchEnds_of_free t.le_freeNumber (fun _ notBelow => isTaken_of_lt_firstFree notBelow)
      t.isTaken_freeNumber
  constructor
  · exact fun other => other.unique ends
  · rintro ⟨rfl, rfl, rfl⟩
    exact ends

/-! ## Searches of a call -/

/-- Some table has the alias without anyone having chosen it. -/
def IsAutomatic (t : AliasTable) (aliasName : String) : Prop :=
  ∃ e ∈ t.entries, e.explicit = false ∧ e.aliasName = aliasName

instance (t : AliasTable) (aliasName : String) : Decidable (t.IsAutomatic aliasName) :=
  inferInstanceAs (Decidable (∃ e ∈ t.entries, e.explicit = false ∧ e.aliasName = aliasName))

/-- The call keeps the next number, and no alias becomes automatic by it. -/
structure KeepsNumber (t after : AliasTable) : Prop where
  nextNumber : after.nextNumber = t.nextNumber
  automatic : ∀ aliasName, after.IsAutomatic aliasName → t.IsAutomatic aliasName

/-- The call takes the number with which a search in the second table ends: its alias is automatic
now, and no other is that was not before. -/
structure TakesNumber (t searched after : AliasTable) : Prop where
  starts : searched.nextNumber = t.nextNumber
  nextNumber : after.nextNumber = searched.freeNumber + 1
  isAutomatic : after.IsAutomatic (numbered searched.freeNumber)
  automatic : ∀ aliasName, after.IsAutomatic aliasName →
    t.IsAutomatic aliasName ∨ aliasName = numbered searched.freeNumber

namespace Change

/-- The table in which a call searches for an alias, if it does.  An unknown table that is
registered gets an alias that is free so far, and a table whose alias is chosen for another one gets
an alias that is free once the other one has it. -/
def searched? (t : AliasTable) : Change → Option AliasTable
  | .register name | .aliasFor name => if (t.find? name).isSome then none else some t
  | .setAlias name aliasName =>
    match t.holder? name aliasName with
    | none => none
    | some (_, holder) =>
      if holder.explicit then if (t.find? name).isSome then none else some t
      else some (t.assign name aliasName)
  | .reference _ | .clearReferences => none

end Change

/-- An entry of a modified list is an old one or the modified one. -/
theorem mem_modify {entries : List AliasEntry} {i : Nat} {f : AliasEntry → AliasEntry}
    {e : AliasEntry} (member : e ∈ entries.modify i f) :
    e ∈ entries ∨ ∃ old, entries[i]? = some old ∧ e = f old := by
  obtain ⟨j, found⟩ := List.mem_iff_getElem?.1 member
  rw [List.getElem?_modify] at found
  obtain ⟨old, there, same⟩ := Option.map_eq_some_iff.1 found
  split at same
  case isTrue here =>
    subst here
    exact .inr ⟨old, there, same.symm⟩
  case isFalse =>
    subst same
    exact .inl (List.mem_of_getElem? there)

section Calls

variable {t : AliasTable} {name aliasName : String}

theorem KeepsNumber.refl (t : AliasTable) : t.KeepsNumber t := ⟨rfl, fun _ => id⟩

theorem keepsNumber_of_isRecount {counted : AliasTable} (recount : t.IsRecount counted) :
    t.KeepsNumber counted := by
  refine ⟨recount.nextNumber, ?_⟩
  rintro aliasName ⟨e, listed, automatic, rfl⟩
  obtain ⟨old, oldListed, sameAlias, sameChoice⟩ := recount.exists_of_mem listed
  exact ⟨old, oldListed, sameChoice.trans automatic, sameAlias⟩

/-- A table that is new takes the next free number. -/
theorem takesNumber_register (unknown : t.find? name = none) :
    t.TakesNumber t (t.register name) := by
  have new : ∀ e ∈ t.entries, e.name ≠ name := find?_eq_none_iff.1 unknown
  obtain ⟨⟨e, listed, named⟩, -⟩ | ⟨-, entries, number⟩ := t.register_cases name
  · exact absurd named (new e listed)
  refine ⟨rfl, number, ?_, ?_⟩
  · refine ⟨{ name, aliasName := numbered t.freeNumber }, ?_, rfl, rfl⟩
    rw [entries]
    exact List.mem_append_right _ (List.mem_singleton_self _)
  · rintro aliasName ⟨e, listed, automatic, rfl⟩
    rw [entries] at listed
    obtain old | added := List.mem_append.1 listed
    · exact .inl ⟨e, old, automatic, rfl⟩
    · rw [List.mem_singleton.1 added]
      exact .inr rfl

/-- The alias that a table has by choice is not automatic, so an assignment makes none so. -/
theorem keepsNumber_assign (t : AliasTable) (name aliasName : String) :
    t.KeepsNumber (t.assign name aliasName) := by
  refine ⟨t.nextNumber_assign name aliasName, ?_⟩
  rintro other ⟨e, listed, automatic, rfl⟩
  unfold assign at listed
  split at listed
  · obtain old | ⟨old, -, chosen⟩ := mem_modify listed
    · exact ⟨e, old, automatic, rfl⟩
    · rw [chosen] at automatic
      cases automatic
  · obtain old | added := List.mem_append.1 listed
    · exact ⟨e, old, automatic, rfl⟩
    · rw [List.mem_singleton.1 added] at automatic
      cases automatic

/-- A table that has to move on from its alias takes the next free number. -/
theorem takesNumber_renumber {i : Nat} {e : AliasEntry} (found : t.entries[i]? = some e)
    (automatic : e.explicit = false) : t.TakesNumber t (t.renumber i) := by
  refine ⟨rfl, rfl, ?_, ?_⟩
  · refine ⟨{ e with aliasName := numbered t.freeNumber }, ?_, automatic, rfl⟩
    refine List.mem_of_getElem? (i := i) ?_
    simp [renumber, found]
  · rintro aliasName ⟨e, listed, automatic, rfl⟩
    obtain old | ⟨old, -, rfl⟩ := mem_modify listed
    · exact .inl ⟨e, old, automatic, rfl⟩
    · exact .inr rfl

/-- Registering a name searches for a number if and only if the name is new. -/
theorem register_search_cases (t : AliasTable) (name : String) :
    ((t.find? name).isSome = true ∧ t.KeepsNumber (t.register name)) ∨
      ((t.find? name).isSome = false ∧ t.TakesNumber t (t.register name)) := by
  cases place : t.find? name with
  | some i =>
    rw [register_of_find? place]
    exact .inl ⟨rfl, .refl t⟩
  | none => exact .inr ⟨rfl, takesNumber_register place⟩

/-- The holder of an alias that is chosen for another table gets its new one when that table has
it. -/
theorem takesNumber_renumber_assign {i : Nat} {e : AliasEntry}
    (held : t.holder? name aliasName = some (i, e)) (automatic : e.explicit = false) :
    t.TakesNumber (t.assign name aliasName) ((t.assign name aliasName).renumber i) := by
  obtain ⟨found, -, other⟩ := mem_of_holder? held
  have assigned := t.keepsNumber_assign name aliasName
  have kept : (t.assign name aliasName).entries[i]? = some e := getElem?_assign_of_ne found other
  have takes := takesNumber_renumber kept automatic
  refine ⟨assigned.nextNumber, takes.nextNumber, takes.isAutomatic, ?_⟩
  exact fun a after => (takes.automatic a after).imp_left (assigned.automatic a)

/-- A call searches in one table or in none, and takes the number that it finds and no other. -/
theorem Change.search_cases (t : AliasTable) (c : Change) :
    (c.searched? t = none ∧ t.KeepsNumber (c.apply t)) ∨
      ∃ s, c.searched? t = some s ∧ t.TakesNumber s (c.apply t) := by
  cases c with
  | register name =>
    obtain ⟨known, keeps⟩ | ⟨unknown, takes⟩ := t.register_search_cases name
    · exact .inl ⟨by simp [searched?, known], keeps⟩
    · exact .inr ⟨t, by simp [searched?, unknown], takes⟩
  | aliasFor name =>
    obtain ⟨known, keeps⟩ | ⟨unknown, takes⟩ := t.register_search_cases name
    · exact .inl ⟨by simp [searched?, known], keeps⟩
    · exact .inr ⟨t, by simp [searched?, unknown], takes⟩
  | setAlias name aliasName =>
    change _ ∧ t.KeepsNumber (t.setAlias name aliasName) ∨
      ∃ s, _ ∧ t.TakesNumber s (t.setAlias name aliasName)
    obtain ⟨held, same⟩ | ⟨i, e, held, chosen, same⟩ | ⟨i, e, held, automatic, same⟩ :=
      t.setAlias_cases name aliasName
      <;> rw [same]
    · exact .inl ⟨by simp [searched?, held], t.keepsNumber_assign name aliasName⟩
    · obtain ⟨known, keeps⟩ | ⟨unknown, takes⟩ := t.register_search_cases name
      · exact .inl ⟨by simp [searched?, held, chosen, known], keeps⟩
      · exact .inr ⟨t, by simp [searched?, held, chosen, unknown], takes⟩
    · refine .inr ⟨t.assign name aliasName, by simp [searched?, held, automatic], ?_⟩
      exact takesNumber_renumber_assign held automatic
  | reference table => exact .inl ⟨rfl, keepsNumber_of_isRecount (t.isRecount_reference table)⟩
  | clearReferences => exact .inl ⟨rfl, keepsNumber_of_isRecount (t.isRecount_withReferences _)⟩

end Calls

/-! ## Runs -/

/-- The numbers that the searches of several calls end with, in their order. -/
def handedOut (t : AliasTable) : List Change → List Nat
  | [] => []
  | c :: changes => ((c.searched? t).map freeNumber).toList ++ handedOut (c.apply t) changes

/-- Each number that is handed out is one that the counter has yet to pass. -/
theorem le_of_mem_handedOut {t : AliasTable} {changes : List Change} {n : Nat}
    (member : n ∈ t.handedOut changes) : t.nextNumber ≤ n := by
  induction changes generalizing t with
  | nil => cases member
  | cons c changes ih =>
    obtain ⟨none, keeps⟩ | ⟨s, some, takes⟩ := c.search_cases t
    · rw [handedOut, none] at member
      exact keeps.nextNumber ▸ ih member
    · have notBelow := s.le_freeNumber
      rw [takes.starts] at notBelow
      rw [handedOut, some] at member
      obtain rfl | later := List.mem_cons.1 member
      · exact notBelow
      · have behind := ih later
        rw [takes.nextNumber] at behind
        omega

/-- Numbers that are handed out in a run increase, by induction on its changes. -/
theorem pairwise_handedOut (t : AliasTable) (changes : List Change) :
    (t.handedOut changes).Pairwise (· < ·) := by
  induction changes generalizing t with
  | nil => exact .nil
  | cons c changes ih =>
    obtain ⟨none, -⟩ | ⟨s, some, takes⟩ := c.search_cases t
    · rw [handedOut, none]
      exact ih (c.apply t)
    · rw [handedOut, some]
      refine .cons (fun n later => ?_) (ih (c.apply t))
      have behind := le_of_mem_handedOut later
      rw [takes.nextNumber] at behind
      exact behind

/-- An alias that nobody chose has a number that was handed out, if it was not there before. -/
theorem isAutomatic_foldl {t : AliasTable} {changes : List Change} {aliasName : String}
    (automatic : (changes.foldl Change.apply t).IsAutomatic aliasName) :
    t.IsAutomatic aliasName ∨ ∃ n ∈ t.handedOut changes, aliasName = numbered n := by
  induction changes generalizing t with
  | nil => exact .inl automatic
  | cons c changes ih =>
    obtain ⟨none, keeps⟩ | ⟨s, some, takes⟩ := c.search_cases t
    · rw [handedOut, none]
      exact (ih automatic).imp_left (keeps.automatic aliasName)
    · rw [handedOut, some]
      obtain before | ⟨n, later, same⟩ := ih automatic
      · refine (takes.automatic aliasName before).imp_right fun same => ?_
        exact ⟨s.freeNumber, List.mem_cons_self, same⟩
      · exact .inr ⟨n, List.mem_cons_of_mem _ later, same⟩

/-- Whatever the tables and their aliases are, the search for an alias ends, in one way: after at
most one more pass than there are tables, with the least number from the next one on whose alias no
table has, and with the counter behind that number and nothing else changed.  A call that hands out
a number, and only such a call, leaves the counter behind it, and the alias of that number in the
table.  Over any calls the numbers handed out increase, and every alias that is automatic after
them, and was not before, has one of these numbers. -/
theorem searchEnds_increasing :
    (∀ t : AliasTable,
      IsLeast {n | t.nextNumber ≤ n ∧ ∀ e ∈ t.entries, e.aliasName ≠ numbered n} t.freeNumber ∧
        t.freeNumber - t.nextNumber + 1 ≤ t.entries.length + 1 ∧
        ∀ passes after aliasName, t.SearchEnds passes after aliasName ↔
          passes = t.freeNumber - t.nextNumber + 1 ∧
            after = { t with nextNumber := t.freeNumber + 1 } ∧
            aliasName = numbered t.freeNumber) ∧
    (∀ (t : AliasTable) (c : Change),
      (t.handedOut [c] = [] ∧ (c.apply t).nextNumber = t.nextNumber) ∨
        ∃ n, t.handedOut [c] = [n] ∧ (c.apply t).nextNumber = n + 1 ∧
          (c.apply t).IsAutomatic (numbered n)) ∧
    ∀ (t : AliasTable) (changes : List Change),
      (t.handedOut changes).Pairwise (· < ·) ∧
        ∀ aliasName, (changes.foldl Change.apply t).IsAutomatic aliasName →
          t.IsAutomatic aliasName ∨ ∃ n ∈ t.handedOut changes, aliasName = numbered n := by
  refine ⟨fun t => ⟨?_, ?_, fun passes after aliasName => searchEnds_iff⟩, fun t c => ?_,
    fun t changes => ⟨t.pairwise_handedOut changes, fun aliasName => isAutomatic_foldl⟩⟩
  · have least := t.isLeast_freeNumber
    simpa [isTaken] using least
  · have bound := t.freeNumber_le
    omega
  · obtain ⟨none, keeps⟩ | ⟨s, some, takes⟩ := c.search_cases t
    · exact .inl ⟨by simp [handedOut, none], keeps.nextNumber⟩
    · exact .inr ⟨s.freeNumber, by simp [handedOut, some], takes.nextNumber, takes.isAutomatic⟩

/-- Calls that choose aliases which look like numbered ones, before the numbers get there and
after. -/
def crowding : List Change :=
  [.setAlias "users" "T0", .setAlias "posts" "T1", .setAlias "tags" "T3", .register "likes",
    .aliasFor "votes", .setAlias "marks" "T2"]

theorem searchEnds_increasing_crowding :
    let chosen := run (crowding.take 3)
    chosen.SearchEnds 3 { chosen with nextNumber := 3 } "T2" ∧
      handedOut {} crowding = [2, 4, 5] ∧ (handedOut {} crowding).Pairwise (· < ·) ∧
      (crowding.foldl Change.apply {}).IsAutomatic "T5" ∧
        (IsAutomatic {} "T5" ∨ ∃ n ∈ handedOut {} crowding, "T5" = numbered n) := by
  intro chosen
  obtain ⟨searches, -, runs⟩ := searchEnds_increasing
  obtain ⟨increasing, accounted⟩ := runs {} crowding
  have search := (searches chosen).2.2 3 { chosen with nextNumber := 3 } "T2"
  have likes : (crowding.foldl Change.apply {}).IsAutomatic "T5" := by decide
  exact ⟨search.2 (by decide), by decide, increasing, likes, accounted "T5" likes⟩

end SqlQuery.AliasTable
