import Mathlib.Data.List.Induction
import Mathlib.Data.List.Nodup
import Mathlib.Data.List.Perm.Subperm
import Mathlib.Order.Bounds.Basic
import SqlQuery.Alias.Table

/-!
The tables of an alias table are told apart by their names and by their aliases.

`AliasTable.Change` lists the calls that change an alias table, and `AliasTable.run` makes them on a
new one.  `AliasTable.IsSound` is what every run keeps: no two tables share a name or an alias, and
an alias that nobody chose is a number that was handed out.  Choosing an alias is the one change
that touches tables which are known already; `AliasTable.relabel` says what becomes of each of them,
and `AliasTable.setAlias_of_not_isChosenByOther` that choosing does just that.
-/

namespace SqlQuery.AliasTable

/-! ## The next free number -/

/-- Different numbers make different aliases. -/
theorem numbered_injective : Function.Injective numbered := by
  intro m n same
  have digits : Nat.toDigits 10 m = Nat.toDigits 10 n := by
    rw [← Nat.toList_repr, ← Nat.toList_repr, (String.append_right_inj "T").1 same]
  rw [← Nat.ofDigitChars_ten_toDigits (n := m), digits, Nat.ofDigitChars_ten_toDigits]

/-- An alias is taken if some table has it. -/
theorem isTaken_eq_true_iff {t : AliasTable} {aliasName : String} :
    t.isTaken aliasName = true ↔ ∃ e ∈ t.entries, e.aliasName = aliasName := by
  simp [isTaken]

/-- A search that ends at a taken alias has passed over as many as it was allowed to. -/
theorem firstFree_eq_add_of_isTaken {t : AliasTable} {fuel n : Nat}
    (taken : t.isTaken (numbered (t.firstFree fuel n)) = true) :
    t.firstFree fuel n = n + fuel := by
  induction fuel generalizing n with
  | zero => rfl
  | succ fuel ih =>
    simp only [firstFree] at taken ⊢
    split at taken
    case isTrue here =>
      rw [if_pos here, ih taken]
      omega
    case isFalse here => exact absurd taken here

/-- The number found is free.  If it were not, one more alias would be taken than there are
tables. -/
theorem isTaken_freeNumber (t : AliasTable) : t.isTaken (numbered t.freeNumber) = false := by
  by_contra isTaken
  rw [Bool.not_eq_false] at isTaken
  have last : t.freeNumber = t.nextNumber + t.entries.length := firstFree_eq_add_of_isTaken isTaken
  have all : (List.range' t.nextNumber (t.entries.length + 1)).map numbered ⊆
      t.entries.map AliasEntry.aliasName := by
    intro aliasName member
    rcases List.mem_map.1 member with ⟨n, inRange, rfl⟩
    have bounds := List.mem_range'_1.1 inRange
    have taken : t.isTaken (numbered n) = true := by
      rcases Nat.lt_or_ge n t.freeNumber with below | reached
      · exact isTaken_of_lt_firstFree bounds.1 below
      · have same : n = t.freeNumber := by omega
        rw [same]
        exact isTaken
    rcases isTaken_eq_true_iff.1 taken with ⟨e, listed, holds⟩
    exact List.mem_map.2 ⟨e, listed, holds⟩
  have different := (List.nodup_range' (s := t.nextNumber)
    (n := t.entries.length + 1)).map numbered_injective
  have atMost := (different.subperm all).length_le
  simp only [List.length_map, List.length_range'] at atMost
  omega

theorem le_freeNumber (t : AliasTable) : t.nextNumber ≤ t.freeNumber := le_firstFree t _ _

/-- The search gives the least number from where it starts whose alias is free. -/
theorem isLeast_freeNumber (t : AliasTable) :
    IsLeast {n | t.nextNumber ≤ n ∧ t.isTaken (numbered n) = false} t.freeNumber := by
  refine ⟨⟨le_freeNumber t, isTaken_freeNumber t⟩, ?_⟩
  rintro n ⟨notBelow, free⟩
  rcases Nat.lt_or_ge n t.freeNumber with earlier | later
  · have taken : t.isTaken (numbered n) = true := isTaken_of_lt_firstFree notBelow earlier
    rw [free] at taken
    cases taken
  · exact later

/-! ## Places of entries -/

/-- Where the keys of a list are different, the first entry with a key is the one that has it. -/
theorem findIdx?_of_nodup {key : AliasEntry → String} {entries : List AliasEntry}
    (different : (entries.map key).Nodup) {i : Nat} {e : AliasEntry}
    (found : entries[i]? = some e) : entries.findIdx? (key · == key e) = some i := by
  rcases List.getElem?_eq_some_iff.1 found with ⟨inside, rfl⟩
  refine List.findIdx?_eq_some_iff_getElem.2 ⟨inside, by simp, ?_⟩
  intro j before same
  have equal : (entries.map key)[j]? = (entries.map key)[i]? := by
    have alsoInside := Nat.lt_trans before inside
    simpa [List.getElem?_eq_getElem inside, List.getElem?_eq_getElem alsoInside] using same
  exact List.nodup_iff_getElem?_ne_getElem?.1 different j i before (by simpa using inside) equal

/-- Where the keys of a list are different, changing the entry at a place is changing the entry with
its key. -/
theorem modify_eq_map_of_nodup {key : AliasEntry → String} {entries : List AliasEntry}
    (different : (entries.map key).Nodup) {i : Nat} {e : AliasEntry}
    (found : entries[i]? = some e) (f : AliasEntry → AliasEntry) :
    entries.modify i f = entries.map fun other => if key other = key e then f other else other := by
  apply List.ext_getElem?
  intro j
  rw [List.getElem?_modify, List.getElem?_map]
  cases there : entries[j]? with
  | none => rfl
  | some other =>
    have place : i = j ↔ key other = key e := by
      constructor
      · rintro rfl
        rw [found] at there
        rw [Option.some.inj there]
      · intro same
        have first := findIdx?_of_nodup different there
        rw [same, findIdx?_of_nodup different found] at first
        exact Option.some.inj first
    simp only [Option.map_eq_map, Option.map_some, place]

theorem find?_eq_none_iff {t : AliasTable} {name : String} :
    t.find? name = none ↔ ∀ e ∈ t.entries, e.name ≠ name := by
  simp [find?, List.findIdx?_eq_none_iff]

theorem exists_entry_of_find? {t : AliasTable} {name : String} {i : Nat}
    (found : t.find? name = some i) : ∃ e, t.entries[i]? = some e ∧ e.name = name := by
  rcases List.findIdx?_eq_some_iff_getElem.1 found with ⟨inside, named, -⟩
  exact ⟨t.entries[i], List.getElem?_eq_getElem inside, by simpa using named⟩

theorem exists_entry_of_findByAlias? {t : AliasTable} {aliasName : String} {i : Nat}
    (found : t.findByAlias? aliasName = some i) :
    ∃ e, t.entries[i]? = some e ∧ e.aliasName = aliasName := by
  rcases List.findIdx?_eq_some_iff_getElem.1 found with ⟨inside, named, -⟩
  exact ⟨t.entries[i], List.getElem?_eq_getElem inside, by simpa using named⟩

/-! ## Sound alias tables -/

/-- The second table is the first one with other counts. -/
structure IsRecount (t counted : AliasTable) : Prop where
  entries : counted.entries.map (fun e => { e with references := 0 }) =
    t.entries.map fun e => { e with references := 0 }
  nextNumber : counted.nextNumber = t.nextNumber

theorem IsRecount.map_eq {t counted : AliasTable} (recount : t.IsRecount counted) {α : Type}
    (f : AliasEntry → α) (uncounted : ∀ e, f { e with references := 0 } = f e) :
    counted.entries.map f = t.entries.map f := by
  have mapped := congrArg (List.map f) recount.entries
  simpa only [List.map_map, Function.comp_def, uncounted] using mapped

/-- Counting leaves every entry its alias and whether that was chosen. -/
theorem IsRecount.exists_of_mem {t counted : AliasTable} (recount : t.IsRecount counted)
    {e : AliasEntry} (listed : e ∈ counted.entries) :
    ∃ other ∈ t.entries, other.aliasName = e.aliasName ∧ other.explicit = e.explicit := by
  have member := List.mem_map_of_mem (f := fun e => (e.aliasName, e.explicit)) listed
  rw [recount.map_eq (fun e => (e.aliasName, e.explicit)) fun _ => rfl] at member
  obtain ⟨other, otherListed, same⟩ := List.mem_map.1 member
  exact ⟨other, otherListed, Prod.mk.inj same⟩

/-- Counting one reference changes nothing but a count. -/
theorem isRecount_reference (t : AliasTable) (table : Nat) : t.IsRecount (t.reference table) := by
  refine ⟨?_, rfl⟩
  apply List.ext_getElem?
  intro i
  simp only [reference, List.getElem?_map, List.getElem?_modify, Option.map_eq_map, Option.map_map]
  congr 1
  funext e
  rw [Function.comp_apply]
  split <;> rfl

theorem isRecount_withReferences (t : AliasTable) (count : Nat → Nat) :
    t.IsRecount (t.withReferences count) := by
  refine ⟨?_, rfl⟩
  apply List.ext_getElem?
  intro i
  simp only [withReferences, List.getElem?_map, List.getElem?_mapIdx, Option.map_map]
  rfl

/-- No two tables share a name or an alias, and an alias that nobody chose is a number below the
one that the search for the next starts from. -/
structure IsSound (t : AliasTable) : Prop where
  names : (t.entries.map AliasEntry.name).Nodup
  aliases : (t.entries.map AliasEntry.aliasName).Nodup
  automatic : ∀ e ∈ t.entries, e.explicit = false → ∃ n < t.nextNumber, e.aliasName = numbered n

namespace IsSound

variable {t : AliasTable}

/-- In a sound table, a name belongs to one entry. -/
theorem eq_of_name (sound : t.IsSound) {e other : AliasEntry} (listed : e ∈ t.entries)
    (otherListed : other ∈ t.entries) (same : e.name = other.name) : e = other :=
  List.inj_on_of_nodup_map sound.names listed otherListed same

/-- In a sound table, an alias belongs to one entry. -/
theorem eq_of_aliasName (sound : t.IsSound) {e other : AliasEntry} (listed : e ∈ t.entries)
    (otherListed : other ∈ t.entries) (same : e.aliasName = other.aliasName) : e = other :=
  List.inj_on_of_nodup_map sound.aliases listed otherListed same

theorem find?_eq (sound : t.IsSound) {i : Nat} {e : AliasEntry} (found : t.entries[i]? = some e) :
    t.find? e.name = some i :=
  findIdx?_of_nodup sound.names found

theorem findByAlias?_eq (sound : t.IsSound) {i : Nat} {e : AliasEntry}
    (found : t.entries[i]? = some e) : t.findByAlias? e.aliasName = some i :=
  findIdx?_of_nodup sound.aliases found

/-- Looking up the name of an entry gives its alias. -/
theorem lookup?_eq (sound : t.IsSound) {e : AliasEntry} (listed : e ∈ t.entries) :
    t.lookup? e.name = some e.aliasName := by
  unfold lookup?
  cases first : t.entries.find? (·.name == e.name) with
  | none =>
    have other := List.find?_eq_none.1 first e listed
    simp at other
  | some other =>
    have named : other.name = e.name := by simpa using List.find?_some first
    rw [sound.eq_of_name (List.mem_of_find?_eq_some first) listed named]
    rfl

/-- Counts do not matter for soundness. -/
theorem of_isRecount (sound : t.IsSound) {counted : AliasTable} (recount : t.IsRecount counted) :
    counted.IsSound := by
  refine ⟨?_, ?_, ?_⟩
  · rw [recount.map_eq AliasEntry.name fun _ => rfl]
    exact sound.names
  · rw [recount.map_eq AliasEntry.aliasName fun _ => rfl]
    exact sound.aliases
  · intro e listed automatic
    obtain ⟨other, otherListed, sameAlias, sameChoice⟩ := recount.exists_of_mem listed
    rw [recount.nextNumber, ← sameAlias]
    exact sound.automatic other otherListed (sameChoice.trans automatic)

end IsSound

/-! ## Registering -/

/-- Registering changes nothing for a known table, and adds an unknown one. -/
theorem register_cases (t : AliasTable) (name : String) :
    ((∃ e ∈ t.entries, e.name = name) ∧ t.register name = t) ∨
      ((∀ e ∈ t.entries, e.name ≠ name) ∧
        (t.register name).entries = t.entries ++ [{ name, aliasName := numbered t.freeNumber }] ∧
        (t.register name).nextNumber = t.freeNumber + 1) := by
  unfold register
  cases found : t.find? name with
  | some i =>
    rcases exists_entry_of_find? found with ⟨e, here, named⟩
    exact .inl ⟨⟨e, List.mem_of_getElem? here, named⟩, rfl⟩
  | none => exact .inr ⟨find?_eq_none_iff.1 found, rfl, rfl⟩

/-- A new table gets an alias that no other has, so the table stays sound. -/
theorem IsSound.register {t : AliasTable} (sound : t.IsSound) (name : String) :
    (t.register name).IsSound := by
  rcases t.register_cases name with ⟨-, same⟩ | ⟨unknown, entries, number⟩
  · rw [same]
    exact sound
  · have free := t.isTaken_freeNumber
    have notBelow := t.le_freeNumber
    refine ⟨?_, ?_, ?_⟩
    · rw [entries, List.map_append]
      refine List.nodup_append.2 ⟨sound.names, List.nodup_singleton _, ?_⟩
      simpa using unknown
    · rw [entries, List.map_append]
      refine List.nodup_append.2 ⟨sound.aliases, List.nodup_singleton _, ?_⟩
      simpa [isTaken] using free
    · rw [entries, number]
      intro e listed automatic
      rcases List.mem_append.1 listed with old | new
      · rcases sound.automatic e old automatic with ⟨n, below, holds⟩
        exact ⟨n, by omega, holds⟩
      · rw [List.mem_singleton.1 new]
        exact ⟨t.freeNumber, Nat.lt_succ_self _, rfl⟩

/-! ## Choosing -/

/-- Another table than the named one has the alias by choice. -/
def IsChosenByOther (t : AliasTable) (name aliasName : String) : Prop :=
  ∃ e ∈ t.entries, e.aliasName = aliasName ∧ e.name ≠ name ∧ e.explicit = true

/-- The other alias is in use once the named table has taken the given one. -/
def IsInUseOnce (t : AliasTable) (name aliasName other : String) : Prop :=
  other = aliasName ∨ ∃ e ∈ t.entries, e.name ≠ name ∧ e.aliasName = other

/-- What becomes of an entry when the named table takes the alias: it has the alias if it is of that
table, and moves on to the next free number if the alias was its own. -/
def relabel (t : AliasTable) (name aliasName : String) (e : AliasEntry) : AliasEntry :=
  if e.name = name then { e with aliasName, explicit := true }
  else if e.aliasName = aliasName then
    { e with aliasName := numbered (t.assign name aliasName).freeNumber }
  else e

/-- The entry that a table which is unknown so far gets with the alias chosen for it. -/
def newcomers (t : AliasTable) (name aliasName : String) : List AliasEntry :=
  if ∃ e ∈ t.entries, e.name = name then [] else [{ name, aliasName, explicit := true }]

@[simp] theorem name_relabel (t : AliasTable) (name aliasName : String) (e : AliasEntry) :
    (t.relabel name aliasName e).name = e.name := by
  unfold relabel
  split
  · rfl
  · split <;> rfl

/-- A table that is added by choosing its alias was unknown before. -/
theorem mem_newcomers {t : AliasTable} {name aliasName : String} {e : AliasEntry}
    (new : e ∈ t.newcomers name aliasName) :
    e = { name, aliasName, explicit := true } ∧ ∀ old ∈ t.entries, old.name ≠ name := by
  unfold newcomers at new
  split at new
  case isTrue => cases new
  case isFalse unknown =>
    refine ⟨List.mem_singleton.1 new, ?_⟩
    intro old listed named
    exact unknown ⟨old, listed, named⟩

theorem nextNumber_assign (t : AliasTable) (name aliasName : String) :
    (t.assign name aliasName).nextNumber = t.nextNumber := by
  unfold assign
  split <;> rfl

variable {t : AliasTable} {name aliasName : String}

/-- Choosing an alias changes the entry of the name or adds one. -/
theorem IsSound.entries_assign (sound : t.IsSound) :
    (t.assign name aliasName).entries =
      (t.entries.map fun e =>
        if e.name = name then { e with aliasName, explicit := true } else e) ++
      t.newcomers name aliasName := by
  unfold assign newcomers
  cases found : t.find? name with
  | some i =>
    rcases exists_entry_of_find? found with ⟨e, here, rfl⟩
    rw [if_pos ⟨e, List.mem_of_getElem? here, rfl⟩, List.append_nil]
    exact modify_eq_map_of_nodup sound.names here _
  | none =>
    have unknown := find?_eq_none_iff.1 found
    rw [if_neg (by simpa using unknown)]
    have kept : (t.entries.map fun e =>
        if e.name = name then { e with aliasName, explicit := true } else e) = t.entries := by
      rw [List.map_congr_left fun e listed => if_neg (unknown e listed), List.map_id']
    rw [kept]

/-- Entries that keep their names and the newcomer have different names. -/
theorem IsSound.nodup_names_append (sound : t.IsSound) {f : AliasEntry → AliasEntry}
    (keeps : ∀ e, (f e).name = e.name) :
    ((t.entries.map f ++ t.newcomers name aliasName).map AliasEntry.name).Nodup := by
  have same : (t.entries.map f).map AliasEntry.name = t.entries.map AliasEntry.name := by
    rw [List.map_map]
    exact List.map_congr_left fun e _ => keeps e
  rw [List.map_append, same]
  unfold newcomers
  split
  case isTrue => simpa using sound.names
  case isFalse unknown =>
    refine List.nodup_append.2 ⟨sound.names, List.nodup_singleton _, ?_⟩
    simpa using unknown

/-- The aliases in use are the chosen one and those of the other tables. -/
theorem IsSound.isTaken_assign (sound : t.IsSound) (other : String) :
    (t.assign name aliasName).isTaken other = true ↔ t.IsInUseOnce name aliasName other := by
  rw [isTaken_eq_true_iff, sound.entries_assign]
  constructor
  · rintro ⟨e, listed, rfl⟩
    rcases List.mem_append.1 listed with old | new
    · rcases List.mem_map.1 old with ⟨e, inside, rfl⟩
      by_cases named : e.name = name
      · rw [if_pos named]
        exact .inl rfl
      · rw [if_neg named]
        exact .inr ⟨e, inside, named, rfl⟩
    · rw [(mem_newcomers new).1]
      exact .inl rfl
  · rintro (rfl | ⟨e, inside, named, rfl⟩)
    · by_cases known : ∃ e ∈ t.entries, e.name = name
      · rcases known with ⟨e, inside, named⟩
        refine ⟨_, List.mem_append_left _ (List.mem_map_of_mem inside), ?_⟩
        rw [if_pos named]
      · refine ⟨{ name, aliasName := other, explicit := true }, List.mem_append_right _ ?_, rfl⟩
        rw [newcomers, if_neg known]
        exact List.mem_singleton_self _
    · refine ⟨_, List.mem_append_left _ (List.mem_map_of_mem inside), ?_⟩
      rw [if_neg named]

/-- The holder of an alias is another table that has it. -/
theorem mem_of_holder? {i : Nat} {e : AliasEntry} (held : t.holder? name aliasName = some (i, e)) :
    t.entries[i]? = some e ∧ e.aliasName = aliasName ∧ e.name ≠ name := by
  simp only [holder?, Option.bind_eq_bind, Option.bind_eq_some_iff] at held
  rcases held with ⟨place, found, entry, here, named⟩
  split at named
  case isTrue => cases named
  case isFalse other =>
    rcases exists_entry_of_findByAlias? found with ⟨first, there, holds⟩
    rw [here] at there
    obtain rfl := Option.some.inj there
    simp only [Option.some.injEq, Prod.mk.injEq] at named
    rcases named with ⟨rfl, rfl⟩
    exact ⟨here, holds, by simpa using other⟩

theorem IsSound.holder?_eq (sound : t.IsSound) {i : Nat} {e : AliasEntry}
    (found : t.entries[i]? = some e) (other : e.name ≠ name) :
    t.holder? name e.aliasName = some (i, e) := by
  simp [holder?, sound.findByAlias?_eq found, found, other]

/-- An alias that another table has by choice is refused. -/
theorem setAlias_of_isChosenByOther (sound : t.IsSound)
    (chosen : t.IsChosenByOther name aliasName) :
    t.setAlias name aliasName = t.register name := by
  rcases chosen with ⟨e, listed, rfl, other, explicit⟩
  rcases List.mem_iff_getElem?.1 listed with ⟨i, found⟩
  simp [setAlias, sound.holder?_eq found other, explicit]

/-- An assignment leaves the other tables in their places. -/
theorem getElem?_assign_of_ne {i : Nat} {e : AliasEntry} (found : t.entries[i]? = some e)
    (other : e.name ≠ name) : (t.assign name aliasName).entries[i]? = some e := by
  unfold assign
  cases place : t.find? name with
  | none => exact (List.getElem?_append_left (List.getElem?_eq_some_iff.1 found).1).trans found
  | some j =>
    obtain ⟨named, there, isNamed⟩ := exists_entry_of_find? place
    have apart : j ≠ i := by
      rintro rfl
      rw [found] at there
      exact other (Option.some.inj there ▸ isNamed)
    simp [found, apart]

/-- Choosing an alias that no other table has assigns it, choosing one that another table has by
choice registers the named table, and any other holder moves on. -/
theorem setAlias_cases (t : AliasTable) (name aliasName : String) :
    (t.holder? name aliasName = none ∧ t.setAlias name aliasName = t.assign name aliasName) ∨
      (∃ i e, t.holder? name aliasName = some (i, e) ∧ e.explicit = true ∧
        t.setAlias name aliasName = t.register name) ∨
      ∃ i e, t.holder? name aliasName = some (i, e) ∧ e.explicit = false ∧
        t.setAlias name aliasName = (t.assign name aliasName).renumber i := by
  cases held : t.holder? name aliasName with
  | none => exact .inl ⟨rfl, by simp [setAlias, held]⟩
  | some holder =>
    obtain ⟨i, e⟩ := holder
    cases chosen : e.explicit with
    | true => exact .inr (.inl ⟨i, e, rfl, chosen, by simp [setAlias, held, chosen]⟩)
    | false => exact .inr (.inr ⟨i, e, rfl, chosen, by simp [setAlias, held, chosen]⟩)

/-- Where no other table has the alias, one entry at most is relabelled. -/
theorem IsSound.entries_assign_of_unheld (sound : t.IsSound)
    (unheld : ∀ e ∈ t.entries, e.aliasName = aliasName → e.name = name) :
    (t.assign name aliasName).entries =
      t.entries.map (t.relabel name aliasName) ++ t.newcomers name aliasName := by
  rw [sound.entries_assign]
  congr 1
  refine List.map_congr_left fun e listed => ?_
  unfold relabel
  by_cases named : e.name = name
  · rw [if_pos named, if_pos named]
  · rw [if_neg named, if_neg named, if_neg fun holds => named (unheld e listed holds)]

/-- Where a table has the alias by its number, that one moves on to the next free number. -/
theorem IsSound.entries_renumber_assign (sound : t.IsSound) {i : Nat} {e : AliasEntry}
    (found : t.entries[i]? = some e) (other : e.name ≠ name) :
    ((t.assign name e.aliasName).renumber i).entries =
      t.entries.map (t.relabel name e.aliasName) ++ t.newcomers name e.aliasName := by
  have entries : (t.assign name e.aliasName).entries = _ := sound.entries_assign
  have names : ((t.assign name e.aliasName).entries.map AliasEntry.name).Nodup := by
    rw [entries]
    exact sound.nodup_names_append fun o => by split <;> rfl
  simp only [renumber]
  rw [modify_eq_map_of_nodup names (getElem?_assign_of_ne found other), entries, List.map_append,
    List.map_map]
  congr 1
  · refine List.map_congr_left fun o listed => ?_
    rw [Function.comp_apply]
    unfold relabel
    by_cases named : o.name = name
    · rw [if_pos named, if_pos named, if_neg fun same => other (same.symm.trans named)]
    · rw [if_neg named, if_neg named]
      have same : o.name = e.name ↔ o.aliasName = e.aliasName := by
        have member := List.mem_of_getElem? found
        constructor
        · intro same
          rw [sound.eq_of_name listed member same]
        · intro same
          rw [sound.eq_of_aliasName listed member same]
      simp only [same]
  · refine (List.map_congr_left fun o new => ?_).trans (List.map_id _)
    have named : o.name = name := by rw [(mem_newcomers new).1]
    exact if_neg fun same => other (same.symm.trans named)

/-- An alias that no other table has by choice goes to the named table, and the search for the next
number goes on behind the one that its holder moves to, if it had one. -/
theorem setAlias_of_not_isChosenByOther (sound : t.IsSound)
    (free : ¬t.IsChosenByOther name aliasName) :
    (t.setAlias name aliasName).entries =
        t.entries.map (t.relabel name aliasName) ++ t.newcomers name aliasName ∧
      ((∀ e ∈ t.entries, e.aliasName = aliasName → e.name = name) ∧
          (t.setAlias name aliasName).nextNumber = t.nextNumber ∨
        (t.setAlias name aliasName).nextNumber =
          (t.assign name aliasName).freeNumber + 1) := by
  obtain ⟨held, assigned⟩ | ⟨i, e, held, chosen, -⟩ | ⟨i, e, held, -, moved⟩ :=
    t.setAlias_cases name aliasName
  · have unheld : ∀ e ∈ t.entries, e.aliasName = aliasName → e.name = name := by
      rintro e listed rfl
      by_contra other
      rcases List.mem_iff_getElem?.1 listed with ⟨i, found⟩
      rw [sound.holder?_eq found other] at held
      cases held
    rw [assigned]
    exact ⟨sound.entries_assign_of_unheld unheld,
      .inl ⟨unheld, nextNumber_assign t name aliasName⟩⟩
  · obtain ⟨found, holds, other⟩ := mem_of_holder? held
    exact absurd ⟨e, List.mem_of_getElem? found, holds, other, chosen⟩ free
  · obtain ⟨found, rfl, other⟩ := mem_of_holder? held
    rw [moved]
    exact ⟨sound.entries_renumber_assign found other, .inr rfl⟩

/-- An entry gets the chosen alias, moves on to a free number or stays as it is. -/
theorem relabel_cases (t : AliasTable) (name aliasName : String) (e : AliasEntry) :
    (e.name = name ∧ t.relabel name aliasName e = { e with aliasName, explicit := true }) ∨
      (e.name ≠ name ∧ e.aliasName = aliasName ∧ t.relabel name aliasName e =
        { e with aliasName := numbered (t.assign name aliasName).freeNumber }) ∨
      (e.name ≠ name ∧ e.aliasName ≠ aliasName ∧ t.relabel name aliasName e = e) := by
  unfold relabel
  by_cases named : e.name = name
  · exact .inl ⟨named, if_pos named⟩
  · by_cases holds : e.aliasName = aliasName
    · exact .inr (.inl ⟨named, holds, by rw [if_neg named, if_pos holds]⟩)
    · exact .inr (.inr ⟨named, holds, by rw [if_neg named, if_neg holds]⟩)

theorem IsSound.ne_numbered (sound : t.IsSound) {other : String}
    (inUse : t.IsInUseOnce name aliasName other) :
    other ≠ numbered (t.assign name aliasName).freeNumber := by
  rintro rfl
  have taken := (sound.isTaken_assign _).2 inUse
  rw [isTaken_freeNumber] at taken
  cases taken

/-- Relabelling keeps the aliases of different entries apart. -/
theorem IsSound.relabel_injOn (sound : t.IsSound) {e o : AliasEntry} (listed : e ∈ t.entries)
    (otherListed : o ∈ t.entries)
    (same : (t.relabel name aliasName e).aliasName = (t.relabel name aliasName o).aliasName) :
    e = o := by
  rcases t.relabel_cases name aliasName e with
    ⟨named, after⟩ | ⟨other, held, after⟩ | ⟨other, kept, after⟩
    <;> rcases t.relabel_cases name aliasName o with
      ⟨oNamed, oAfter⟩ | ⟨oOther, oHeld, oAfter⟩ | ⟨oOther, oKept, oAfter⟩
    <;> rw [after, oAfter] at same
  · exact sound.eq_of_name listed otherListed (named.trans oNamed.symm)
  · exact absurd same (sound.ne_numbered (.inl rfl))
  · exact absurd same.symm oKept
  · exact absurd same.symm (sound.ne_numbered (.inl rfl))
  · exact sound.eq_of_aliasName listed otherListed (held.trans oHeld.symm)
  · exact absurd same.symm (sound.ne_numbered (.inr ⟨o, otherListed, oOther, rfl⟩))
  · exact absurd same kept
  · exact absurd same (sound.ne_numbered (.inr ⟨e, listed, other, rfl⟩))
  · exact sound.eq_of_aliasName listed otherListed same

/-- Choosing an alias keeps the table sound. -/
theorem IsSound.setAlias (sound : t.IsSound) (name aliasName : String) :
    (t.setAlias name aliasName).IsSound := by
  by_cases chosen : t.IsChosenByOther name aliasName
  · rw [setAlias_of_isChosenByOther sound chosen]
    exact sound.register name
  rcases setAlias_of_not_isChosenByOther sound chosen with ⟨entries, number⟩
  refine ⟨?_, ?_, ?_⟩
  · rw [entries]
    exact sound.nodup_names_append (name_relabel t name aliasName)
  · rw [entries, List.map_append, List.map_map]
    refine List.nodup_append.2 ⟨?_, ?_, ?_⟩
    · refine (List.nodup_map_iff_inj_on (List.Nodup.of_map _ sound.names)).2 ?_
      exact fun e listed o otherListed same => sound.relabel_injOn listed otherListed same
    · unfold newcomers
      split <;> simp
    · intro old isOld new isNew
      rcases List.mem_map.1 isOld with ⟨e, listed, rfl⟩
      rcases List.mem_map.1 isNew with ⟨o, added, rfl⟩
      rcases mem_newcomers added with ⟨rfl, unknown⟩
      rcases t.relabel_cases name aliasName e with ⟨named, -⟩ | ⟨-, -, eq⟩ | ⟨-, holds, eq⟩
      · exact absurd named (unknown e listed)
      · rw [Function.comp_apply, eq]
        exact (sound.ne_numbered (.inl rfl)).symm
      · rw [Function.comp_apply, eq]
        exact holds
  · have further : t.nextNumber ≤ (t.setAlias name aliasName).nextNumber := by
      have notBelow := (t.assign name aliasName).le_freeNumber
      rw [nextNumber_assign] at notBelow
      rcases number with ⟨-, number⟩ | number
      · omega
      · rw [number]
        exact Nat.le_succ_of_le notBelow
    rw [entries]
    intro e listed automatic
    rcases List.mem_append.1 listed with old | new
    · rcases List.mem_map.1 old with ⟨e, inside, rfl⟩
      rcases t.relabel_cases name aliasName e with ⟨-, eq⟩ | ⟨other, holds, eq⟩ | ⟨-, -, eq⟩
        <;> rw [eq] at automatic ⊢
      · cases automatic
      · rcases number with ⟨unheld, -⟩ | number
        · exact absurd (unheld e inside holds) other
        · exact ⟨_, by rw [number]; exact Nat.lt_succ_self _, rfl⟩
      · rcases sound.automatic e inside automatic with ⟨n, below, numbered⟩
        exact ⟨n, by omega, numbered⟩
    · rw [(mem_newcomers new).1] at automatic
      cases automatic

/-! ## Runs -/

/-- The alias of the table, which is registered if it is unknown. -/
def aliasFor (t : AliasTable) (name : String) : AliasTable × String :=
  let after := t.register name
  (after, (after.lookup? name).getD "")

/-- A call that changes an alias table. -/
inductive Change
  | register (name : String)
  | aliasFor (name : String)
  | setAlias (name aliasName : String)
  | reference (table : Nat)
  | clearReferences

namespace Change

/-- The alias table after the call. -/
def apply (t : AliasTable) : Change → AliasTable
  | .register name => t.register name
  | .aliasFor name => (t.aliasFor name).1
  | .setAlias name aliasName => t.setAlias name aliasName
  | .reference table => t.reference table
  | .clearReferences => t.clearReferences

/-- The table that the call mentions by its name. -/
def table? : Change → Option String
  | .register name => some name
  | .aliasFor name => some name
  | .setAlias name _ => some name
  | .reference _ => none
  | .clearReferences => none

end Change

/-- A new alias table after several calls. -/
def run (changes : List Change) : AliasTable := changes.foldl Change.apply {}

theorem run_append_singleton (changes : List Change) (c : Change) :
    run (changes ++ [c]) = c.apply (run changes) := by
  simp [run]

/-- Every change keeps the table sound. -/
theorem IsSound.apply {t : AliasTable} (sound : t.IsSound) (c : Change) : (c.apply t).IsSound := by
  cases c with
  | register name => exact sound.register name
  | aliasFor name => exact sound.register name
  | setAlias name aliasName => exact sound.setAlias name aliasName
  | reference table => exact sound.of_isRecount (t.isRecount_reference table)
  | clearReferences => exact sound.of_isRecount (t.isRecount_withReferences _)

/-- By induction on the changes, every table that is built by them is sound. -/
theorem isSound_run (changes : List Change) : (run changes).IsSound := by
  induction changes using List.reverseRecOn with
  | nil => exact ⟨List.nodup_nil, List.nodup_nil, by simp [run]⟩
  | append_singleton changes c ih =>
    rw [run_append_singleton]
    exact ih.apply c

/-! ## Order -/

theorem removeAll_names_of_known {t : AliasTable} {name : String}
    (known : ∃ e ∈ t.entries, e.name = name) :
    [name].removeAll (t.entries.map AliasEntry.name) = [] := by
  simpa [List.removeAll] using known

theorem removeAll_names_of_unknown {t : AliasTable} {name : String}
    (unknown : ∀ e ∈ t.entries, e.name ≠ name) :
    [name].removeAll (t.entries.map AliasEntry.name) = [name] := by
  simpa [List.removeAll] using unknown

theorem names_register (t : AliasTable) (name : String) :
    (t.register name).entries.map AliasEntry.name =
      t.entries.map AliasEntry.name ++ [name].removeAll (t.entries.map AliasEntry.name) := by
  rcases t.register_cases name with ⟨known, same⟩ | ⟨unknown, entries, -⟩
  · rw [same, removeAll_names_of_known known, List.append_nil]
  · rw [entries, removeAll_names_of_unknown unknown, List.map_append]
    rfl

theorem mem_names_register (t : AliasTable) (name : String) :
    name ∈ (t.register name).entries.map AliasEntry.name := by
  rw [names_register]
  by_cases known : name ∈ t.entries.map AliasEntry.name
  · exact List.mem_append_left _ known
  · exact List.mem_append_right _ (by simpa [List.removeAll] using known)

/-- Choosing an alias adds the name at the end, if it is new. -/
theorem IsSound.names_setAlias {t : AliasTable} (sound : t.IsSound) (name aliasName : String) :
    (t.setAlias name aliasName).entries.map AliasEntry.name =
      t.entries.map AliasEntry.name ++ [name].removeAll (t.entries.map AliasEntry.name) := by
  by_cases chosen : t.IsChosenByOther name aliasName
  · rw [setAlias_of_isChosenByOther sound chosen, names_register]
  rw [(setAlias_of_not_isChosenByOther sound chosen).1, List.map_append, List.map_map]
  congr 1
  · exact List.map_congr_left fun e _ => name_relabel t name aliasName e
  · unfold newcomers
    by_cases known : ∃ e ∈ t.entries, e.name = name
    · rw [if_pos known, removeAll_names_of_known known]
      rfl
    · rw [if_neg known, removeAll_names_of_unknown (by simpa using known)]
      rfl

/-- A call leaves the tables in their places, and puts the one it mentions behind them if it is
new. -/
theorem IsSound.names_apply {t : AliasTable} (sound : t.IsSound) (c : Change) :
    (c.apply t).entries.map AliasEntry.name =
      t.entries.map AliasEntry.name ++
        c.table?.toList.removeAll (t.entries.map AliasEntry.name) := by
  cases c with
  | register name => exact t.names_register name
  | aliasFor name => exact t.names_register name
  | setAlias name aliasName => exact sound.names_setAlias name aliasName
  | reference table =>
    have kept := (t.isRecount_reference table).map_eq AliasEntry.name fun _ => rfl
    simpa [Change.apply, Change.table?, List.removeAll] using kept
  | clearReferences =>
    simp [Change.apply, clearReferences, Change.table?, List.removeAll]

theorem removeAll_eraseDups (name : Option String) (seen : List String) :
    name.toList.removeAll seen.eraseDups = (name.toList.removeAll seen).eraseDups := by
  cases name with
  | none => simp [List.removeAll]
  | some name => by_cases known : name ∈ seen <;> simp [List.removeAll, List.eraseDups_cons, known]

/-- The tables stand in the order in which they were first mentioned. -/
theorem names_run (changes : List Change) :
    (run changes).entries.map AliasEntry.name = (changes.filterMap Change.table?).eraseDups := by
  induction changes using List.reverseRecOn with
  | nil => rfl
  | append_singleton changes c ih =>
    have mentioned : [c].filterMap Change.table? = c.table?.toList := by
      rw [List.filterMap_eq_flatMap_toList, List.flatMap_singleton]
    rw [run_append_singleton, (isSound_run changes).names_apply c, ih, List.filterMap_append,
      List.eraseDups_append, mentioned, removeAll_eraseDups]

/-- The aliases are the first numbers, and no other was handed out. -/
structure IsConsecutive (t : AliasTable) : Prop where
  aliases : t.entries.map AliasEntry.aliasName = (List.range t.entries.length).map numbered
  number : t.nextNumber = t.entries.length

/-- As long as no alias is chosen, the next table gets the number of its place. -/
theorem IsConsecutive.register {t : AliasTable} (consecutive : t.IsConsecutive) (name : String) :
    (t.register name).IsConsecutive := by
  rcases t.register_cases name with ⟨-, same⟩ | ⟨-, entries, number⟩
  · rw [same]
    exact consecutive
  · have untaken : t.isTaken (numbered t.nextNumber) = false := by
      rw [Bool.eq_false_iff]
      intro taken
      rcases isTaken_eq_true_iff.1 taken with ⟨e, listed, holds⟩
      have member := List.mem_map_of_mem (f := AliasEntry.aliasName) listed
      rw [consecutive.aliases, holds, consecutive.number] at member
      rcases List.mem_map.1 member with ⟨k, below, same⟩
      have equal := numbered_injective same
      have bound := List.mem_range.1 below
      omega
    have next : t.freeNumber = t.entries.length := by
      rw [← consecutive.number]
      exact t.isLeast_freeNumber.unique ⟨⟨le_refl _, untaken⟩, fun _ candidate => candidate.1⟩
    refine ⟨?_, ?_⟩
    · rw [entries, List.map_append, consecutive.aliases, next, List.length_append,
        List.length_singleton, List.range_succ, List.map_append]
      rfl
    · rw [number, entries, next, List.length_append, List.length_singleton]

theorem IsConsecutive.of_isRecount {t counted : AliasTable} (consecutive : t.IsConsecutive)
    (recount : t.IsRecount counted) : counted.IsConsecutive := by
  have length : counted.entries.length = t.entries.length := by
    simpa only [List.length_map] using congrArg List.length recount.entries
  refine ⟨?_, by rw [recount.nextNumber, length, consecutive.number]⟩
  rw [length, ← consecutive.aliases, recount.map_eq AliasEntry.aliasName fun _ => rfl]

/-- As long as nobody chooses an alias, the tables are numbered in their order. -/
theorem isConsecutive_run {changes : List Change}
    (unchosen : ∀ c ∈ changes, ∀ name aliasName, c ≠ .setAlias name aliasName) :
    (run changes).IsConsecutive := by
  induction changes using List.reverseRecOn with
  | nil => exact ⟨rfl, rfl⟩
  | append_singleton changes c ih =>
    have before := ih fun c member => unchosen c (List.mem_append_left _ member)
    rw [run_append_singleton]
    cases c with
    | register name => exact before.register name
    | aliasFor name => exact before.register name
    | setAlias name aliasName =>
      exact absurd rfl (unchosen _ (List.mem_append_right _ (List.mem_singleton_self _)) name _)
    | reference table => exact before.of_isRecount (isRecount_reference _ table)
    | clearReferences => exact before.of_isRecount (isRecount_withReferences _ _)

theorem IsConsecutive.aliasName_eq {t : AliasTable} (consecutive : t.IsConsecutive) {k : Nat}
    {e : AliasEntry} (found : t.entries[k]? = some e) : e.aliasName = numbered k := by
  have inside := (List.getElem?_eq_some_iff.1 found).1
  have here : (t.entries.map AliasEntry.aliasName)[k]? = some e.aliasName := by
    rw [List.getElem?_map, found, Option.map_some]
  rw [consecutive.aliases, List.getElem?_map, List.getElem?_range inside, Option.map_some] at here
  exact (Option.some.inj here).symm

/-- After any calls on a new alias table, its tables stand in the order in which they were first
mentioned and are told apart by their names and by their aliases, so that looking up the name or the
alias of one leads back to it.  If no alias was chosen, the aliases are numbers in that order. -/
theorem distinct_run (changes : List Change) :
    (run changes).entries.map AliasEntry.name = (changes.filterMap Change.table?).eraseDups ∧
      (run changes).IsSound ∧
      (∀ i e, (run changes).entries[i]? = some e →
        (run changes).find? e.name = some i ∧ (run changes).findByAlias? e.aliasName = some i ∧
          (run changes).lookup? e.name = some e.aliasName) ∧
      ((∀ c ∈ changes, ∀ name aliasName, c ≠ .setAlias name aliasName) →
        ∀ k name, (changes.filterMap Change.table?).eraseDups[k]? = some name →
          (run changes).lookup? name = some (numbered k)) := by
  have sound := isSound_run changes
  refine ⟨names_run changes, sound, ?_, ?_⟩
  · intro i e found
    exact ⟨sound.find?_eq found, sound.findByAlias?_eq found,
      sound.lookup?_eq (List.mem_of_getElem? found)⟩
  · intro unchosen k name seen
    rw [← names_run changes, List.getElem?_map] at seen
    rcases Option.map_eq_some_iff.1 seen with ⟨e, found, rfl⟩
    rw [sound.lookup?_eq (List.mem_of_getElem? found),
      (isConsecutive_run unchosen).aliasName_eq found]

/-- Calls that mention tables more than once and count references between. -/
def mentions : List Change :=
  [.register "users", .aliasFor "T0", .register "users", .reference 1, .aliasFor "posts",
    .clearReferences, .register "T1", .aliasFor "posts"]

theorem distinct_run_mentions :
    (∀ c ∈ mentions, ∀ name aliasName, c ≠ .setAlias name aliasName) ∧
      (run mentions).lookup? "T1" = some (numbered 3) := by
  have unchosen : ∀ c ∈ mentions, ∀ name aliasName, c ≠ .setAlias name aliasName := by
    simp [mentions]
  exact ⟨unchosen, (distinct_run mentions).2.2.2 unchosen 3 "T1" (by decide)⟩

end SqlQuery.AliasTable
