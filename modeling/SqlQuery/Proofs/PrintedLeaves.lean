import Mathlib.Algebra.GroupWithZero.Nat
import SqlQuery.Proofs.NamedTables
import SqlQuery.Proofs.NestedConditions
import SqlQuery.Proofs.Survival

/-!
What a group of conditions prints.

`Condition.IsPrinted` says of a condition that holds no others whether it is printed: an expression
has to say something, and a comparison needs a field and something to compare it with
(`Operand.Suffices`).  `Scope.printed` is what such a condition prints.  Neither the scope nor the
escaper nor the choices of the group have a say in the former, and `Scope.group?_survivors` shows
that a group prints the conditions of the former kind as the latter, in order and nothing else.
-/

namespace SqlQuery

/-! ## Which conditions are printed -/

/-- The condition is printed, if it holds no others: an expression that is not blank, or a
comparison of a field with something. -/
inductive Condition.IsPrinted : Condition → Prop
  | raw {sql : String} (present : Text.trim sql ≠ "") : IsPrinted (.raw sql)
  | compare {field : String} {c : Option Comparison} {operand : Operand} (named : field ≠ "")
    (enough : operand.Suffices c) : IsPrinted (.compare field c operand)

namespace Condition

/-- A condition that holds no others survives exactly if it is printed. -/
theorem survives_iff {c : Condition} (leaf : c.isLeaf = true) :
    c.survives = true ↔ c.IsPrinted := by
  cases c with
  | table => cases leaf
  | raw sql =>
    have present : Text.trim sql ≠ "" ↔ (Text.trimChars sql.toList).isEmpty = false := by
      simp [Text.trim, String.ofList_eq_empty_iff]
    rw [survives, Bool.not_eq_true', ← present]
    exact ⟨.raw, fun | .raw present => present⟩
  | compare field comparison operand =>
    have named : field ≠ "" ↔ field.isEmpty = false := by simp
    rw [survives, Bool.and_eq_true, Bool.not_eq_true', ← named, Operand.isUsable_iff]
    exact ⟨fun ⟨named, enough⟩ => .compare named enough,
      fun | .compare named enough => ⟨named, enough⟩⟩

theorem not_isPrinted_table (name : String) (conditions : List Condition) :
    ¬IsPrinted (.table name conditions) := nofun

instance : DecidablePred IsPrinted := fun c =>
  match c with
  | .table name conditions => .isFalse (not_isPrinted_table name conditions)
  | .raw sql => decidable_of_iff _ (survives_iff (c := .raw sql) rfl)
  | .compare field comparison operand =>
    decidable_of_iff _ (survives_iff (c := .compare field comparison operand) rfl)

end Condition

/-! ## What they print -/

/-- The text of a value in a comparison.  Null has none. -/
def Value.operandText (escaper : Escaper) (quoted : Bool) (v : Value) : String :=
  ((v.literal? escaper).map (·.write quoted)).getD ""

theorem Value.exists_literal? (escaper : Escaper) {v : Value} (present : v ≠ .null) :
    ∃ literal, v.literal? escaper = some literal :=
  Option.ne_none_iff_exists'.1 (mt literal?_eq_none_iff.1 present)

namespace Operand

/-- The text of the operand of a comparison: the bounds of a range, the entries of a list that are
neither null nor the empty text, or a single value as that comparison takes it. -/
def text (escaper : Escaper) (quoted : Bool) (c : Option Comparison) : Operand → String
  | .list vs =>
    if (Comparison.ofList c).isRange then
      " AND ".intercalate ((vs.take 2).map (·.operandText escaper quoted))
    else
      let entries := vs.filter fun v => v ≠ .null ∧ v ≠ .text ""
      "(" ++ ",".intercalate (entries.map (·.operandText escaper quoted)) ++ ")"
  | .single v => (single? escaper quoted (c.getD .equal) v).getD ""

/-- The comparison that is made with the operand: with a list for membership where one value would
ask for equality. -/
def made (c : Option Comparison) : Operand → Comparison
  | .list _ => Comparison.ofList c
  | .single _ => c.getD .equal

/-- What stands behind the field of a comparison: the comparison, and the operand unless the
comparison needs none. -/
def behindField (escaper : Escaper) (quoted : Bool) (c : Option Comparison) (operand : Operand) :
    String :=
  if (operand.made c).isNullCheck then (operand.made c).keyword
  else (operand.made c).keyword ++ " " ++ operand.text escaper quoted c

/-- A test for null is made whatever the operand is. -/
theorem made_of_isNullCheck {c : Comparison} (check : c.isNullCheck = true) (operand : Operand) :
    operand.made (some c) = c := by
  cases operand <;> cases c <;> first | rfl | cases check

/-- Whether a comparison is a test for null is decided before the operand is looked at. -/
theorem isNullCheck_made (c : Option Comparison) (operand : Operand) :
    (operand.made c).isNullCheck = c.any (·.isNullCheck) := by
  rcases c with _ | c
  · cases operand <;> rfl
  · cases operand <;> cases c <;> rfl

/-- Two bounds that are not null make a range, whatever values follow them. -/
theorem range?_eq_some {lower upper : Value} (escaper : Escaper) (quoted : Bool)
    (low : lower ≠ .null) (high : upper ≠ .null) (others : List Value) :
    range? escaper quoted (lower :: upper :: others) =
      some (lower.operandText escaper quoted ++ " AND " ++ upper.operandText escaper quoted) := by
  obtain ⟨lowLiteral, lowWritten⟩ := Value.exists_literal? escaper low
  obtain ⟨highLiteral, highWritten⟩ := Value.exists_literal? escaper high
  simp [range?, Value.operandText, lowWritten, highWritten]

/-- One value with content is enough for a list, which has all such values in order. -/
theorem membership?_eq_some {vs : List Value} (escaper : Escaper) (quoted : Bool) {v : Value}
    (member : v ∈ vs) (present : v ≠ .null ∧ v ≠ .text "") :
    membership? escaper quoted vs =
      some ("(" ++ ",".intercalate ((vs.filter fun v => v ≠ .null ∧ v ≠ .text "").map
        (·.operandText escaper quoted)) ++ ")") := by
  have entries : vs.filter (fun v => v ≠ .null ∧ v ≠ .text "") = vs.filter (!·.isBlank) := by
    apply List.filter_congr
    intro w _
    rw [Bool.eq_iff_iff, decide_eq_true_iff, Bool.not_eq_true', Value.isBlank_eq_false_iff]
  have some := isSome_membership? escaper quoted vs
  rw [List.any_eq_true.2 ⟨v, member, by simpa [Value.isBlank_eq_false_iff] using present⟩] at some
  have texts := map_filterMap_literal? escaper (·.write quoted) (isNull_of_mem_filter vs)
  rw [entries]
  unfold Value.operandText
  rw [← texts]
  unfold membership? at some ⊢
  split at some
  case h_1 => cases some
  case h_2 => rfl

/-- A comparison with something is printed as the comparison and what it compares with. -/
theorem predicate?_of_suffices {c : Option Comparison} {operand : Operand} (escaper : Escaper)
    (quoted : Bool) (enough : operand.Suffices c) :
    operand.predicate? escaper quoted c = some (operand.behindField escaper quoted c) := by
  unfold predicate? behindField
  rw [isNullCheck_made]
  by_cases check : c.any (·.isNullCheck) = true
  · rw [if_pos check, if_pos check]
    cases c with
    | none => cases check
    | some c => rw [made_of_isNullCheck check, Option.map_some]
  · rw [if_neg check, if_neg check]
    cases enough with
    | nullCheck check' => exact absurd (Comparison.any_isNullCheck_iff.2 check') check
    | range range low high others =>
      have isRange := Comparison.isRange_ofList_iff.2 range
      simp [made, text, isRange, range?_eq_some escaper quoted low high]
    | list other member present =>
      have notRange := mt Comparison.isRange_ofList_iff.1 other
      simp only [made, text, notRange, membership?_eq_some escaper quoted member present]
      rfl
    | @single other v present =>
      have some := isSome_single? escaper quoted (c.getD .equal) v
      have notRange : (c.getD .equal).isRange = false := by
        rw [← Bool.not_eq_true, Comparison.isRange_getD_iff]
        exact other
      rw [notRange, Value.isNull_eq_false_iff.2 present] at some
      obtain ⟨written, written_eq⟩ := Option.isSome_iff_exists.1 some
      simp [made, text, written_eq]

/-- An operand that does not suffice makes no predicate. -/
theorem predicate?_of_not_suffices {c : Option Comparison} {operand : Operand}
    (escaper : Escaper) (quoted : Bool) (lacks : ¬operand.Suffices c) :
    operand.predicate? escaper quoted c = none := by
  rw [← isUsable_iff, ← isSome_predicate? escaper quoted, Bool.not_eq_true,
    Option.isSome_eq_false_iff, Option.isNone_iff_eq_none] at lacks
  exact lacks

end Operand

namespace Scope

variable (s : Scope) (escaper : Escaper)

/-- What a condition that holds no others prints: an expression as it stands, and a comparison as
its field, which belongs to the table of the choices unless it names its own, and what it is
compared with. -/
def printed (o : GroupOptions) : Condition → Fragment
  | .raw sql => [.text sql]
  | .compare field c operand =>
    s.key o.table field ++ [.text (" " ++ operand.behindField escaper (!o.unquoted) c)]
  | .table _ _ => []

theorem predicate?_raw (o : GroupOptions) (sql : String) :
    s.predicate? escaper (.raw sql) =
      if Condition.IsPrinted (.raw sql) then some (s.printed escaper o (.raw sql)) else none := by
  have kept := Condition.survives_iff (c := .raw sql) rfl
  rw [Condition.survives, Bool.not_eq_true'] at kept
  rw [predicate?]
  by_cases blank : (Text.trimChars sql.toList).isEmpty = true
  · rw [if_pos blank, if_neg (by simp [← kept, blank])]
  · rw [if_neg blank, if_pos (by simpa [← kept] using blank)]
    rfl

/-- A comparison is printed with its key and its operand, or not at all. -/
theorem predicate?_compare (o : GroupOptions) (field : String) (c : Option Comparison)
    (operand : Operand) :
    s.predicate? escaper (.compare o.table (!o.unquoted) field c operand) =
      if Condition.IsPrinted (.compare field c operand) then
        some (s.printed escaper o (.compare field c operand))
      else none := by
  rw [predicate?]
  by_cases unnamed : field = ""
  · have dropped : ¬Condition.IsPrinted (.compare field c operand) :=
      fun | .compare named _ => named unnamed
    rw [if_pos (by simp [unnamed]), if_neg dropped]
  · rw [if_neg (by simp [unnamed])]
    by_cases enough : operand.Suffices c
    · rw [Operand.predicate?_of_suffices escaper _ enough, if_pos (.compare unnamed enough)]
      rfl
    · have dropped : ¬Condition.IsPrinted (.compare field c operand) :=
        fun | .compare _ enough' => enough enough'
      rw [Operand.predicate?_of_not_suffices escaper _ enough, if_neg dropped]
      rfl

theorem predicates_of_leaves {g : ConditionGroup} {leaf : Leaf}
    (alone : g.leaves s.resolves = [leaf]) :
    s.predicates escaper g = (s.predicate? escaper leaf).toList := by
  rw [predicates, alone]
  cases kept : s.predicate? escaper leaf <;> simp [kept]

/-- A condition that holds no others prints one fragment, or none at all. -/
theorem predicates_singleton {c : Condition} (leaf : c.isLeaf = true) (o : GroupOptions) :
    s.predicates escaper ⟨[c], o⟩ = if c.IsPrinted then [s.printed escaper o c] else [] := by
  cases c with
  | table => cases leaf
  | raw sql =>
    rw [predicates_of_leaves s escaper rfl, predicate?_raw s escaper o]
    split <;> rfl
  | compare field c operand =>
    rw [predicates_of_leaves s escaper rfl, predicate?_compare]
    split <;> rfl

end Scope

/-- The conditions of a group that hold no others and are printed, in order, each in its place. -/
def ConditionGroup.survivors (g : ConditionGroup) : List PlacedCondition :=
  g.placed.filter (·.condition.IsPrinted)

namespace Fragment

theorem grouped?_eq_none_iff {separator : String} {fs : List Fragment} :
    grouped? separator fs = none ↔ fs = [] := by
  cases fs <;> simp [grouped?]

/-- A group refers to a table as often as its parts. -/
theorem references_of_grouped? {separator : String} {fs : List Fragment} {f : Fragment}
    (grouped : grouped? separator fs = some f) (table : Nat) :
    f.references table = (fs.map (·.references table)).sum := by
  cases fs with
  | nil => cases grouped
  | cons g gs =>
    obtain rfl := Option.some.inj grouped
    rw [List.cons_append, references_cons, references_append, references_separated]
    simp [references, List.count_flatten]

end Fragment

namespace Scope

variable (s : Scope) (escaper : Escaper) (g : ConditionGroup)

/-- What a condition of a group prints in its place. -/
def printedAt (p : PlacedCondition) : Fragment :=
  s.printed escaper (s.optionsAt g.options p.tables) p.condition

/-- The predicates of a group are those of its survivors, in order. -/
theorem predicates_eq_map_survivors :
    s.predicates escaper g = g.survivors.map (s.printedAt escaper g) := by
  have flat := predicates_eq_flatMap_placed s escaper g.options g.conditions
  rw [flat]
  unfold ConditionGroup.survivors ConditionGroup.placed
  induction Condition.placedOfAll [] g.conditions with
  | nil => rfl
  | cons p ps ih =>
    rw [List.flatMap_cons, ih, predicates_singleton s escaper p.isLeaf, List.filter_cons]
    by_cases kept : p.condition.IsPrinted <;> simp [kept, printedAt]

/-- A group prints the conditions in it that hold no others and are printed, once each and in order,
combined by its relation and in parentheses, and is left out if there are none.  Every other
condition leaves no trace: the tables that the group refers to are those that the printed ones refer
to, as often as they do. -/
theorem group?_survivors :
    s.group? escaper g =
      Fragment.grouped? g.options.relation.separator
        (g.survivors.map (s.printedAt escaper g)) ∧
    (s.group? escaper g = none ↔ ∀ p ∈ g.placed, ¬p.condition.IsPrinted) ∧
    ∀ f, s.group? escaper g = some f → ∀ table,
      f.references table =
        (g.survivors.map fun p => (s.printedAt escaper g p).references table).sum := by
  have group := group?_eq_grouped? s escaper g
  rw [predicates_eq_map_survivors] at group
  refine ⟨group, ?_, ?_⟩
  · rw [group, Fragment.grouped?_eq_none_iff, List.map_eq_nil_iff]
    simp [ConditionGroup.survivors]
  · intro f printed table
    rw [group] at printed
    rw [Fragment.references_of_grouped? printed, List.map_map]
    rfl

/-- A group in which a comparison with null, an expression without text and a range without bounds
are dropped, and two conditions on different tables are printed. -/
def assortedConditions : ConditionGroup where
  conditions :=
    [.equal "posts.id" .null,
      .table "users" [.isIn "status" [.null, .text "", .text "a", .bool true], .raw " "],
      .table "ghosts" [.between "posts.age" .null (.integer 3), .isNull "name"]]
  options := { relation := .or, table := some "posts" }

/-- Conditions that are dropped bring in no table. -/
theorem group?_survivors_assorted :
    assortedConditions.survivors.map PlacedCondition.tables = [["users"], ["ghosts"]] ∧
      ∃ f, usersAndPosts.group? .mysql assortedConditions = some f ∧
        f.fill usersAndPosts.qualifierOf = "(T0.status IN (a,1) OR name IS NULL)" ∧
        f.references 0 = 1 ∧ f.references 1 = 0 := by
  obtain ⟨-, leftOut, references⟩ := group?_survivors usersAndPosts .mysql assortedConditions
  have present : usersAndPosts.group? .mysql assortedConditions ≠ none := by
    rw [ne_eq, leftOut]
    decide +kernel
  obtain ⟨f, printed⟩ := Option.ne_none_iff_exists'.1 present
  have text : (usersAndPosts.group? .mysql assortedConditions).map
      (·.fill usersAndPosts.qualifierOf) =
        some "(T0.status IN (a,1) OR name IS NULL)" := by
    decide +kernel
  rw [printed, Option.map_some, Option.some.injEq] at text
  refine ⟨by decide +kernel, f, printed, text, ?_, ?_⟩
  · rw [references f printed]
    decide +kernel
  · rw [references f printed]
    decide +kernel

end Scope

end SqlQuery
