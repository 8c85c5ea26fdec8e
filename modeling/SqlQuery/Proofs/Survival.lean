import SqlQuery.Statement

/-!
Which conditions survive in a statement.

Compiling drops a condition that has nothing to compare with.  What there has to be is computed by
`Operand.isUsable` and told case by case by `Operand.Suffices`, which are the same
(`Operand.isUsable_iff`).  `Condition.survives` says which conditions stay without looking at a
scope or an escaper, and `Scope.isSome_predicate?` shows that compiling agrees, whatever those are.
Whether a group is written, and with it whether an upsert changes rows or adds them, is therefore
settled by the conditions (`Draft.isEmpty_whereGroups`).
-/

namespace SqlQuery

/-! ## Operands -/

/-- There is something to compare a field with: no operand is needed, or both bounds of a range are
given, or a list has a value that is not blank, or a single value is not null. -/
def Operand.isUsable (comparison : Option Comparison) (operand : Operand) : Bool :=
  if comparison.any (·.isNullCheck) then true
  else
    match operand with
    | .list vs =>
      if (Comparison.ofList comparison).isRange then
        match vs with
        | lower :: upper :: _ => !lower.isNull && !upper.isNull
        | _ => false
      else vs.any (!·.isBlank)
    | .single v => !(comparison.getD .equal).isRange && !v.isNull

/-- There is something to compare a field with, told by the kinds of comparison and operand. -/
inductive Operand.Suffices (c : Option Comparison) : Operand → Prop
  | nullCheck (check : c = some .isNull ∨ c = some .isNotNull) (operand : Operand) :
    Suffices c operand
  | range (range : c = some .between ∨ c = some .notBetween) {lower upper : Value}
    (low : lower ≠ .null) (high : upper ≠ .null) (others : List Value) :
    Suffices c (.list (lower :: upper :: others))
  | list (other : ¬(c = some .between ∨ c = some .notBetween)) {vs : List Value} {v : Value}
    (member : v ∈ vs) (present : v ≠ .null ∧ v ≠ .text "") : Suffices c (.list vs)
  | single (other : ¬(c = some .between ∨ c = some .notBetween)) {v : Value}
    (present : v ≠ .null) : Suffices c (.single v)

namespace Comparison

theorem any_isNullCheck_iff {c : Option Comparison} :
    c.any (·.isNullCheck) = true ↔ c = some .isNull ∨ c = some .isNotNull := by
  rcases c with _ | c
  · simp
  · cases c <;> simp [isNullCheck]

theorem isRange_ofList_iff {c : Option Comparison} :
    (ofList c).isRange = true ↔ c = some .between ∨ c = some .notBetween := by
  rcases c with _ | c
  · simp [ofList, isRange]
  · cases c <;> simp [ofList, isRange]

theorem isRange_getD_iff {c : Option Comparison} :
    (c.getD .equal).isRange = true ↔ c = some .between ∨ c = some .notBetween := by
  rcases c with _ | c
  · simp [isRange]
  · cases c <;> simp [isRange]

end Comparison

namespace Value

theorem isNull_eq_false_iff {v : Value} : v.isNull = false ↔ v ≠ .null := by
  cases v <;> simp [isNull]

theorem isBlank_eq_false_iff {v : Value} : v.isBlank = false ↔ v ≠ .null ∧ v ≠ .text "" := by
  cases v <;> simp [isBlank]

end Value

namespace Operand

section Suffices

variable {c : Option Comparison} (compares : ¬(c = some .isNull ∨ c = some .isNotNull))

include compares

/-- One value suffices unless it is null or a range is asked for. -/
theorem suffices_single_iff {v : Value} :
    Suffices c (.single v) ↔ ¬(c = some .between ∨ c = some .notBetween) ∧ v ≠ .null := by
  constructor
  · rintro (check | _ | _ | ⟨other, present⟩)
    · exact absurd check compares
    · exact ⟨other, present⟩
  · rintro ⟨other, present⟩
    exact .single other present

/-- A range needs two bounds, neither of them null, and may have values behind them. -/
theorem suffices_bounds_iff (range : c = some .between ∨ c = some .notBetween) {vs : List Value} :
    Suffices c (.list vs) ↔
      ∃ lower upper others, vs = lower :: upper :: others ∧ lower ≠ .null ∧ upper ≠ .null := by
  constructor
  · rintro (check | ⟨-, low, high, others⟩ | ⟨other, -, -⟩ | _)
    · exact absurd check compares
    · exact ⟨_, _, others, rfl, low, high⟩
    · exact absurd range other
  · rintro ⟨lower, upper, others, rfl, low, high⟩
    exact .range range low high others

/-- A list needs one value with content. -/
theorem suffices_list_iff (other : ¬(c = some .between ∨ c = some .notBetween))
    {vs : List Value} :
    Suffices c (.list vs) ↔ ∃ v ∈ vs, v ≠ .null ∧ v ≠ .text "" := by
  constructor
  · rintro (check | ⟨range, -, -, -⟩ | ⟨-, member, present⟩ | _)
    · exact absurd check compares
    · exact absurd range other
    · exact ⟨_, member, present⟩
  · rintro ⟨v, member, present⟩
    exact .list other member present

end Suffices

/-- The two say the same. -/
theorem isUsable_iff {c : Option Comparison} {operand : Operand} :
    operand.isUsable c = true ↔ operand.Suffices c := by
  unfold isUsable
  by_cases check : c.any (·.isNullCheck) = true
  · rw [if_pos check]
    exact ⟨fun _ => .nullCheck (Comparison.any_isNullCheck_iff.1 check) operand, fun _ => rfl⟩
  · rw [if_neg check]
    rw [Comparison.any_isNullCheck_iff] at check
    cases operand with
    | single v =>
      rw [suffices_single_iff check, ← Comparison.isRange_getD_iff, ← Value.isNull_eq_false_iff]
      simp
    | list vs =>
      dsimp only
      split
      case isTrue range =>
        rw [suffices_bounds_iff check (Comparison.isRange_ofList_iff.1 range)]
        rcases vs with _ | ⟨lower, _ | ⟨upper, others⟩⟩ <;>
          simp [← Value.isNull_eq_false_iff, and_assoc]
      case isFalse other =>
        rw [suffices_list_iff check (mt Comparison.isRange_ofList_iff.2 other)]
        simp [← Value.isBlank_eq_false_iff]

end Operand

namespace Value

theorem isSome_literal? (escaper : Escaper) (v : Value) :
    (v.literal? escaper).isSome = !v.isNull := by
  cases v <;> rfl

theorem isNull_of_isBlank_eq_false {v : Value} (present : v.isBlank = false) :
    v.isNull = false := by
  cases v <;> first | rfl | cases present

end Value

namespace Operand

/-- A range is written if its first two values are there and not null. -/
theorem isSome_range? (escaper : Escaper) (quoted : Bool) (vs : List Value) :
    (range? escaper quoted vs).isSome =
      match vs with
      | lower :: upper :: _ => !lower.isNull && !upper.isNull
      | _ => false := by
  rcases vs with _ | ⟨lower, _ | ⟨upper, rest⟩⟩
  · rfl
  · rfl
  · change (range? escaper quoted (lower :: upper :: rest)).isSome =
      (!lower.isNull && !upper.isNull)
    rw [← Value.isSome_literal? escaper lower, ← Value.isSome_literal? escaper upper]
    cases low : lower.literal? escaper <;> cases high : upper.literal? escaper <;>
      simp [range?, low, high]

theorem isNull_of_mem_filter (vs : List Value) :
    ∀ v ∈ vs.filter (!·.isBlank), v.isNull = false := by
  intro v member
  exact Value.isNull_of_isBlank_eq_false (by simpa using (List.mem_filter.1 member).2)

/-- Values that are not null are written one by one. -/
theorem map_filterMap_literal? {vs : List Value} (escaper : Escaper) (write : Literal → String)
    (present : ∀ v ∈ vs, v.isNull = false) :
    (vs.filterMap (·.literal? escaper)).map write =
      vs.map fun v => ((v.literal? escaper).map write).getD "" := by
  induction vs with
  | nil => rfl
  | cons v vs ih =>
    have rest := ih fun w member => present w (List.mem_cons_of_mem v member)
    have written := Value.isSome_literal? escaper v
    rw [present v List.mem_cons_self] at written
    obtain ⟨literal, written⟩ := Option.isSome_iff_exists.1 written
    rw [List.filterMap_cons_some written, List.map_cons, List.map_cons, rest, written]
    rfl

/-- A list is written if one of its values is not blank. -/
theorem isSome_membership? (escaper : Escaper) (quoted : Bool) (vs : List Value) :
    (membership? escaper quoted vs).isSome = vs.any (!·.isBlank) := by
  have present : ∀ v ∈ vs.filter (!·.isBlank), (v.literal? escaper).isSome = true := by
    intro v member
    rw [Value.isSome_literal?, isNull_of_mem_filter vs v member]
    rfl
  unfold membership?
  split
  case h_1 none =>
    rw [List.filterMap_eq_nil_iff] at none
    have empty : vs.filter (!·.isBlank) = [] := by
      rw [List.eq_nil_iff_forall_not_mem]
      intro v member
      have absent := none v member
      rw [← Option.not_isSome_iff_eq_none] at absent
      exact absent (present v member)
    simpa using empty
  case h_2 some =>
    have nonempty : vs.filter (!·.isBlank) ≠ [] := by
      intro empty
      rw [empty] at some
      exact some rfl
    obtain ⟨v, member⟩ := List.exists_mem_of_ne_nil _ nonempty
    have inside := List.mem_filter.1 member
    symm
    rw [Option.isSome_some, List.any_eq_true]
    exact ⟨v, inside.1, inside.2⟩

/-- One value is written unless it is null or a range is asked for. -/
theorem isSome_single? (escaper : Escaper) (quoted : Bool) (comparison : Comparison) (v : Value) :
    (single? escaper quoted comparison v).isSome = (!comparison.isRange && !v.isNull) := by
  unfold single?
  by_cases range : comparison.isRange = true
  · simp [range]
  · by_cases pattern : comparison.isPattern = true <;>
      by_cases membership : comparison.isMembership = true <;>
        cases v <;>
          simp [range, pattern, membership, Value.isNull, literal?, pattern?, Value.literal?] <;>
          split <;> rfl

/-- A comparison is written exactly when there is something to compare with. -/
theorem isSome_predicate? (escaper : Escaper) (quoted : Bool) (comparison : Option Comparison)
    (operand : Operand) :
    (operand.predicate? escaper quoted comparison).isSome = operand.isUsable comparison := by
  unfold predicate? isUsable
  by_cases check : comparison.any (·.isNullCheck) = true
  · cases comparison with
    | none => cases check
    | some c => simp [check]
  · rw [if_neg check, if_neg check]
    cases operand with
    | list vs =>
      by_cases range : (Comparison.ofList comparison).isRange = true
      · simp only [range, if_true, Option.isSome_map]
        exact isSome_range? escaper quoted vs
      · simp only [range, if_false, Option.isSome_map, Bool.false_eq_true]
        exact isSome_membership? escaper quoted vs
    | single v =>
      simp only [Option.isSome_map]
      exact isSome_single? escaper quoted _ v

end Operand

/-! ## Conditions -/

namespace Condition

mutual

/-- The condition is written, or one of those it holds is. -/
def survives : Condition → Bool
  | .raw sql => !(Text.trimChars sql.toList).isEmpty
  | .compare field comparison operand => !field.isEmpty && operand.isUsable comparison
  | .table _ conditions => anySurvives conditions

/-- One of the conditions is written. -/
def anySurvives : List Condition → Bool
  | [] => false
  | c :: cs => survives c || anySurvives cs

end

end Condition

/-- One of the conditions of the group is written. -/
def ConditionGroup.survives (g : ConditionGroup) : Bool := Condition.anySurvives g.conditions

/-- The leaf is written. -/
def Leaf.survives : Leaf → Bool
  | .raw sql => !(Text.trimChars sql.toList).isEmpty
  | .compare _ _ field comparison operand => !field.isEmpty && operand.isUsable comparison

/-- Compiling keeps exactly the leaves that survive. -/
theorem Scope.isSome_predicate? (s : Scope) (escaper : Escaper) (leaf : Leaf) :
    (s.predicate? escaper leaf).isSome = leaf.survives := by
  cases leaf with
  | raw sql =>
    simp only [predicate?, Leaf.survives]
    split <;> simp_all
  | compare context quoted field comparison operand =>
    simp only [predicate?, Leaf.survives, ← Operand.isSome_predicate? escaper quoted]
    split <;> simp_all

namespace Condition

mutual

/-- A condition survives in one of its leaves, wherever it stands. -/
theorem any_survives_leaves (known : String → Bool) (context : Option String) (quoted : Bool) :
    ∀ c : Condition, (leaves known context quoted c).any Leaf.survives = c.survives
  | .raw sql => by simp [leaves, survives, Leaf.survives]
  | .compare field comparison operand => by simp [leaves, survives, Leaf.survives]
  | .table name conditions => by
    simp only [leaves, survives]
    split
    · exact any_survives_leavesOfAll known (some name) false conditions
    · exact any_survives_leavesOfAll known none quoted conditions

/-- Conditions survive in the leaves of one of them. -/
theorem any_survives_leavesOfAll (known : String → Bool) (context : Option String) (quoted : Bool) :
    ∀ cs : List Condition,
      (leavesOfAll known context quoted cs).any Leaf.survives = anySurvives cs
  | [] => rfl
  | c :: cs => by
    simp only [leavesOfAll, anySurvives, List.any_append]
    rw [any_survives_leaves known context quoted c,
      any_survives_leavesOfAll known context quoted cs]

end

end Condition

/-! ## Groups -/

namespace Scope

/-- A group has predicates if and only if one of its conditions survives. -/
theorem isEmpty_predicates (s : Scope) (escaper : Escaper) (g : ConditionGroup) :
    (s.predicates escaper g).isEmpty = !g.survives := by
  unfold ConditionGroup.survives
  rw [← Condition.any_survives_leavesOfAll s.resolves g.options.table (!g.options.unquoted)]
  unfold predicates ConditionGroup.leaves
  generalize Condition.leavesOfAll _ _ _ _ = leaves
  induction leaves with
  | nil => rfl
  | cons leaf leaves ih =>
    rw [List.any_cons, ← isSome_predicate? s escaper leaf]
    cases written : s.predicate? escaper leaf with
    | none => simpa [written] using ih
    | some f => simp [written]

/-- A group is written exactly when one of its conditions survives. -/
theorem isSome_group? (s : Scope) (escaper : Escaper) (g : ConditionGroup) :
    (s.group? escaper g).isSome = g.survives := by
  have empty := isEmpty_predicates s escaper g
  unfold group?
  split
  case h_1 none => simpa [none] using empty
  case h_2 some =>
    cases written : s.predicates escaper g with
    | nil => exact absurd written some
    | cons f fs => simpa [written] using empty

/-- Groups are left if and only if one of them survives. -/
theorem isEmpty_groups (s : Scope) (escaper : Escaper) (gs : List ConditionGroup) :
    (s.groups escaper gs).isEmpty = !gs.any ConditionGroup.survives := by
  induction gs with
  | nil => rfl
  | cons g gs ih =>
    rw [List.any_cons, ← isSome_group? s escaper g]
    unfold groups at ih ⊢
    cases written : s.group? escaper g with
    | none => simpa [written] using ih
    | some f => simp [written]

end Scope

/-- Whether a draft has conditions on its rows depends on the conditions alone. -/
theorem Draft.isEmpty_whereGroups (d : Draft) (escaper : Escaper) :
    (d.whereGroups escaper).isEmpty = !d.wheres.any ConditionGroup.survives :=
  Scope.isEmpty_groups d.scope escaper d.wheres

end SqlQuery
