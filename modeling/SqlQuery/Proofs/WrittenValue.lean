import Mathlib.Data.List.Basic
import SqlQuery.Proofs.Survival
import SqlQuery.Proofs.Transcript

/-!
The strings that values become in a statement.

`Value.shown?` is the text a value stands for: a text stands for itself, and numbers, truth values
and timestamps for their written forms.  `Operand.texts?` lists the texts that a comparison prints,
or says that it prints nothing, without any escaping.  The main facts are
`Value.transcript?_assigned`, that a value in a row is read back as one string, and
`Operand.transcript?_predicate?`, that a comparison is read back as exactly its texts, between
characters that depend on the comparison and the number of texts only.
-/

namespace SqlQuery

open Text

/-! ## Written forms without quotes and backslashes -/

/-- Digits are neither quotes nor backslashes. -/
theorem Text.plain_toDigits (n : Nat) : Plain (Nat.toDigits 10 n) := by
  intro c member
  have digit : c.isDigit = true := Nat.isDigit_of_mem_toDigits (by decide) (by decide) member
  constructor <;> rintro rfl <;> revert digit <;> decide

theorem Text.plain_repr (n : Nat) : Plain n.repr.toList := by
  rw [Nat.toList_repr]
  exact plain_toDigits n

theorem Text.plain_replicate_zero (n : Nat) : Plain (List.replicate n '0') := by
  intro c member
  rw [List.eq_of_mem_replicate member]
  decide

/-- A sign is no quote and no backslash. -/
theorem Text.plain_int_repr (n : Int) : Plain n.repr.toList := by
  cases n with
  | ofNat n => exact plain_repr n
  | negSucc n =>
    have written : (Int.negSucc n).repr.toList = ['-'] ++ (n + 1).repr.toList := by
      simp [Int.repr]
    have sign : Plain ['-'] := by decide
    rw [written]
    exact sign.append (plain_repr (n + 1))

theorem Decimal.plain_padded (width n : Nat) : Plain (padded width n).toList := by
  unfold padded
  rw [String.toList_ofList, List.leftpad]
  exact (plain_replicate_zero _).append (plain_toDigits n)

/-- A decimal number has digits, zeros and at most one point. -/
theorem Decimal.plain_positional (digits : Nat) (exponent : Int) :
    Plain (positional digits exponent).toList := by
  have written := plain_toDigits digits
  have point : Plain ['.'] := by decide
  have zero : Plain "0.".toList := by decide
  unfold positional
  dsimp only
  split
  · rw [String.toList_ofList]
    exact written.append (plain_replicate_zero _)
  · split
    · rw [String.toList_ofList]
      exact (zero.append (plain_replicate_zero _)).append written
    · rw [String.toList_ofList]
      intro c member
      rcases List.mem_append.1 member with before | after
      · exact written c (List.mem_of_mem_take before)
      · rcases List.mem_cons.1 after with rfl | after
        · exact point _ List.mem_cons_self
        · exact written c (List.mem_of_mem_drop after)

/-- A number is written with digits, or as a word where it is not finite. -/
theorem Binary64.plain_text (x : Binary64) : Plain x.text.toList := by
  have sign : Plain (if x.isNegative then "-" else "").toList := by split <;> decide
  have nan : Plain "NaN".toList := by decide
  have infinite : Plain "inf".toList := by decide
  have zero : Plain "0".toList := by decide
  unfold text
  dsimp only
  split
  · exact nan
  · rw [String.toList_append]
    exact sign.append infinite
  · rw [String.toList_append]
    exact sign.append zero
  · rw [String.toList_append]
    exact sign.append (Decimal.plain_positional _ _)

/-- A time is digits and what stands between them. -/
theorem Timestamp.plain_text (t : Timestamp) : Plain t.text.toList := by
  have sign : Plain (if t.year < 0 then "-" else "").toList := by split <;> decide
  have dash : Plain "-".toList := by decide
  have space : Plain " ".toList := by decide
  have colon : Plain ":".toList := by decide
  have field (width n : Nat) := Decimal.plain_padded width n
  have year := sign.append (field 4 t.year.natAbs)
  have date := (((year.append dash).append (field 2 t.month)).append dash).append (field 2 t.day)
  have time := ((((date.append space).append (field 2 t.hour)).append colon).append
    (field 2 t.minute)).append colon |>.append (field 2 t.second)
  simpa only [text, String.toList_append] using time

/-! ## Values -/

namespace Value

/-- The value is an expression, which is written as it stands. -/
def isExpression : Value → Bool
  | .raw _ => true
  | _ => false

/-- The text that a value stands for.  Null and expressions stand for none. -/
def shown? : Value → Option String
  | .null => none
  | .bool b => some (if b then "1" else "0")
  | .integer n => some n.toInt.repr
  | .natural n => some n.toNat.repr
  | .double x => some x.text
  | .text s => some s
  | .timestamp t => some t.text
  | .raw _ => none

theorem isSome_shown? {v : Value} (data : v.isExpression = false) :
    v.shown?.isSome = !v.isNull := by
  cases v <;> first | rfl | cases data

/-- A value that is no expression is written as an escaped form of what it shows. -/
theorem exists_literal?_of_shown? {v : Value} {text : String} (shown : v.shown? = some text) :
    ∃ escaped, v.literal? .mysql = some (.text escaped) ∧ Escapes escaped.toList text.toList := by
  cases v with
  | null => cases shown
  | raw sql => cases shown
  | text s =>
    obtain rfl := Option.some.inj shown
    refine ⟨_, rfl, ?_⟩
    rw [Escaper.toList_mysql_literal]
    exact .backslashedChars _
  | bool b =>
    obtain rfl := Option.some.inj shown
    exact ⟨_, rfl, .of_plain (by cases b <;> decide)⟩
  | integer n =>
    obtain rfl := Option.some.inj shown
    exact ⟨_, rfl, .of_plain (plain_int_repr _)⟩
  | natural n =>
    obtain rfl := Option.some.inj shown
    exact ⟨_, rfl, .of_plain (plain_repr _)⟩
  | double x =>
    obtain rfl := Option.some.inj shown
    exact ⟨_, rfl, .of_plain x.plain_text⟩
  | timestamp t =>
    obtain rfl := Option.some.inj shown
    exact ⟨_, rfl, .of_plain t.plain_text⟩

theorem eq_null_of_shown?_eq_none {v : Value} (data : v.isExpression = false)
    (none : v.shown? = none) : v = .null := by
  have null : v.isNull = true := by simpa [none] using isSome_shown? data
  cases v <;> first | rfl | cases null

/-- What a value in a row is read back as: one string, the text it shows, or a keyword. -/
def transcript (v : Value) : Transcript :=
  match v.shown? with
  | some shown => ⟨[.string], [shown]⟩
  | none => ⟨marks "NULL", []⟩

/-- A value is read back as the string it shows, or as a text without strings. -/
theorem transcript?_assigned {v : Value} (data : v.isExpression = false) :
    transcript? (v.assigned .mysql) = some v.transcript := by
  unfold assigned transcript
  cases shown : v.shown? with
  | none =>
    obtain rfl := eq_null_of_shown?_eq_none data shown
    exact transcript?_of_quoteFree (by decide)
  | some text =>
    obtain ⟨escaped, written, escapes⟩ := exists_literal?_of_shown? shown
    rw [written]
    simpa [Literal.write] using transcript?_quoted escapes

end Value

/-! ## Operands -/

namespace Operand

/-- The text of a single value as an operand.  A pattern has wildcards around the value, and a
text in it is trimmed and has its own wildcards and backslashes marked. -/
def soughtText? (comparison : Comparison) (v : Value) : Option String :=
  if comparison.isPattern then
    match v with
    | .text s => some ("%" ++ String.ofList (Escaper.patternChars (trimChars s.toList)) ++ "%")
    | v => v.shown?.map fun text => "%" ++ text ++ "%"
  else v.shown?

/-- The texts of the bounds of a range, if both are there. -/
def rangeTexts? : List Value → Option (List String)
  | lower :: upper :: _ => do
    let low ← lower.shown?
    let high ← upper.shown?
    return [low, high]
  | _ => none

/-- The texts of the values of a list that are not blank, if there are any. -/
def listTexts? (vs : List Value) : Option (List String) :=
  match (vs.filter (!·.isBlank)).filterMap Value.shown? with
  | [] => none
  | texts => some texts

/-- The texts of a comparison in their order, unless it is dropped. -/
def texts? (comparison : Option Comparison) (operand : Operand) : Option (List String) :=
  if comparison.any (·.isNullCheck) then some []
  else
    match operand with
    | .list vs => if (Comparison.ofList comparison).isRange then rangeTexts? vs else listTexts? vs
    | .single v =>
      if (comparison.getD .equal).isRange then none
      else (soughtText? (comparison.getD .equal) v).map fun text => [text]

/-- The values of an operand. -/
def values : Operand → List Value
  | .single v => [v]
  | .list vs => vs

/-- No value of the operand is an expression, and a single one is no sub-query. -/
def IsData (operand : Operand) : Prop :=
  (∀ v ∈ operand.values, v.isExpression = false) ∧
    ∀ s, operand = .single (.text s) → Text.isSubquery s = false

/-- What stands around the bounds of a range. -/
def rangeSkeleton : List Mark := .string :: marks " AND " ++ [.string]

/-- What stands around the given number of values of a list. -/
def listSkeleton (count : Nat) : List Mark :=
  marks "(" ++ (marks ",").intercalate (List.replicate count [.string]) ++ marks ")"

/-- What stands around a single value. -/
def singleSkeleton (comparison : Comparison) : List Mark :=
  if comparison.isMembership then marks "(" ++ [.string] ++ marks ")" else [.string]

/-- What stands around the given number of texts of a comparison. -/
def skeleton (comparison : Option Comparison) (operand : Operand) (count : Nat) : List Mark :=
  if comparison.any (·.isNullCheck) then marks ((comparison.map Comparison.keyword).getD "")
  else
    match operand with
    | .list _ =>
      let c := Comparison.ofList comparison
      marks (c.keyword ++ " ") ++ if c.isRange then rangeSkeleton else listSkeleton count
    | .single _ =>
      let c := comparison.getD .equal
      marks (c.keyword ++ " ") ++ singleSkeleton c

theorem quoteFree_keyword (c : Comparison) : QuoteFree c.keyword := by
  cases c <;> decide

/-- The bounds of a range are read back as their texts. -/
theorem transcript?_range? {vs : List Value} (data : ∀ v ∈ vs, v.isExpression = false) :
    (range? .mysql true vs).map transcript? =
      (rangeTexts? vs).map fun texts => some ⟨rangeSkeleton, texts⟩ := by
  rcases vs with _ | ⟨lower, _ | ⟨upper, rest⟩⟩
  · rfl
  · rfl
  · have lowerData := data lower (by simp)
    have upperData := data upper (by simp)
    cases lowShown : lower.shown? with
    | none =>
      obtain rfl := Value.eq_null_of_shown?_eq_none lowerData lowShown
      simp [range?, rangeTexts?, lowShown, Value.literal?]
    | some low =>
      obtain ⟨lowEscaped, lowWritten, lowEscapes⟩ := Value.exists_literal?_of_shown? lowShown
      cases highShown : upper.shown? with
      | none =>
        obtain rfl := Value.eq_null_of_shown?_eq_none upperData highShown
        simp [range?, rangeTexts?, highShown, Value.literal?]
      | some high =>
        obtain ⟨highEscaped, highWritten, highEscapes⟩ := Value.exists_literal?_of_shown? highShown
        have between : QuoteFree " AND " := by decide
        have first := transcript?_append (transcript?_quoted lowEscapes)
          (transcript?_of_quoteFree between)
        have both := transcript?_append first (transcript?_quoted highEscapes)
        simpa [range?, rangeTexts?, rangeSkeleton, lowShown, highShown, lowWritten, highWritten,
          Literal.write] using both

/-- Values that are not null are written in a list the way they are in a row. -/
theorem map_write_filterMap_literal? {vs : List Value} (escaper : Escaper)
    (present : ∀ v ∈ vs, v.isNull = false) :
    (vs.filterMap (·.literal? escaper)).map (·.write true) = vs.map (·.assigned escaper) := by
  rw [map_filterMap_literal? escaper _ present]
  apply List.map_congr_left
  intro v member
  have written := Value.isSome_literal? escaper v
  rw [present v member] at written
  obtain ⟨literal, written⟩ := Option.isSome_iff_exists.1 written
  simp [Value.assigned, written]

/-- Every value that is not null shows one string. -/
theorem length_filterMap_shown? {vs : List Value} (data : ∀ v ∈ vs, v.isExpression = false)
    (present : ∀ v ∈ vs, v.isNull = false) : (vs.filterMap Value.shown?).length = vs.length := by
  rw [List.length_filterMap_eq_countP, List.countP_eq_length]
  intro v member
  rw [Value.isSome_shown? (data v member), present v member]
  rfl

/-- Values that are data and not null are read back as one string each. -/
theorem transcript?_intercalate_assigned {vs : List Value}
    (data : ∀ v ∈ vs, v.isExpression = false) (present : ∀ v ∈ vs, v.isNull = false) :
    transcript? (",".intercalate (vs.map (·.assigned .mysql))) =
      some ⟨(marks ",").intercalate (List.replicate vs.length [.string]),
        vs.filterMap Value.shown?⟩ := by
  have shown : ∀ v ∈ vs, v.shown? = some (v.shown?.getD "") := by
    intro v member
    have some := Value.isSome_shown? (data v member)
    rw [present v member] at some
    obtain ⟨text, text_eq⟩ := Option.isSome_iff_exists.1 some
    rw [text_eq]
    rfl
  have read : ∀ v ∈ vs,
      transcript? (v.assigned .mysql) = some ⟨[.string], [v.shown?.getD ""]⟩ := by
    intro v member
    rw [Value.transcript?_assigned (data v member), Value.transcript, shown v member]
    rfl
  have texts : vs.filterMap Value.shown? = vs.map fun v => v.shown?.getD "" := by
    rw [← List.filterMap_eq_map]
    exact List.filterMap_congr shown
  have comma : QuoteFree "," := by decide
  rw [texts]
  simpa [List.map_const', ← List.map_eq_flatMap] using transcript?_intercalate comma read

/-- The values of a list are read back as their texts. -/
theorem transcript?_membership? {vs : List Value} (data : ∀ v ∈ vs, v.isExpression = false) :
    (membership? .mysql true vs).map transcript? =
      (listTexts? vs).map fun texts => some ⟨listSkeleton texts.length, texts⟩ := by
  have present := isNull_of_mem_filter vs
  have keptData : ∀ v ∈ vs.filter (!·.isBlank), v.isExpression = false := by
    intro v member
    exact data v (List.mem_filter.1 member).1
  unfold membership? listTexts?
  generalize vs.filter (!·.isBlank) = kept at present keptData ⊢
  have all := transcript?_parenthesized (transcript?_intercalate_assigned keptData present)
  have written := map_write_filterMap_literal? .mysql present
  have sameLength := length_filterMap_shown? keptData present
  -- Both sides drop the list exactly when nothing is kept of it.
  cases literals : kept.filterMap (·.literal? .mysql) with
  | nil =>
    rw [literals] at written
    rw [List.map_eq_nil_iff.1 written.symm]
    rfl
  | cons literal rest =>
    rw [literals] at written
    cases texts : kept.filterMap Value.shown? with
    | nil =>
      have empty : kept = [] := by simpa [texts] using sameLength.symm
      rw [empty] at literals
      cases literals
    | cons text others =>
      rw [texts] at all sameLength
      simp only [Option.map_some, written, listSkeleton, sameLength]
      simpa using all

/-- The literal of a value, decided on first and then written. -/
theorem literal?_eq_map (escaper : Escaper) (comparison : Comparison) (v : Value) :
    literal? escaper true comparison v =
      (if comparison.isPattern then pattern? escaper v else v.literal? escaper).map fun literal =>
        if comparison.isMembership then "(" ++ literal.write true ++ ")"
        else literal.write true := by
  unfold literal?
  by_cases pattern : comparison.isPattern = true
  · simp only [pattern, if_true]
    cases pattern? escaper v <;> rfl
  · simp only [pattern, if_false, Bool.false_eq_true]
    cases v.literal? escaper <;> rfl

/-- The text of a single operand is written as an escaped form of it. -/
theorem exists_literal?_of_soughtText? {comparison : Comparison} {v : Value} {text : String}
    (sought : soughtText? comparison v = some text) :
    ∃ escaped,
      (if comparison.isPattern then pattern? .mysql v else v.literal? .mysql) =
        some (.text escaped) ∧ Escapes escaped.toList text.toList := by
  unfold soughtText? at sought
  split at sought
  case isFalse plain =>
    rw [if_neg plain]
    exact Value.exists_literal?_of_shown? sought
  case isTrue pattern =>
    have wildcard : Escapes "%".toList "%".toList := .of_plain (by decide)
    rw [if_pos pattern]
    split at sought
    case h_1 s =>
      obtain rfl := Option.some.inj sought
      refine ⟨_, rfl, ?_⟩
      simp only [String.toList_append, Escaper.toList_mysql_pattern, toList_trim,
        String.toList_ofList]
      exact (wildcard.append (.backslashedChars _)).append wildcard
    case h_2 other =>
      obtain ⟨shown, shown_eq, rfl⟩ := Option.map_eq_some_iff.1 sought
      obtain ⟨escaped, written, escapes⟩ := Value.exists_literal?_of_shown? shown_eq
      refine ⟨"%" ++ escaped ++ "%", ?_, ?_⟩
      · cases v with
        | text s => exact absurd rfl (other s)
        | _ => simp [pattern?, written, Literal.contained]
      · simp only [String.toList_append]
        exact (wildcard.append escapes).append wildcard

theorem soughtText?_eq_none_iff {comparison : Comparison} {v : Value}
    (data : v.isExpression = false) : soughtText? comparison v = none ↔ v.isNull = true := by
  cases v <;> cases data <;> by_cases pattern : comparison.isPattern = true <;>
    simp [soughtText?, pattern, Value.shown?, Value.isNull]

/-- A single value is read back as its text. -/
theorem transcript?_single? (c : Comparison) {v : Value} (data : v.isExpression = false)
    (literal : ∀ s, v = .text s → Text.isSubquery s = false) :
    (single? .mysql true c v).map transcript? =
      if c.isRange then none
      else (soughtText? c v).map fun text => some ⟨singleSkeleton c, [text]⟩ := by
  by_cases range : c.isRange = true
  · simp [single?, range]
  · rw [if_neg range]
    cases sought : soughtText? c v with
    | none =>
      have null := (soughtText?_eq_none_iff data).1 sought
      simp [single?, null]
    | some text =>
      have present : ¬v.isNull = true := by
        intro null
        rw [(soughtText?_eq_none_iff data).2 null] at sought
        cases sought
      -- A text that is no sub-query is a literal like any other value.
      have direct : single? .mysql true c v = literal? .mysql true c v := by
        cases v with
        | text s => simp [single?, range, literal s rfl, Value.isNull]
        | null => exact absurd rfl present
        | _ => simp [single?, range, Value.isNull]
      obtain ⟨escaped, written, escapes⟩ := exists_literal?_of_soughtText? sought
      have quoted := transcript?_quoted escapes
      rw [String.ofList_toList] at quoted
      rw [direct, literal?_eq_map, written, singleSkeleton]
      by_cases membership : c.isMembership = true
      · have all := transcript?_parenthesized quoted
        simpa [membership, Literal.write] using all
      · simpa [membership, Literal.write] using quoted

/-- What is written after the keyword of a comparison is read back after it. -/
theorem transcript?_after_keyword (c : Comparison) {written : Option String}
    {texts : Option (List String)} {around : List String → List Mark}
    (read : written.map transcript? = texts.map fun texts => some ⟨around texts, texts⟩) :
    (written.map fun text => c.keyword ++ " " ++ text).map transcript? =
      texts.map fun texts => some ⟨marks (c.keyword ++ " ") ++ around texts, texts⟩ := by
  have keyword : QuoteFree (c.keyword ++ " ") :=
    quoteFree_append.2 ⟨quoteFree_keyword c, quoteFree_space⟩
  cases written with
  | none =>
    cases texts with
    | none => rfl
    | some texts => cases read
  | some text =>
    cases texts with
    | none => cases read
    | some texts =>
      have inner : transcript? text = some ⟨around texts, texts⟩ := Option.some.inj read
      have all := transcript?_append (transcript?_of_quoteFree keyword) inner
      simpa using all

/-- A comparison is read back as exactly its texts, and what stands around them depends on their
number alone. -/
theorem transcript?_predicate? (comparison : Option Comparison) {operand : Operand}
    (data : operand.IsData) :
    (operand.predicate? .mysql true comparison).map transcript? =
      (operand.texts? comparison).map fun texts =>
        some ⟨operand.skeleton comparison texts.length, texts⟩ := by
  by_cases check : comparison.any (·.isNullCheck) = true
  · cases comparison with
    | none => cases check
    | some c =>
      have alone := transcript?_of_quoteFree (quoteFree_keyword c)
      simp [predicate?, texts?, skeleton, check, alone]
  · cases operand with
    | list vs =>
      have values : ∀ v ∈ vs, v.isExpression = false := data.1
      by_cases range : (Comparison.ofList comparison).isRange = true
      · have read := transcript?_after_keyword (Comparison.ofList comparison)
          (transcript?_range? values)
        simpa [predicate?, texts?, skeleton, check, range] using read
      · have read := transcript?_after_keyword (Comparison.ofList comparison)
          (transcript?_membership? values)
        simpa [predicate?, texts?, skeleton, check, range] using read
    | single v =>
      have value : v.isExpression = false := data.1 v List.mem_cons_self
      have literal : ∀ s, v = .text s → Text.isSubquery s = false := by
        rintro s rfl
        exact data.2 s rfl
      have single := transcript?_single? (comparison.getD .equal) value literal
      by_cases range : (comparison.getD .equal).isRange = true
      · rw [if_pos range, Option.map_eq_none_iff] at single
        simp [predicate?, texts?, check, range, single]
      · rw [if_neg range] at single
        have listed : (single? .mysql true (comparison.getD .equal) v).map transcript? =
            ((soughtText? (comparison.getD .equal) v).map fun text => [text]).map fun texts =>
              some ⟨singleSkeleton (comparison.getD .equal), texts⟩ := by
          rw [single, Option.map_map]
          rfl
        have read := transcript?_after_keyword (comparison.getD .equal) listed
        simpa [predicate?, texts?, skeleton, check, range] using read

end Operand

end SqlQuery
