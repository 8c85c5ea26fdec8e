import Mathlib.Data.List.Forall2
import SqlQuery.Rendering
import SqlQuery.Statement

/-!
Fragments that have a text unless they are blank.

A qualifier can be empty, so a fragment with a slot may have no text and still not be blank.  None
of the parts of a statement is like that (`Fragment.Legible`): behind the qualifier of a column
stands a dot, and a table is introduced behind its name.  So it is the same whether a part is left
out because it is blank or because its text is empty, and the texts of parts are put together like
the parts (`Fragment.Shows.joined`, `Fragment.Shows.clause`).
-/

namespace SqlQuery

namespace Fragment

variable {qualifierOf : Nat → String} {f g : Fragment} {fs : List Fragment}

/-- The fragment has a text unless it is blank, even if no qualifier has one. -/
def Legible (f : Fragment) : Prop := ∀ qualifierOf, f.fill qualifierOf = "" → f.isBlank = true

theorem legible_text (text : String) : Legible [.text text] := by
  intro qualifierOf empty
  simpa [Piece.fill, isBlank] using empty

/-- A fragment is blank if both of its parts are. -/
theorem Legible.append (first : f.Legible) (second : g.Legible) : (f ++ g).Legible := by
  intro qualifierOf empty
  rw [fill_append, String.append_eq_empty_iff] at empty
  have blank := And.intro (first qualifierOf empty.1) (second qualifierOf empty.2)
  simpa [isBlank] using blank

/-- One text is enough, whatever slots stand around it. -/
theorem legible_of_mem {text : String} (member : .text text ∈ f) (written : text ≠ "") :
    f.Legible := by
  intro qualifierOf empty
  obtain ⟨before, behind, rfl⟩ := List.append_of_mem member
  rw [fill_append, fill_cons, String.append_eq_empty_iff, String.append_eq_empty_iff] at empty
  exact absurd empty.2.1 written

/-- Separators can only add text. -/
theorem legible_separated {separator : String} (each : ∀ f ∈ fs, f.Legible) :
    (separated separator fs).Legible := by
  induction fs with
  | nil => exact fun _ _ => rfl
  | cons f fs ih =>
    have first := each f List.mem_cons_self
    have rest := ih fun g member => each g (List.mem_cons_of_mem f member)
    cases fs with
    | nil => simpa [separated] using first
    | cons g gs => simpa [separated] using first.append ((legible_text separator).append rest)

theorem legible_joined {separator : String} (each : ∀ f ∈ fs, f.Legible) :
    (joined separator fs).Legible :=
  legible_separated fun f member => each f (List.mem_filter.1 member).1

/-- A clause that is there starts with its keyword. -/
theorem legible_clause (keyword : String) (f : Fragment) : (clause keyword f).Legible := by
  unfold clause
  split
  · exact fun _ _ => rfl
  · exact legible_of_mem List.mem_cons_self (by simp)

/-- For such a fragment, an empty text and no content are the same. -/
theorem Legible.isEmpty_fill (legible : f.Legible) (qualifierOf : Nat → String) :
    (f.fill qualifierOf).isEmpty = f.isBlank := by
  rw [Bool.eq_iff_iff, String.isEmpty_iff]
  exact ⟨legible qualifierOf, fun blank => fill_of_isBlank blank qualifierOf⟩

/-- Leaving out the fragments that are blank is leaving out the texts that are empty. -/
theorem fill_joined_of_legible (qualifierOf : Nat → String) (separator : String)
    (each : ∀ f ∈ fs, f.Legible) :
    (joined separator fs).fill qualifierOf =
      Text.joined separator (fs.map (fill qualifierOf)) := by
  have kept : (fs.filter (!·.isBlank)) = fs.filter fun f => !(f.fill qualifierOf).isEmpty := by
    apply List.filter_congr
    intro f member
    rw [(each f member).isEmpty_fill]
  unfold joined Text.joined
  rw [fill_separated, kept, List.filter_map]
  rfl

/-- A clause is left out in the same cases, whether its text or its fragment is asked. -/
theorem Legible.fill_clause (legible : f.Legible) (keyword : String) (qualifierOf : Nat → String) :
    (clause keyword f).fill qualifierOf = Text.clause keyword (f.fill qualifierOf) := by
  unfold clause Text.clause
  rw [legible.isEmpty_fill]
  split
  · rfl
  · simp [Piece.fill, String.append_assoc]

/-- The text is that of the fragment, which has one unless it is blank. -/
structure Shows (qualifierOf : Nat → String) (f : Fragment) (text : String) : Prop where
  legible : f.Legible
  fill : f.fill qualifierOf = text

theorem shows_nil : Shows qualifierOf [] "" := ⟨fun _ _ => rfl, rfl⟩

theorem shows_text (text : String) : Shows qualifierOf [.text text] text :=
  ⟨legible_text text, by simp [Piece.fill]⟩

theorem Shows.clause {text : String} (shows : Shows qualifierOf f text) (keyword : String) :
    Shows qualifierOf (Fragment.clause keyword f) (Text.clause keyword text) where
  legible := legible_clause keyword f
  fill := by rw [shows.legible.fill_clause, shows.fill]

/-- A part that a choice of the draft adds. -/
theorem Shows.ite {text : String} (shows : Shows qualifierOf f text) (c : Prop) [Decidable c] :
    Shows qualifierOf (if c then f else []) (if c then text else "") := by
  split
  · exact shows
  · exact shows_nil

/-- Texts that are put together are the text of what is put together. -/
theorem Shows.joined {texts : List String} (each : List.Forall₂ (Shows qualifierOf) fs texts)
    (separator : String) :
    Shows qualifierOf (Fragment.joined separator fs) (Text.joined separator texts) := by
  have legible : ∀ f ∈ fs, f.Legible := by
    induction each with
    | nil => exact List.forall_mem_nil _
    | cons first _ ih => exact List.forall_mem_cons.2 ⟨first.legible, ih⟩
  have filled : fs.map (Fragment.fill qualifierOf) = texts := by
    induction each with
    | nil => rfl
    | cons first _ ih =>
      have rest := ih fun f member => legible f (List.mem_cons_of_mem _ member)
      rw [List.map_cons, first.fill, rest]
  exact ⟨legible_joined legible, by rw [fill_joined_of_legible _ _ legible, filled]⟩

end Fragment

/-! ## Parts of a statement -/

namespace Scope

variable {s : Scope}

/-- Behind a qualifier stands a dot, so a key with a slot has a text. -/
theorem legible_key (context : Option String) (field : String) : (s.key context field).Legible := by
  have slot (i : Nat) (name : String) : (qualified (some i) name).Legible := by
    have dotted : Piece.text ("." ++ name) ∈ qualified (some i) name := by simp [qualified]
    exact Fragment.legible_of_mem dotted (by simp [String.append_eq_empty_iff])
  unfold key
  split
  · split
    · exact slot _ _
    · exact Fragment.legible_text field
  · cases context.bind s.qualify? with
    | none => exact Fragment.legible_text field
    | some i => exact slot i field

/-- A star and a verbatim expression have no slot. -/
theorem column_eq_text {c : Column} (unqualified : (c.isStar || c.isVerbatim) = true) :
    s.column c = [.text (c.render none)] := by
  obtain ⟨table, body⟩ := c
  cases body with
  | verbatim sql => rfl
  | named n =>
    have star : Column.isStar ⟨table, .named n⟩ = true := by
      simpa [Column.isVerbatim] using unqualified
    simp [column, Column.render, star]

/-- Any other column has a slot where it has a table, and always a text. -/
theorem column_of_qualified {c : Column} (qualified : ¬(c.isStar || c.isVerbatim) = true) :
    (s.column c).Legible ∧ ∀ table, (s.column c).references table =
      Fragment.references ((c.table.bind s.qualify?).toList.map Piece.qualifier) table := by
  obtain ⟨table, body⟩ := c
  cases body with
  | verbatim sql => exact absurd (by simp [Column.isVerbatim]) qualified
  | named n =>
    have star : Column.isStar ⟨table, .named n⟩ = false := by
      simpa [Column.isVerbatim] using qualified
    unfold column
    dsimp only
    rw [star]
    cases table.bind s.qualify? with
    | none => exact ⟨Fragment.legible_text _, fun table => by simp⟩
    | some i =>
      have dotted : Piece.text ("." ++ n.name ++ n.closing) ∈
          [.text n.opening, .qualifier i, .text ("." ++ n.name ++ n.closing)] := by simp
      refine ⟨Fragment.legible_of_mem dotted (by simp [String.append_eq_empty_iff]), ?_⟩
      intro table
      simp

/-- Before an alias stands `AS`, and without one the name is all there is. -/
theorem legible_introduction (table : String) : (s.introduction table).Legible := by
  unfold introduction
  split
  · exact Fragment.legible_text table
  · split
    · exact Fragment.legible_text table
    · split
      · exact Fragment.legible_of_mem List.mem_cons_self (by simp [String.append_eq_empty_iff])
      · exact Fragment.legible_text _

theorem legible_equation (left leftColumn right rightColumn : String) :
    (s.equation left leftColumn right rightColumn).Legible := by
  have between : Piece.text " = " ∈ s.equation left leftColumn right rightColumn := by
    simp [equation]
  exact Fragment.legible_of_mem between (by decide)

/-- A structured join starts with its keywords. -/
theorem legible_join (j : Join) : (s.join j).Legible := by
  cases j with
  | raw left sql => exact Fragment.legible_text _
  | structured kind left right on =>
    have opening : Piece.text (kind.keyword ++ " JOIN ") ∈
        s.join (.structured kind left right on) := by
      unfold join
      dsimp only
      split <;> simp
    exact Fragment.legible_of_mem opening (by simp [String.append_eq_empty_iff])

/-- A group that is left stands in parentheses. -/
theorem legible_group? {escaper : Escaper} {g : ConditionGroup} {f : Fragment}
    (left : s.group? escaper g = some f) : f.Legible := by
  unfold group? at left
  split at left
  case h_1 => cases left
  case h_2 =>
    obtain rfl := Option.some.inj left
    exact Fragment.legible_of_mem List.mem_cons_self (by decide)

end Scope

end SqlQuery
