/-!
Statement text in which the qualifiers are still open.

Which alias a table has decides nothing about a statement but the text of its qualifiers. So a
statement is first a list of pieces, fixed texts and slots that name a table by its place in the
alias table, and only then a text. How often a qualifier is written is the number of its slots.
-/

namespace SqlQuery

/-- A piece of a statement. -/
inductive Piece
  /-- A text that is fixed. -/
  | text (s : String)
  /-- The qualifier of the table at the given place, where a column of it is named. -/
  | qualifier (table : Nat)
  /-- The qualifier of the table at the given place, where the table itself is introduced. -/
  | introduced (table : Nat)
deriving DecidableEq, Repr

/-- A part of a statement, as its pieces in order. -/
abbrev Fragment := List Piece

/-- The text of a piece, from the qualifier of each table. -/
def Piece.fill (qualifierOf : Nat → String) : Piece → String
  | .text s => s
  | .qualifier table => qualifierOf table
  | .introduced table => qualifierOf table

namespace Fragment

/-- The text of a fragment, from the qualifier of each table. -/
def fill (qualifierOf : Nat → String) : Fragment → String
  | [] => ""
  | piece :: rest => piece.fill qualifierOf ++ fill qualifierOf rest

/-- How often the qualifier of a table is written to name a column. -/
def references (f : Fragment) (table : Nat) : Nat := f.count (.qualifier table)

/-- The fragment has no slot and no text. -/
def isBlank (f : Fragment) : Bool :=
  f.all fun
    | .text s => s.isEmpty
    | _ => false

/-! ## Putting fragments together -/

/-- The fragments with a separator between every two. -/
def separated (separator : String) (fragments : List Fragment) : Fragment :=
  [Piece.text separator].intercalate fragments

/-- The fragments that are not blank, with a separator between every two. -/
def joined (separator : String) (fragments : List Fragment) : Fragment :=
  separated separator (fragments.filter (!·.isBlank))

/-- A keyword and its body, or nothing where the body is blank. -/
def clause (keyword : String) (body : Fragment) : Fragment :=
  if body.isBlank then [] else .text (keyword ++ " ") :: body

/-! ## How the views of a fragment follow its parts -/

@[simp] theorem fill_nil (qualifierOf : Nat → String) : fill qualifierOf [] = "" := rfl

@[simp] theorem fill_cons (qualifierOf : Nat → String) (piece : Piece) (f : Fragment) :
    fill qualifierOf (piece :: f) = piece.fill qualifierOf ++ fill qualifierOf f := rfl

@[simp] theorem fill_append (qualifierOf : Nat → String) (f g : Fragment) :
    fill qualifierOf (f ++ g) = fill qualifierOf f ++ fill qualifierOf g := by
  induction f with
  | nil => simp
  | cons piece f ih => simp [ih, String.append_assoc]

/-- Fragments with a separator between every two make their texts with that separator. -/
theorem fill_separated (qualifierOf : Nat → String) (separator : String)
    (fragments : List Fragment) :
    fill qualifierOf (Fragment.separated separator fragments) =
      separator.intercalate (fragments.map (fill qualifierOf)) := by
  induction fragments with
  | nil => rfl
  | cons f fragments ih =>
    cases fragments with
    | nil => simp [Fragment.separated]
    | cons g rest => simpa [Fragment.separated, Piece.fill, String.append_assoc] using ih

/-- A piece of fragments with a separator between every two is that separator or a piece of one of
them. -/
theorem mem_separated {separator : String} {fragments : List Fragment} {piece : Piece}
    (h : piece ∈ separated separator fragments) :
    piece = .text separator ∨ ∃ f ∈ fragments, piece ∈ f := by
  induction fragments with
  | nil => simp [separated] at h
  | cons f fragments ih =>
    cases fragments with
    | nil => exact .inr ⟨f, List.mem_cons_self, by simpa [separated] using h⟩
    | cons g rest =>
      have parts : piece ∈ f ∨ piece = .text separator ∨
          piece ∈ separated separator (g :: rest) := by
        simpa [separated, or_assoc] using h
      rcases parts with here | between | later
      · exact .inr ⟨f, List.mem_cons_self, here⟩
      · exact .inl between
      · rcases ih later with between | ⟨other, listed, inside⟩
        · exact .inl between
        · exact .inr ⟨other, List.mem_cons_of_mem f listed, inside⟩

@[simp] theorem references_nil (table : Nat) : references [] table = 0 := rfl

@[simp] theorem references_append (f g : Fragment) (table : Nat) :
    references (f ++ g) table = references f table + references g table :=
  List.count_append

/-- Text and introductions are no references, and the slot of a table is one to it alone. -/
@[simp] theorem references_cons (piece : Piece) (f : Fragment) (table : Nat) :
    references (piece :: f) table =
      references f table + if piece = .qualifier table then 1 else 0 := by
  by_cases h : piece = .qualifier table <;> simp [references, h]

/-- A blank fragment has the empty text, whatever the qualifiers are. -/
theorem fill_of_isBlank {f : Fragment} (h : f.isBlank = true) (qualifierOf : Nat → String) :
    fill qualifierOf f = "" := by
  induction f with
  | nil => rfl
  | cons piece f ih =>
    simp only [isBlank, List.all_cons, Bool.and_eq_true] at h
    cases piece with
    | text s =>
      have hs : s = "" := by simpa using h.1
      simp [Piece.fill, hs, ih h.2]
    | qualifier table => simp at h
    | introduced table => simp at h

end Fragment

end SqlQuery
