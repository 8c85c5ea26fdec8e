import SqlQuery.Proofs.Transcript

/-!
Reading the parts of a statement one after the other.

A part is read at the start of a text, and the reading yields what the part says and what follows
it.  `Text.readQuoted?` reads a string behind its opening quote, with all that can stand for a
character in it, and `Text.readList?` reads what stands between commas, from a reading of one such
element.  Both undo the printing, whatever follows the part (`Text.readQuoted?_of_escapes` and
`Text.readList?_intercalate`).

Readers differ in what a wildcard behind a backslash is to them, and in nothing else, so what
characters behind a backslash stand for is a parameter.
-/

namespace SqlQuery.Text

/-! ## Strings -/

section Strings

variable (unescaped : Char → List Char)

/-- The characters of a string, from behind its opening quote, and what follows the closing one.  A
backslash and the character behind it stand for the given characters, and two quotes for one. -/
def readQuoted? : List Char → Option (List Char × List Char)
  | [] => none
  | '\\' :: c :: s => (readQuoted? s).map fun (read, rest) => (unescaped c ++ read, rest)
  | '\x27' :: '\x27' :: s => (readQuoted? s).map fun (read, rest) => ('\x27' :: read, rest)
  | '\x27' :: s => some ([], s)
  | c :: s => (readQuoted? s).map fun (read, rest) => (c :: read, rest)

/-- Behind a backslash every character but a wildcard stands for the one that it means there. -/
def Unescapes : Prop := ∀ c, c ≠ '%' → c ≠ '_' → unescaped c = [unescape c]

variable {unescaped}

/-- Wherever in a string an escaped text stands, what it stands for is read there. -/
theorem readQuoted?_append (unescapes : Unescapes unescaped) {escaped s : List Char}
    (escapes : Escapes escaped s) (tail : List Char) :
    readQuoted? unescaped (escaped ++ tail) =
      (readQuoted? unescaped tail).map fun (read, rest) => (s ++ read, rest) := by
  induction escapes with
  | nil => cases read : readQuoted? unescaped tail <;> simp [read]
  | alone quote backslash _ ih => simp [readQuoted?, quote, backslash, ih, Function.comp_def]
  | @behind c _ _ percent underscore _ ih =>
    simp [readQuoted?, unescapes c percent underscore, ih, Function.comp_def]

/-- A string is read up to its closing quote, as long as there is no other quote behind that. -/
theorem readQuoted?_of_escapes (unescapes : Unescapes unescaped) {escaped s tail : List Char}
    (escapes : Escapes escaped s) (ends : tail.head? ≠ some '\x27') :
    readQuoted? unescaped (escaped ++ '\x27' :: tail) = some (s, tail) := by
  have closed : readQuoted? unescaped ('\x27' :: tail) = some ([], tail) := by
    cases tail with
    | nil => rfl
    | cons c tail =>
      have other : c ≠ '\x27' := by simpa using ends
      simp [readQuoted?, other]
  rw [readQuoted?_append unescapes escapes, closed]
  simp

/-- Where strings are no patterns, wildcards are characters like others. -/
theorem unescapes_unescape : Unescapes fun c => [unescape c] := fun _ _ _ => rfl

end Strings

/-! ## Lists -/

section Lists

variable {α β : Type}

/-- Reads elements with a comma and a space between every two.  An element may be anything that is
read at the start of a text. -/
def readList? (element : List Char → Option (α × List Char)) (s : List Char) :
    Option (List α × List Char) :=
  match element s with
  | none => none
  | some (x, ',' :: ' ' :: rest) =>
    -- An element reader that gives back more than it was given would never come to an end.
    if rest.length < s.length then
      (readList? element rest).map fun (xs, rest) => (x :: xs, rest)
    else none
  | some (x, rest) => some ([x], rest)
termination_by s.length

/-- Reads a list in parentheses. -/
def readTuple? (element : List Char → Option (α × List Char)) :
    List Char → Option (List α × List Char)
  | '(' :: s =>
    match readList? element s with
    | some (xs, ')' :: rest) => some (xs, rest)
    | _ => none
  | _ => none

/-- What follows an element of a list: a comma, the end of the list, or nothing. -/
def EndsElement (tail : List Char) : Prop := ∀ c ∈ tail.head?, c = ',' ∨ c = ')'

/-- The elements are printed in such a way that each is read back as its value, wherever in a list
it stands. -/
def ReadsBack (element : List Char → Option (α × List Char)) (print : β → List Char)
    (value : β → α) (xs : List β) : Prop :=
  ∀ x ∈ xs, ∀ tail, EndsElement tail → element (print x ++ tail) = some (value x, tail)

variable {element : List Char → Option (α × List Char)} {print : β → List Char} {value : β → α}

/-- A printed list is read back as the values of its elements. -/
theorem readList?_intercalate {xs : List β} (reads : ReadsBack element print value xs)
    (some : xs ≠ []) {tail : List Char} (ends : ∀ c ∈ tail.head?, c = ')') :
    readList? element ([',', ' '].intercalate (xs.map print) ++ tail) =
      .some (xs.map value, tail) := by
  induction xs with
  | nil => exact absurd rfl some
  | cons x xs ih =>
    have first := reads x List.mem_cons_self
    cases xs with
    | nil =>
      rw [List.map_singleton, List.intercalate_singleton, readList?,
        first tail fun c isNext => .inr (ends c isNext)]
      cases tail with
      | nil => rfl
      | cons c tail =>
        obtain rfl : c = ')' := ends c rfl
        rfl
    | cons y ys =>
      have more := ih (fun z member => reads z (List.mem_cons_of_mem x member))
        (List.cons_ne_nil y ys)
      have parts : [',', ' '].intercalate ((x :: y :: ys).map print) ++ tail =
          print x ++ ',' :: ' ' :: ([',', ' '].intercalate ((y :: ys).map print) ++ tail) := by
        simp
      rw [parts]
      -- What is behind the separator matters only as a text that is read back, and is shorter.
      generalize [',', ' '].intercalate ((y :: ys).map print) ++ tail = rest at more ⊢
      have shorter : rest.length < (print x ++ ',' :: ' ' :: rest).length := by
        simp only [List.length_append, List.length_cons]
        omega
      rw [readList?, first _ (by simp [EndsElement])]
      change (if rest.length < (print x ++ ',' :: ' ' :: rest).length then _ else _) = _
      rw [if_pos shorter, more]
      rfl

theorem readTuple?_parenthesized {xs : List β} (reads : ReadsBack element print value xs)
    (some : xs ≠ []) (tail : List Char) :
    readTuple? element ('(' :: [',', ' '].intercalate (xs.map print) ++ ')' :: tail) =
      .some (xs.map value, tail) := by
  have ends : ∀ c ∈ (')' :: tail).head?, c = ')' := by simp
  have inner := readList?_intercalate reads some ends
  simp [readTuple?, inner]

end Lists

end SqlQuery.Text
