import SqlQuery.Escaper

/-!
How a database reads the text of a statement, as far as strings go.

Outside a string every character stands for itself, and a quote opens a string.  Inside one a
backslash and the character after it stand for one character, and a quote on its own closes the
string.  `Transcript` is what such a reading yields: the skeleton of the text, with one mark for
each string, and the strings themselves.  A text has a transcript when no string is left open at its
end.

Texts that have transcripts can be put together (`transcript?_append`), a text without a quote has
itself as its skeleton (`transcript?_of_quoteFree`), and an escaped text in quotes is one string,
what it stands for (`transcript?_quoted`).
-/

namespace SqlQuery

namespace Text

/-- A symbol of the skeleton of a text: a character outside strings, or a string. -/
inductive Mark
  | char (c : Char)
  | string
deriving DecidableEq, Repr

/-- Where a reader is: outside strings, inside one of which it has read the given characters, or
there behind a backslash. -/
inductive Stance
  | outside
  | inside (read : List Char)
  | escaped (read : List Char)
deriving DecidableEq, Repr

/-- A reader: the skeleton and the strings so far, and where it is. -/
structure Reader where
  skeleton : List Mark := []
  strings : List String := []
  stance : Stance := .outside
deriving DecidableEq, Repr

/-- The character that a backslash and the given one stand for. -/
def unescape : Char → Char
  | '0' => '\x00'
  | 'b' => '\x08'
  | 'n' => '\n'
  | 'r' => '\r'
  | 't' => '\t'
  | 'Z' => '\x1a'
  | c => c

namespace Reader

/-- Reads one character. -/
def step (r : Reader) (c : Char) : Reader :=
  match r.stance with
  | .outside =>
    if c = '\x27' then { r with stance := .inside [] }
    else { r with skeleton := r.skeleton ++ [.char c] }
  | .inside read =>
    if c = '\\' then { r with stance := .escaped read }
    else if c = '\x27' then
      ⟨r.skeleton ++ [.string], r.strings ++ [String.ofList read], .outside⟩
    else { r with stance := .inside (read ++ [c]) }
  | .escaped read => { r with stance := .inside (read ++ [unescape c]) }

/-- Reads a text. -/
def run (r : Reader) (s : List Char) : Reader := s.foldl step r

/-- The reader with something already read before all that it has read. -/
def after (skeleton : List Mark) (strings : List String) (r : Reader) : Reader :=
  ⟨skeleton ++ r.skeleton, strings ++ r.strings, r.stance⟩

@[simp] theorem run_nil (r : Reader) : r.run [] = r := rfl

@[simp] theorem run_cons (r : Reader) (c : Char) (s : List Char) :
    r.run (c :: s) = (r.step c).run s := rfl

theorem run_append (r : Reader) (s t : List Char) : r.run (s ++ t) = (r.run s).run t :=
  List.foldl_append

/-- What was read before has no effect on a step. -/
theorem step_after (skeleton : List Mark) (strings : List String) (r : Reader) (c : Char) :
    (after skeleton strings r).step c = after skeleton strings (r.step c) := by
  rcases r with ⟨marks, texts, stance⟩
  cases stance with
  | outside =>
    simp only [step, after]
    split <;> simp
  | inside read =>
    simp only [step, after]
    repeat' split
    all_goals simp
  | escaped read => rfl

/-- What was read before has no effect on a reading. -/
theorem run_after (skeleton : List Mark) (strings : List String) (r : Reader) (s : List Char) :
    (after skeleton strings r).run s = after skeleton strings (r.run s) := by
  induction s generalizing r with
  | nil => rfl
  | cons c s ih => rw [run_cons, run_cons, step_after, ih]

end Reader

/-- What a text says: its skeleton and its strings. -/
structure Transcript where
  skeleton : List Mark
  strings : List String
deriving DecidableEq, Repr

/-- The transcript of a text, if the reader is outside strings at its end. -/
def transcript? (s : String) : Option Transcript :=
  match ({} : Reader).run s.toList with
  | ⟨skeleton, strings, .outside⟩ => some ⟨skeleton, strings⟩
  | _ => none

/-- A text has a transcript if the reader ends outside strings, and it is what the reader has
collected. -/
theorem transcript?_eq_some_iff {s : String} {t : Transcript} :
    transcript? s = some t ↔ ({} : Reader).run s.toList = ⟨t.skeleton, t.strings, .outside⟩ := by
  rcases t with ⟨skeleton, strings⟩
  unfold transcript?
  split
  case h_1 marks texts read => simp [read]
  case h_2 open_ =>
    simp only [reduceCtorEq, false_iff]
    intro read
    exact open_ _ _ read

/-- The transcript of a text of which one part follows another. -/
theorem transcript?_append {s t : String} {left right : Transcript}
    (first : transcript? s = some left) (second : transcript? t = some right) :
    transcript? (s ++ t) =
      some ⟨left.skeleton ++ right.skeleton, left.strings ++ right.strings⟩ := by
  rw [transcript?_eq_some_iff] at first second ⊢
  rw [String.toList_append, Reader.run_append, first]
  have shifted := Reader.run_after left.skeleton left.strings {} t.toList
  rw [second] at shifted
  simpa [Reader.after] using shifted

/-! ## Texts without quotes -/

/-- The text has no quote. -/
def QuoteFree (s : String) : Prop := '\x27' ∉ s.toList

instance (s : String) : Decidable (QuoteFree s) := inferInstanceAs (Decidable (_ ∉ _))

@[simp] theorem quoteFree_append {s t : String} :
    QuoteFree (s ++ t) ↔ QuoteFree s ∧ QuoteFree t := by
  simp [QuoteFree]

/-- Texts without quotes stay so with a separator that has none. -/
theorem quoteFree_intercalate {separator : String} (free : QuoteFree separator) {xs : List String}
    (each : ∀ x ∈ xs, QuoteFree x) : QuoteFree (separator.intercalate xs) := by
  induction xs with
  | nil =>
    rw [String.intercalate_nil]
    decide
  | cons x xs ih =>
    have first := each x List.mem_cons_self
    have rest := ih fun y member => each y (List.mem_cons_of_mem x member)
    cases xs with
    | nil => simpa using first
    | cons y ys =>
      rw [String.intercalate_cons_cons, quoteFree_append, quoteFree_append]
      exact ⟨⟨first, free⟩, rest⟩

/-- Outside strings, a text without quotes goes into the skeleton as it stands. -/
theorem Reader.run_of_not_mem {s : List Char} (free : '\x27' ∉ s) (r : Reader)
    (outside : r.stance = .outside) :
    r.run s = { r with skeleton := r.skeleton ++ s.map .char } := by
  induction s generalizing r with
  | nil => simp
  | cons c s ih =>
    rw [List.mem_cons, not_or] at free
    have other : c ≠ '\x27' := fun same => free.1 same.symm
    have stepped : r.step c = { r with skeleton := r.skeleton ++ [.char c] } := by
      simp [Reader.step, outside, other]
    rw [Reader.run_cons, stepped]
    simpa using ih free.2 { r with skeleton := r.skeleton ++ [.char c] } outside

/-- The marks of characters that stand for themselves. -/
def marks (s : String) : List Mark := s.toList.map .char

/-- A text without a quote is its own skeleton. -/
theorem transcript?_of_quoteFree {s : String} (free : QuoteFree s) :
    transcript? s = some ⟨marks s, []⟩ := by
  rw [transcript?_eq_some_iff, Reader.run_of_not_mem free {} rfl]
  rfl

/-- Texts with a separator between every two have the strings of each in turn. -/
theorem transcript?_intercalate {α : Type} {separator : String} (free : QuoteFree separator)
    {text : α → String} {transcript : α → Transcript} {xs : List α}
    (read : ∀ x ∈ xs, transcript? (text x) = some (transcript x)) :
    transcript? (separator.intercalate (xs.map text)) =
      some ⟨(marks separator).intercalate (xs.map fun x => (transcript x).skeleton),
        xs.flatMap fun x => (transcript x).strings⟩ := by
  induction xs with
  | nil => rfl
  | cons x xs ih =>
    have first := read x List.mem_cons_self
    have rest := ih fun y member => read y (List.mem_cons_of_mem x member)
    cases xs with
    | nil => simpa using first
    | cons y ys =>
      have before := transcript?_append first (transcript?_of_quoteFree free)
      have all := transcript?_append before rest
      simpa [List.append_assoc] using all

theorem quoteFree_space : QuoteFree " " := by decide

theorem quoteFree_comma : QuoteFree ", " := by decide

/-- A text in parentheses has the strings of the text. -/
theorem transcript?_parenthesized {s : String} {t : Transcript} (read : transcript? s = some t) :
    transcript? ("(" ++ s ++ ")") =
      some ⟨marks "(" ++ t.skeleton ++ marks ")", t.strings⟩ := by
  have opening : QuoteFree "(" := by decide
  have closing : QuoteFree ")" := by decide
  have all := transcript?_append (transcript?_append (transcript?_of_quoteFree opening) read)
    (transcript?_of_quoteFree closing)
  simpa using all

/-! ## Quoted texts -/

/-- The escaped text stands for the given characters: a reader inside a string reads them. -/
def StandsFor (escaped : List Char) (s : List Char) : Prop :=
  ∀ (skeleton : List Mark) (strings : List String) (read : List Char),
    Reader.run ⟨skeleton, strings, .inside read⟩ escaped = ⟨skeleton, strings, .inside (read ++ s)⟩

/-- The first text is an escaped form of the second one: a character stands for itself if it is
neither a quote nor a backslash, and behind a backslash for the one that it means there.  A wildcard
does not stand behind one. -/
inductive Escapes : List Char → List Char → Prop
  | nil : Escapes [] []
  | alone {c : Char} {escaped s : List Char} (quote : c ≠ '\x27') (backslash : c ≠ '\\')
      (rest : Escapes escaped s) : Escapes (c :: escaped) (c :: s)
  | behind {c : Char} {escaped s : List Char} (percent : c ≠ '%') (underscore : c ≠ '_')
      (rest : Escapes escaped s) : Escapes ('\\' :: c :: escaped) (unescape c :: s)

theorem Escapes.append {escaped escaped' s s' : List Char} (left : Escapes escaped s)
    (right : Escapes escaped' s') : Escapes (escaped ++ escaped') (s ++ s') := by
  induction left with
  | nil => exact right
  | alone quote backslash _ ih => exact .alone quote backslash ih
  | behind percent underscore _ ih => exact .behind percent underscore ih

/-- An escaped form of a text stands for the text. -/
theorem Escapes.standsFor {escaped s : List Char} (escapes : Escapes escaped s) :
    StandsFor escaped s := by
  induction escapes with
  | nil => intro skeleton strings read; simp
  | @alone c escaped s quote backslash _ ih =>
    intro skeleton strings read
    have stepped : Reader.step ⟨skeleton, strings, .inside read⟩ c =
        ⟨skeleton, strings, .inside (read ++ [c])⟩ := by
      simp [Reader.step, quote, backslash]
    rw [Reader.run_cons, stepped, ih, List.append_assoc]
    rfl
  | @behind c escaped s _ _ _ ih =>
    intro skeleton strings read
    have stepped : Reader.run ⟨skeleton, strings, .inside read⟩ ['\\', c] =
        ⟨skeleton, strings, .inside (read ++ [unescape c])⟩ := rfl
    change (Reader.run ⟨skeleton, strings, .inside read⟩ ['\\', c]).run escaped = _
    rw [stepped, ih, List.append_assoc]
    rfl

/-- The text has neither a quote nor a backslash. -/
def Plain (s : List Char) : Prop := ∀ c ∈ s, c ≠ '\x27' ∧ c ≠ '\\'

instance (s : List Char) : Decidable (Plain s) :=
  List.decidableBAll (fun c => c ≠ '\x27' ∧ c ≠ '\\') s

theorem Plain.append {s t : List Char} (left : Plain s) (right : Plain t) : Plain (s ++ t) := by
  intro c member
  rcases List.mem_append.1 member with inLeft | inRight
  · exact left c inLeft
  · exact right c inRight

/-- A plain text is an escaped form of itself. -/
theorem Escapes.of_plain {s : List Char} (plain : Plain s) : Escapes s s := by
  induction s with
  | nil => exact .nil
  | cons c s ih =>
    rcases plain c List.mem_cons_self with ⟨quote, backslash⟩
    exact .alone quote backslash (ih fun d member => plain d (List.mem_cons_of_mem c member))

/-- The escaped form of a character is the character itself, which is then neither a quote nor a
backslash, or a backslash and another character that stand for it.  That other one is never a
wildcard. -/
theorem backslashed_cases (c : Char) :
    (Escaper.backslashed c = [c] ∧ c ≠ '\x27' ∧ c ≠ '\\') ∨
      ∃ d, Escaper.backslashed c = ['\\', d] ∧ unescape d = c ∧ d ≠ '%' ∧ d ≠ '_' := by
  by_cases lettered : c = '\x00' ∨ c = '\x08' ∨ c = '\n' ∨ c = '\r' ∨ c = '\t' ∨ c = '\x1a'
  · right
    rcases lettered with rfl | rfl | rfl | rfl | rfl | rfl <;> exact ⟨_, rfl, by decide⟩
  · by_cases itself : c = '\x27' ∨ c = '"' ∨ c = '\\'
    · right
      rcases itself with rfl | rfl | rfl <;> exact ⟨_, rfl, by decide⟩
    · left
      simp only [not_or] at lettered itself
      exact ⟨by simp [Escaper.backslashed, lettered, itself], itself.1, itself.2.2⟩

/-- Every character is escaped to what is read as that character. -/
theorem Escapes.backslashed (c : Char) : Escapes (Escaper.backslashed c) [c] := by
  rcases backslashed_cases c with
    ⟨alone, quote, backslash⟩ | ⟨d, behind, rfl, percent, underscore⟩
  · rw [alone]
    exact .alone quote backslash .nil
  · rw [behind]
    exact .behind percent underscore .nil

theorem Escapes.backslashedChars (s : List Char) : Escapes (Escaper.backslashedChars s) s := by
  induction s with
  | nil => exact .nil
  | cons c s ih => exact (Escapes.backslashed c).append ih

/-- A text in quotes is one string, what it stands for. -/
theorem transcript?_quoted {escaped : String} {s : List Char}
    (escapes : Escapes escaped.toList s) :
    transcript? ("'" ++ escaped ++ "'") = some ⟨[.string], [String.ofList s]⟩ := by
  rw [transcript?_eq_some_iff]
  have quote : "'".toList = ['\x27'] := rfl
  rw [String.toList_append, String.toList_append, quote, Reader.run_append, Reader.run_append]
  have opened : ({} : Reader).run ['\x27'] = ⟨[], [], .inside []⟩ := rfl
  rw [opened, escapes.standsFor]
  rfl

end Text

end SqlQuery
