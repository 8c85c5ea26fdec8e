import SqlQuery.Proofs.DeclaredTables

/-!
The grammar of columns: what is read from a text, and from what text it is read again.

What a head can be once it has been read is `Head.IsRead`, and what a modifier and an output name
can be is `IsTail`; `read?_eq_some_iff` makes columns of them.  Such parts, written with single
spaces and with keywords in capitals, are read again as what they were (`readHead?_written`,
`readTail?_written`), and blanks at the end of a text are left over or passed over
(`readHead?_append_blanks`, `readTail?_append_blanks`).
-/

namespace SqlQuery

/-! ## Characters of identifiers -/

namespace Text

theorem toNat_of_isNameChar {c : Char} (name : isNameChar c = true) :
    48 ≤ c.toNat ∧ c.toNat ≤ 122 := by
  unfold isNameChar isLetter at name
  delta Char.isAlpha Char.isUpper Char.isLower Char.isDigit at name
  simp only [Bool.or_eq_true, Bool.and_eq_true, decide_eq_true_eq, beq_iff_eq,
    UInt32.le_iff_toNat_le] at name
  rcases name with ((capital | small) | rfl) | digit
  · change 65 ≤ c.toNat ∧ c.toNat ≤ 90 at capital
    omega
  · change 97 ≤ c.toNat ∧ c.toNat ≤ 122 at small
    omega
  · decide
  · change 48 ≤ c.toNat ∧ c.toNat ≤ 57 at digit
    omega

/-- Case folding changes capitals and two characters outside ASCII, and none of these is blank. -/
theorem fold_eq_self_of_isBlank {c : Char} (blank : isBlank c = true) : fold c = c := by
  have range : c.toNat < 65 ∨ 90 < c.toNat := by
    simp [isBlank, blankRanges] at blank
    omega
  unfold fold
  split
  case isTrue longS => rw [longS] at blank; cases blank
  case isFalse =>
  split
  case isTrue kelvin => rw [kelvin] at blank; cases blank
  case isFalse =>
  unfold Char.toLower
  split
  case isTrue capital =>
    simp only [ge_iff_le, UInt32.le_iff_toNat_le] at capital
    change 65 ≤ c.toNat ∧ c.toNat ≤ 90 at capital
    omega
  case isFalse => rfl

theorem isBlank_of_isNameChar {c : Char} (name : isNameChar c = true) : isBlank c = false := by
  have range := toNat_of_isNameChar name
  simp [isBlank, blankRanges]
  omega

/-- A character of a name is no blank, also where it only folds to one. -/
theorem isBlank_of_isNameChar_fold {c : Char} (name : isNameChar (fold c) = true) :
    isBlank c = false := by
  cases blank : isBlank c with
  | false => rfl
  | true =>
    rw [fold_eq_self_of_isBlank blank] at name
    rw [← blank, isBlank_of_isNameChar name]

theorem isNameChar_of_isIdentifier {s : List Char} (identifier : isIdentifier s = true) {c : Char}
    (member : c ∈ s) : isNameChar c = true := by
  cases s with
  | nil => cases member
  | cons d s =>
    simp only [isIdentifier, Bool.and_eq_true, List.all_eq_true] at identifier
    rcases List.mem_cons.1 member with rfl | later
    · simp [isNameChar, identifier.1]
    · exact identifier.2 c later

theorem isNameChar_of_isFoldedIdentifier {s : List Char} (identifier : isFoldedIdentifier s = true)
    {c : Char} (member : c ∈ s) : isNameChar (fold c) = true :=
  isNameChar_of_isIdentifier identifier (List.mem_map_of_mem member)

theorem isBlank_of_isFoldedIdentifier {s : List Char} (identifier : isFoldedIdentifier s = true)
    {c : Char} (member : c ∈ s) : isBlank c = false :=
  isBlank_of_isNameChar_fold (isNameChar_of_isFoldedIdentifier identifier member)

theorem ne_nil_of_isFoldedIdentifier {s : List Char} (identifier : isFoldedIdentifier s = true) :
    s ≠ [] := by
  rintro rfl
  cases identifier

/-! ## Words -/

theorem runs_ne_nil (s : List Char) : runs s ≠ [] := by
  induction s with
  | nil => exact List.cons_ne_nil _ _
  | cons c s ih =>
    simp only [runs]
    split
    · exact List.cons_ne_nil _ _
    · simpa using ih

/-- A blank at the end starts one more run, which is empty. -/
theorem runs_append_blank (s : List Char) {c : Char} (blank : isBlank c = true) :
    runs (s ++ [c]) = runs s ++ [[]] := by
  induction s with
  | nil => simp [runs, blank]
  | cons d s ih =>
    simp only [List.cons_append, runs, ih]
    split
    · rfl
    · cases parts : runs s with
      | nil => exact absurd parts (runs_ne_nil s)
      | cons => rfl

/-- Blanks at the end add no word. -/
theorem words_append_blanks (s : List Char) {blanks : List Char}
    (blank : ∀ c ∈ blanks, isBlank c = true) : words (s ++ blanks) = words s := by
  induction blanks generalizing s with
  | nil => rw [List.append_nil]
  | cons c blanks ih =>
    rw [List.append_cons, ih _ fun d member => blank d (.tail _ member), words,
      runs_append_blank s (blank c (.head _))]
    simp [words]

theorem exists_runs_eq {s : List Char} (apart : s.head?.all isBlank = true) :
    ∃ others, runs s = [] :: others := by
  cases s with
  | nil => exact ⟨[], rfl⟩
  | cons c s =>
    have blank : isBlank c = true := apart
    exact ⟨runs s, by simp [runs, blank]⟩

/-- The characters up to the first blank are the first word. -/
theorem words_append {w s : List Char} (free : ∀ c ∈ w, isBlank c = false) (present : w ≠ [])
    (apart : s.head?.all isBlank = true) : words (w ++ s) = w :: words s := by
  obtain ⟨others, after⟩ := exists_runs_eq apart
  have joined : runs (w ++ s) = w :: others := by
    clear present
    induction w with
    | nil => exact after
    | cons c w ih =>
      have start := free c (.head _)
      simp [runs, start, ih fun d member => free d (.tail _ member)]
  simp [words, joined, after, present]

/-! ## Parts of a text -/

/-- The characters that pass are taken up to the first that does not. -/
theorem takeWhile_dropWhile_append {p : Char → Bool} {w s : List Char}
    (passes : ∀ c ∈ w, p c = true) (stops : s.head?.any p = false) :
    (w ++ s).takeWhile p = w ∧ (w ++ s).dropWhile p = s := by
  rw [List.takeWhile_append_of_pos passes, List.dropWhile_append_of_pos passes]
  cases s with
  | nil => exact ⟨List.append_nil w, rfl⟩
  | cons c s =>
    have stop : p c = false := stops
    simp [stop]

theorem trimChars_subset (s : List Char) : trimChars s ⊆ s :=
  List.Subset.trans (List.rdropWhile_prefix isBlank (trimStart s)).subset
    (List.dropWhile_suffix isBlank).subset

theorem afterKeyword?_append {keyword s rest : List Char}
    (found : afterKeyword? keyword s = some rest) (t : List Char) :
    afterKeyword? keyword (s ++ t) = some (rest ++ t) := by
  obtain ⟨w, rfl, spelled⟩ := afterKeyword?_eq_some_iff.1 found
  exact afterKeyword?_eq_some_iff.2 ⟨w, List.append_assoc w rest t, spelled⟩

end Text

namespace Column

open Text

/-! ## Arguments -/

/-- The text does not start with the word `DISTINCT` and a blank. -/
def IsUnmarked (s : List Char) : Prop :=
  ∀ c rest, afterKeyword? ['d', 'i', 's', 't', 'i', 'n', 'c', 't'] s = some (c :: rest) →
    isBlank c = false

/-- The argument can have been read, with or without the word `DISTINCT` before it. -/
structure IsArgument (distinct : Bool) (argument : List Char) : Prop where
  start : trimStart argument = argument
  stop : trimEnd argument = argument
  unmarked : distinct = false → IsUnmarked argument

theorem isArgument_of_no_blank (distinct : Bool) {argument : List Char}
    (free : ∀ c ∈ argument, isBlank c = false) : IsArgument distinct argument where
  start := by
    cases argument with
    | nil => rfl
    | cons c s => exact trimStart_eq_self (free c (.head _))
  stop := by
    induction argument using List.reverseRecOn with
    | nil => rfl
    | append_singleton s c => exact trimEnd_append_of_not_blank (free c (by simp))
  unmarked := by
    intro _ c rest found
    obtain ⟨w, rfl, -⟩ := afterKeyword?_eq_some_iff.1 found
    exact free c (by simp)

/-- Blanks cut off at the end do not bring a word `DISTINCT` to the start. -/
theorem isUnmarked_trimChars {s : List Char} (unmarked : IsUnmarked (trimStart s)) :
    IsUnmarked (trimChars s) := by
  intro c rest found
  rcases List.rdropWhile_prefix isBlank (trimStart s) with ⟨cutOff, parts⟩
  have longer := afterKeyword?_append found cutOff
  rw [trimChars, trimEnd_eq_rdropWhile, parts] at longer
  exact unmarked c _ longer

theorem isArgument_trimChars {distinct : Bool} {s : List Char}
    (unmarked : distinct = false → IsUnmarked (trimStart s)) :
    IsArgument distinct (trimChars s) where
  start := trimStart_trimChars s
  stop := trimEnd_trimEnd (trimStart s)
  unmarked := fun undistinguished => isUnmarked_trimChars (unmarked undistinguished)

/-- The argument of a call is trimmed, and is unmarked where no mark was split off. -/
theorem isArgument_splitDistinct (inner : List Char) :
    IsArgument (splitDistinct inner).1 (splitDistinct inner).2 := by
  unfold splitDistinct
  dsimp only
  split
  case h_1 c rest marked =>
    split
    case isTrue => exact isArgument_trimChars nofun
    case isFalse runsOn =>
      refine isArgument_trimChars fun _ d after found => ?_
      obtain ⟨rfl, rfl⟩ := List.cons.inj (Option.some.inj (marked.symm.trans found))
      exact eq_false_of_ne_true runsOn
  case h_2 unmarked =>
    exact isArgument_trimChars fun _ c rest found => absurd found (unmarked c rest)

theorem splitDistinct_subset (inner : List Char) : (splitDistinct inner).2 ⊆ inner := by
  unfold splitDistinct
  dsimp only
  split
  case h_1 c rest marked =>
    split
    case isTrue =>
      obtain ⟨w, parts, -⟩ := afterKeyword?_eq_some_iff.1 marked
      have start : trimStart inner ⊆ inner := (List.dropWhile_suffix isBlank).subset
      rw [parts] at start
      exact fun d member => start (by simp [trimChars_subset rest member])
    case isFalse => exact trimChars_subset inner
  case h_2 => exact trimChars_subset inner

/-- An argument is read again as it is printed. -/
theorem splitDistinct_written {distinct : Bool} {argument : List Char}
    (isArgument : IsArgument distinct argument) :
    splitDistinct ((if distinct then "DISTINCT " else "").toList ++ argument) =
      (distinct, argument) := by
  cases distinct with
  | true =>
    have marked : afterKeyword? ['d', 'i', 's', 't', 'i', 'n', 'c', 't']
        ("DISTINCT ".toList ++ argument) = some (' ' :: argument) :=
      afterKeyword?_eq_some_iff.2 ⟨"DISTINCT".toList, rfl, by decide⟩
    have start : trimStart ("DISTINCT ".toList ++ argument) = "DISTINCT ".toList ++ argument :=
      trimStart_eq_self rfl
    have trimmed : trimChars argument = argument := by
      rw [trimChars, isArgument.start, isArgument.stop]
    simp only [splitDistinct, start, marked, trimmed, if_true]
    rfl
  | false =>
    have unmarked := isArgument.unmarked rfl
    simp only [splitDistinct, isArgument.start, isArgument.stop, Bool.false_eq_true, if_false,
      String.toList_empty, List.nil_append]
    split
    case h_1 c rest found => rw [if_neg (by simp [unmarked c rest found])]
    case h_2 => rfl

/-! ## Function calls -/

/-- A function call is a function, possibly blanks, and a text without parentheses in a pair of
them. -/
theorem readCall?_eq_some_iff {s rest : List Char} {head : Head} :
    readCall? s = some (head, rest) ↔ ∃ function gap inner,
      isFoldedIdentifier function = true ∧ (∀ c ∈ gap, isBlank c = true) ∧
      (∀ c ∈ inner, isParenthesis c = false) ∧
      s = function ++ (gap ++ '(' :: (inner ++ ')' :: rest)) ∧
      head = ⟨some ⟨String.ofList function, (splitDistinct inner).1⟩, (splitDistinct inner).2⟩ := by
  constructor
  · intro read
    unfold readCall? at read
    dsimp only at read
    split at read
    case h_2 => cases read
    case h_1 called opened =>
    split at read
    case h_2 => cases read
    case h_1 tail closed =>
    split at read
    case isFalse => cases read
    case isTrue identifier =>
    obtain ⟨rfl, rfl⟩ := Prod.mk.inj (Option.some.inj read)
    refine ⟨_, (s.dropWhile fun c => isNameChar (fold c)).takeWhile isBlank, _, identifier,
      fun c member => List.mem_takeWhile_imp member, fun c member => ?_, ?_, rfl⟩
    · simpa using List.mem_takeWhile_imp member
    · rw [← closed, List.takeWhile_append_dropWhile, ← opened, trimStart,
        List.takeWhile_append_dropWhile, List.takeWhile_append_dropWhile]
  · rintro ⟨function, gap, inner, identifier, blank, free, rfl, rfl⟩
    have stops : (gap ++ '(' :: (inner ++ ')' :: rest)).head?.any
        (fun c => isNameChar (fold c)) = false := by
      cases gap with
      | nil => rfl
      | cons c gap =>
        show isNameChar (fold c) = false
        rw [← Bool.not_eq_true]
        intro name
        have present := isBlank_of_isNameChar_fold name
        rw [blank c (.head _)] at present
        cases present
    have called := takeWhile_dropWhile_append
      (fun c member => isNameChar_of_isFoldedIdentifier identifier member) stops
    have opened : trimStart (gap ++ '(' :: (inner ++ ')' :: rest)) =
        '(' :: (inner ++ ')' :: rest) := (takeWhile_dropWhile_append blank rfl).2
    have closed := takeWhile_dropWhile_append (p := (!isParenthesis ·)) (w := inner)
      (s := ')' :: rest) (fun c member => by simp [free c member]) rfl
    unfold readCall?
    simp only [called, opened, closed, identifier, if_true]

/-- Without a parenthesis there is no call. -/
theorem readCall?_eq_none {s : List Char} (closed : '(' ∉ s) : readCall? s = none := by
  rw [Option.eq_none_iff_forall_ne_some]
  rintro ⟨head, rest⟩ call
  obtain ⟨function, gap, inner, -, -, -, rfl, -⟩ := readCall?_eq_some_iff.1 call
  simp at closed

/-- Blanks that follow a function call are part of what follows it. -/
theorem readCall?_append_blanks (s : List Char) {blanks : List Char}
    (blank : ∀ c ∈ blanks, isBlank c = true) :
    readCall? (s ++ blanks) = (readCall? s).map fun read => (read.1, read.2 ++ blanks) := by
  cases read : readCall? s with
  | some call =>
    obtain ⟨function, gap, inner, identifier, between, free, rfl, head⟩ :=
      readCall?_eq_some_iff.1 read
    refine readCall?_eq_some_iff.2 ⟨function, gap, inner, identifier, between, free, ?_, head⟩
    simp
  | none =>
    -- The parenthesis that ends a call is not among the blanks, so the call is in the text itself.
    rw [Option.map_none, Option.eq_none_iff_forall_ne_some]
    rintro ⟨head, rest⟩ longer
    obtain ⟨function, gap, inner, identifier, between, free, whole, isHead⟩ :=
      readCall?_eq_some_iff.1 longer
    have parenthesis : ')' ∉ blanks := fun member => by cases blank _ member
    have whole : s ++ blanks = (function ++ (gap ++ '(' :: inner)) ++ ')' :: rest := by simp [whole]
    rcases List.append_eq_append_iff.1 whole with ⟨t, -, rfl⟩ | ⟨t, isText, ends⟩
    · simp at parenthesis
    · cases t with
      | nil =>
        rw [List.nil_append] at ends
        simp [← ends] at parenthesis
      | cons c t =>
        obtain ⟨rfl, -⟩ := List.cons.inj ends
        have parts : s = function ++ (gap ++ '(' :: (inner ++ ')' :: t)) := by simp [isText]
        have call := readCall?_eq_some_iff.2
          ⟨function, gap, inner, identifier, between, free, parts, isHead⟩
        rw [read] at call
        cases call

/-! ## Names -/

/-- A plain name is the longest text without blanks and parentheses. -/
theorem readName?_eq_some_iff {s rest : List Char} {head : Head} :
    readName? s = some (head, rest) ↔ ∃ name, name ≠ [] ∧ (∀ c ∈ name, isPlain c = true) ∧
      rest.head?.any isPlain = false ∧ s = name ++ rest ∧ head = ⟨none, name⟩ := by
  constructor
  · intro read
    unfold readName? at read
    split at read
    case h_1 => cases read
    case h_2 present =>
      obtain ⟨rfl, rfl⟩ := Prod.mk.inj (Option.some.inj read)
      refine ⟨_, present, fun c member => List.mem_takeWhile_imp member, ?_,
        List.takeWhile_append_dropWhile.symm, rfl⟩
      have stops := List.head?_dropWhile_not isPlain s
      cases next : (s.dropWhile isPlain).head? with
      | none => rfl
      | some c => simpa [next] using stops
  · rintro ⟨name, present, plain, stops, rfl, rfl⟩
    have parts := takeWhile_dropWhile_append plain stops
    unfold readName?
    rw [parts.1, parts.2]
    split
    case h_1 => contradiction
    case h_2 => rfl

theorem isPlain_eq_false_of_isBlank {c : Char} (blank : isBlank c = true) : isPlain c = false := by
  simp [isPlain, blank]

/-- Blanks that follow a plain name are part of what follows it. -/
theorem readName?_append_blanks (s : List Char) {blanks : List Char}
    (blank : ∀ c ∈ blanks, isBlank c = true) :
    readName? (s ++ blanks) = (readName? s).map fun read => (read.1, read.2 ++ blanks) := by
  have parts : (s ++ blanks).takeWhile isPlain = s.takeWhile isPlain ∧
      (s ++ blanks).dropWhile isPlain = s.dropWhile isPlain ++ blanks := by
    induction s with
    | nil =>
      refine takeWhile_dropWhile_append nofun ?_
      cases blanks with
      | nil => rfl
      | cons c blanks => exact isPlain_eq_false_of_isBlank (blank c (.head _))
    | cons c s ih =>
      simp only [List.cons_append, List.takeWhile_cons, List.dropWhile_cons]
      split
      · rw [ih.1, ih.2]
        exact ⟨rfl, rfl⟩
      · exact ⟨rfl, rfl⟩
  unfold readName?
  rw [parts.1, parts.2]
  split <;> rfl

/-! ## Heads -/

/-- The head can have been read. -/
def Head.IsRead (head : Head) : Prop :=
  match head.application with
  | some a => isFoldedIdentifier a.function.toList = true ∧
      (∀ c ∈ head.argument, isParenthesis c = false) ∧ IsArgument a.distinct head.argument
  | none => head.argument ≠ [] ∧ ∀ c ∈ head.argument, isPlain c = true

/-- The head as it is printed. -/
def Head.written (head : Head) : List Char :=
  match head.application with
  | some a => a.opening.toList ++ (head.argument ++ [')'])
  | none => head.argument

/-- What is read before the words is a call or a name. -/
theorem isRead_of_readHead? {s rest : List Char} {head : Head}
    (read : readHead? s = some (head, rest)) : head.IsRead := by
  rcases (Option.orElse_eq_some _ _ _).1 read with call | ⟨-, name⟩
  · obtain ⟨function, gap, inner, identifier, -, free, -, rfl⟩ := readCall?_eq_some_iff.1 call
    refine ⟨by simpa using identifier, fun c member => ?_, isArgument_splitDistinct inner⟩
    exact free c (splitDistinct_subset inner member)
  · obtain ⟨name, present, plain, -, -, rfl⟩ := readName?_eq_some_iff.1 name
    exact ⟨present, plain⟩

/-- A head is read again as it is printed, where what follows cannot be taken for part of it. -/
theorem readHead?_written {head : Head} (isRead : head.IsRead) {rest : List Char}
    (closed : '(' ∉ rest) (stops : rest.head?.any isPlain = false) :
    readHead? (head.written ++ rest) = some (head, rest) := by
  obtain ⟨application, argument⟩ := head
  refine (Option.orElse_eq_some _ _ _).2 ?_
  cases application with
  | some a =>
    obtain ⟨identifier, free, isArgument⟩ := isRead
    left
    refine readCall?_eq_some_iff.2 ⟨a.function.toList, [],
      (if a.distinct then "DISTINCT " else "").toList ++ argument, identifier, nofun, ?_, ?_, ?_⟩
    · have word : ∀ c ∈ "DISTINCT ".toList, isParenthesis c = false := by simp [isParenthesis]
      intro c member
      rcases List.mem_append.1 member with inWord | inArgument
      · split at inWord
        · exact word c inWord
        · cases inWord
      · exact free c inArgument
    · simp [Head.written, Application.opening]
    · simp [splitDistinct_written isArgument]
  | none =>
    obtain ⟨present, plain⟩ := isRead
    have closed : '(' ∉ argument ++ rest := by
      rw [List.mem_append, not_or]
      exact ⟨fun member => absurd (plain _ member) (by decide), closed⟩
    right
    exact ⟨readCall?_eq_none closed,
      readName?_eq_some_iff.2 ⟨argument, present, plain, stops, rfl, rfl⟩⟩

/-- Blanks that follow a head are part of what follows it. -/
theorem readHead?_append_blanks (s : List Char) {blanks : List Char}
    (blank : ∀ c ∈ blanks, isBlank c = true) :
    readHead? (s ++ blanks) = (readHead? s).map fun read => (read.1, read.2 ++ blanks) := by
  unfold readHead?
  rw [readCall?_append_blanks s blank, readName?_append_blanks s blank]
  cases readCall? s <;> rfl

/-! ## Modifiers and output names -/

/-- The modifier and the output name can have been read.  The word `AS` is no modifier. -/
structure IsTail (modifier output : Option String) : Prop where
  modifier : ∀ m ∈ modifier,
    isFoldedIdentifier m.toList = true ∧ m.toList.map Char.toLower ≠ ['a', 's']
  output : ∀ o ∈ output, isFoldedIdentifier o.toList = true

/-- The modifier and the output name as they are printed. -/
def writtenTail (modifier output : Option String) : List Char :=
  (match modifier with
    | some m => ' ' :: m.toList
    | none => []) ++
  match output with
    | some o => " AS ".toList ++ o.toList
    | none => []

/-- A modifier is a word of identifier characters other than `AS`. -/
theorem mem_modifierOf {word : List Char} (identifier : isFoldedIdentifier word = true) {m : String}
    (found : m ∈ modifierOf word) :
    isFoldedIdentifier m.toList = true ∧ m.toList.map Char.toLower ≠ ['a', 's'] := by
  unfold modifierOf at found
  split at found
  case isTrue => cases found
  case isFalse other =>
    obtain rfl := Option.some.inj found
    rw [String.toList_ofList]
    exact ⟨identifier, other⟩

/-- A modifier and an output name that are read are names, and the modifier is not `AS`. -/
theorem isTail_of_readTail? {s : List Char} {modifier output : Option String}
    (read : readTail? s = some (modifier, output)) : IsTail modifier output := by
  unfold readTail? at read
  split at read
  case isFalse => cases read
  case isTrue =>
  split at read
  case h_1 =>
    cases read
    exact ⟨nofun, nofun⟩
  case h_2 word _ =>
    split at read
    case isFalse => cases read
    case isTrue identifier =>
      cases read
      exact ⟨fun m => mem_modifierOf identifier, nofun⟩
  case h_3 keyword word _ =>
    split at read
    case isFalse => cases read
    case isTrue named =>
      cases read
      exact ⟨nofun, fun o found => by cases found; simpa using named.2⟩
  case h_4 word keyword name _ =>
    split at read
    case isFalse => cases read
    case isTrue named =>
      cases read
      exact ⟨fun m => mem_modifierOf named.1, fun o found => by cases found; simpa using named.2.2⟩
  case h_5 => cases read

/-- A name behind a space is a word, if a blank or nothing follows. -/
theorem words_cons_of_isFoldedIdentifier {w s : List Char}
    (identifier : isFoldedIdentifier w = true)
    (apart : s.head?.all isBlank = true) : words (' ' :: (w ++ s)) = w :: words s := by
  rw [words_cons_blank (by decide)]
  exact words_append (fun c => isBlank_of_isFoldedIdentifier identifier)
    (ne_nil_of_isFoldedIdentifier identifier) apart

theorem modifierOf_eq_some {m : String} (other : m.toList.map Char.toLower ≠ ['a', 's']) :
    modifierOf m.toList = some m := by
  rw [modifierOf, if_neg other, String.ofList_toList]

/-- An output name is printed as two words. -/
theorem words_writtenOutput {o : String} (identifier : isFoldedIdentifier o.toList = true) :
    words (" AS ".toList ++ o.toList) = [['A', 'S'], o.toList] := by
  have text : " AS ".toList ++ o.toList = ' ' :: (['A', 'S'] ++ ' ' :: (o.toList ++ [])) := by
    simp
  rw [text, words_cons_of_isFoldedIdentifier (by decide) rfl,
    words_cons_of_isFoldedIdentifier identifier rfl]
  rfl

/-- A modifier and an output name are read again as they are printed. -/
theorem readTail?_written {modifier output : Option String} (isTail : IsTail modifier output) :
    readTail? (writtenTail modifier output) = some (modifier, output) := by
  have keyword : isKeyword ['a', 's'] ['A', 'S'] = true := by decide
  cases modifier with
  | none =>
    cases output with
    | none => rfl
    | some o =>
      have identifier := isTail.output o rfl
      have parts : words (writtenTail none (some o)) = _ := words_writtenOutput identifier
      have apart : (writtenTail none (some o)).head?.all isBlank = true := rfl
      simp [readTail?, apart, parts, keyword, identifier]
  | some m =>
    obtain ⟨identifier, other⟩ := isTail.modifier m rfl
    have word := modifierOf_eq_some other
    cases output with
    | none =>
      have parts : words (writtenTail (some m) none) = [m.toList] :=
        words_cons_of_isFoldedIdentifier identifier rfl
      have apart : (writtenTail (some m) none).head?.all isBlank = true := rfl
      simp [readTail?, apart, parts, identifier, word]
    | some o =>
      have named := isTail.output o rfl
      have parts : words (writtenTail (some m) (some o)) = [m.toList, ['A', 'S'], o.toList] := by
        rw [← words_writtenOutput named]
        exact words_cons_of_isFoldedIdentifier identifier rfl
      have apart : (writtenTail (some m) (some o)).head?.all isBlank = true := rfl
      simp [readTail?, apart, parts, keyword, identifier, named, word]

/-- Blanks at the end are passed over. -/
theorem readTail?_append_blanks (s : List Char) {blanks : List Char}
    (blank : ∀ c ∈ blanks, isBlank c = true) : readTail? (s ++ blanks) = readTail? s := by
  have apart : (s ++ blanks).head?.all isBlank = s.head?.all isBlank := by
    cases s with
    | cons c s => rfl
    | nil =>
      cases blanks with
      | nil => rfl
      | cons c blanks => exact blank c (.head _)
  unfold readTail?
  rw [apart, words_append_blanks s blank]

/-! ## The parts of a column -/

/-- The column that a head, a modifier and an output name make up. -/
def Head.column (head : Head) (modifier output : Option String) : Column :=
  match splitQualified? (String.ofList head.argument) with
  | some (table, name) => ⟨some table, .named ⟨head.application, name, modifier, output⟩⟩
  | none => ⟨none, .named ⟨head.application, String.ofList head.argument, modifier, output⟩⟩

/-- The head is no function call on several arguments, or none. -/
def Head.NamesColumn (head : Head) : Prop :=
  ¬(head.application.isSome = true ∧ isCompound head.argument = true)

/-- A column is read if its head and its tail are, and the head names a column. -/
theorem read?_eq_some_iff {s : List Char} {c : Column} :
    read? s = some c ↔ ∃ head rest modifier output,
      readHead? (trimStart s) = some (head, rest) ∧ readTail? rest = some (modifier, output) ∧
      head.NamesColumn ∧ c = head.column modifier output := by
  simp only [read?, Option.bind_eq_bind, Option.bind_eq_some_iff, Prod.exists]
  constructor
  · rintro ⟨head, rest, isHead, modifier, output, isTail, column⟩
    split at column
    case isTrue => cases column
    case isFalse named =>
    refine ⟨head, rest, modifier, output, isHead, isTail, named, ?_⟩
    unfold Head.column
    cases parts : splitQualified? (String.ofList head.argument) <;>
      rw [parts] at column <;> exact (Option.some.inj column).symm
  · rintro ⟨head, rest, modifier, output, isHead, isTail, named, rfl⟩
    refine ⟨head, rest, isHead, modifier, output, isTail, ?_⟩
    rw [if_neg named]
    unfold Head.column
    cases splitQualified? (String.ofList head.argument) <;> rfl

end Column

end SqlQuery
