/-!
White space, and the two things done with it: cutting it off both ends of a text, and cutting a
text into the words that stand between it.
-/

namespace SqlQuery.Text

/-- The code points with the Unicode property `White_Space`, as ranges from first to last. -/
def blankRanges : List (Nat × Nat) :=
  [(0x09, 0x0D), (0x20, 0x20), (0x85, 0x85), (0xA0, 0xA0), (0x1680, 0x1680), (0x2000, 0x200A),
    (0x2028, 0x2029), (0x202F, 0x202F), (0x205F, 0x205F), (0x3000, 0x3000)]

/-- A blank is a character with the Unicode property `White_Space`. -/
def isBlank (c : Char) : Bool :=
  blankRanges.any fun range => range.1 ≤ c.toNat && c.toNat ≤ range.2

/-- The property holds of twenty-five characters. -/
example : (blankRanges.map fun range => range.2 - range.1 + 1).sum = 25 := by decide

/-! ## Both ends of a text -/

/-- What is left after the leading blanks. -/
def trimStart (s : List Char) : List Char := s.dropWhile isBlank

/-- What is left before the trailing blanks. -/
def trimEnd (s : List Char) : List Char := (s.reverse.dropWhile isBlank).reverse

/-- The text between its first and its last character that is not blank. -/
def trimChars (s : List Char) : List Char := trimEnd (trimStart s)

/-- The text between its first and its last character that is not blank. -/
def trim (s : String) : String := String.ofList (trimChars s.toList)

@[simp] theorem toList_trim (s : String) : (trim s).toList = trimChars s.toList :=
  String.toList_ofList

/-- A text that neither starts nor ends with a blank is its own trimmed form. -/
theorem trimStart_eq_self {c : Char} {s : List Char} (h : isBlank c = false) :
    trimStart (c :: s) = c :: s := by
  simp [trimStart, h]

/-- A last character that is not blank stays, and so does all before it. -/
theorem trimEnd_append_of_not_blank {s : List Char} {c : Char} (h : isBlank c = false) :
    trimEnd (s ++ [c]) = s ++ [c] := by
  simp [trimEnd, h]

/-! ## Words -/

/-- The runs of characters between the blanks, the empty ones included. -/
def runs : List Char → List (List Char)
  | [] => [[]]
  | c :: s => if isBlank c then [] :: runs s else (runs s).modifyHead (c :: ·)

/-- The words of a text: its maximal runs of characters that are not blank, in order. -/
def words (s : List Char) : List (List Char) := (runs s).filter (!·.isEmpty)

/-- A blank between two texts separates their words. -/
theorem words_cons_blank {c : Char} {s : List Char} (h : isBlank c = true) :
    words (c :: s) = words s := by
  simp [words, runs, h]

end SqlQuery.Text
