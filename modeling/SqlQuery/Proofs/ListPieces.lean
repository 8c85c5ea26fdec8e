import SqlQuery.Proofs.EnclosedSubquery

/-!
Where a list that is written in one text is cut.

A text is cut at the commas that no parenthesis encloses (`Text.IsCut`).  `Text.CutInto` relates a
text to what stands between these commas, one cut at a time, and the pieces of a text are the one
list that it relates the text to (`Text.cutInto_iff`).  So texts that are not cut, all but the last
of which close what they open, are the items of the list that is made of them
(`Text.items_intercalate`), and several lists may be given as one
(`Text.allItems_singleton_intercalate`).
-/

namespace SqlQuery.Text

/-! ## Open parentheses -/

/-- The number of parentheses that are open behind a text, from the number before it.  One that
closes nothing is passed over. -/
def openBehind (depth : Nat) (s : List Char) : Nat := s.foldl depthAfter depth

@[simp] theorem openBehind_cons (depth : Nat) (c : Char) (s : List Char) :
    openBehind depth (c :: s) = openBehind (depthAfter depth c) s := rfl

@[simp] theorem openBehind_append (depth : Nat) (s t : List Char) :
    openBehind depth (s ++ t) = openBehind (openBehind depth s) t :=
  List.foldl_append

theorem depthAfter_of_isBlank {c : Char} (blank : isBlank c = true) (depth : Nat) :
    depthAfter depth c = depth := by
  unfold depthAfter
  split
  · cases blank
  · cases blank
  · rfl

theorem openBehind_of_blank {s : List Char} (blank : ∀ c ∈ s, isBlank c = true) (depth : Nat) :
    openBehind depth s = depth := by
  induction s with
  | nil => rfl
  | cons c s ih =>
    rw [openBehind_cons, depthAfter_of_isBlank (blank c (.head s)),
      ih fun d member => blank d (.tail c member)]

/-! ## Cuts -/

/-- A text, before which a number of parentheses are open, is cut between two parts of it: a comma
stands there, and no parenthesis is open before that. -/
structure IsCut (depth : Nat) (s before after : List Char) : Prop where
  parts : s = before ++ ',' :: after
  outside : openBehind depth before = 0

/-- The text is cut nowhere. -/
def IsUncut (depth : Nat) (s : List Char) : Prop := ∀ before after, ¬IsCut depth s before after

theorem isUncut_nil (depth : Nat) : IsUncut depth [] := fun _ _ cut => by simpa using cut.parts

/-- A text is cut at its first character, if at all, or behind it. -/
theorem isUncut_cons_iff {depth : Nat} {c : Char} {s : List Char} :
    IsUncut depth (c :: s) ↔ ¬(c = ',' ∧ depth = 0) ∧ IsUncut (depthAfter depth c) s := by
  constructor
  · refine fun uncut => ⟨?_, fun before after cut => uncut (c :: before) after ?_⟩
    · rintro ⟨rfl, rfl⟩
      exact uncut [] s ⟨rfl, rfl⟩
    · exact ⟨congrArg (c :: ·) cut.parts, cut.outside⟩
  · rintro ⟨first, uncut⟩ before after ⟨parts, outside⟩
    cases before with
    | nil => exact first ⟨(List.cons.inj parts).1, outside⟩
    | cons d before =>
      rw [List.cons_append, List.cons.injEq] at parts
      obtain ⟨rfl, parts⟩ := parts
      exact uncut before after ⟨parts, outside⟩

/-- A text that is not cut has no part before which it could be: blanks change nothing. -/
theorem isUncut_blanks_append_iff {depth : Nat} {blanks s : List Char}
    (blank : ∀ c ∈ blanks, isBlank c = true) : IsUncut depth (blanks ++ s) ↔ IsUncut depth s := by
  induction blanks with
  | nil => rfl
  | cons c blanks ih =>
    have isBlank := blank c (.head blanks)
    have other : c ≠ ',' := by
      rintro rfl
      cases isBlank
    rw [List.cons_append, isUncut_cons_iff, depthAfter_of_isBlank isBlank,
      ih fun d member => blank d (.tail c member)]
    simp [other]

theorem IsUncut.of_append {depth : Nat} {s t : List Char} (uncut : IsUncut depth (s ++ t)) :
    IsUncut depth s := by
  rintro before after ⟨rfl, outside⟩
  exact uncut before (after ++ t) ⟨by simp, outside⟩

/-- Trimming a text changes neither what it leaves open nor that it is not cut. -/
theorem openBehind_trimChars (depth : Nat) (s : List Char) :
    openBehind depth (trimChars s) = openBehind depth s := by
  obtain ⟨before, after, parts, blankBefore, blankAfter⟩ := exists_append_trimChars s
  conv_rhs => rw [parts]
  rw [openBehind_append, openBehind_append, openBehind_of_blank blankBefore,
    openBehind_of_blank blankAfter]

theorem IsUncut.trimChars {depth : Nat} {s : List Char} (uncut : IsUncut depth s) :
    IsUncut depth (trimChars s) := by
  obtain ⟨before, after, parts, blank, -⟩ := exists_append_trimChars s
  rw [parts, isUncut_blanks_append_iff blank] at uncut
  exact uncut.of_append

/-! ## Cutting a text -/

/-- The text is cut into the given pieces.  What is open before it is open before the first of them
alone, since at a cut nothing is. -/
inductive CutInto : Nat → List Char → List (List Char) → Prop
  | whole {depth : Nat} {s : List Char} (uncut : IsUncut depth s) : CutInto depth s [s]
  | cut {depth : Nat} {p s : List Char} {ps : List (List Char)} (uncut : IsUncut depth p)
      (closed : openBehind depth p = 0) (rest : CutInto 0 s ps) :
      CutInto depth (p ++ ',' :: s) (p :: ps)

/-- A character at which the text is not cut belongs to its first piece. -/
theorem CutInto.cons {depth : Nat} {c : Char} {s : List Char} {ps : List (List Char)}
    (other : ¬(c = ',' ∧ depth = 0)) (pieces : CutInto (depthAfter depth c) s ps) :
    CutInto depth (c :: s) (ps.modifyHead (c :: ·)) := by
  cases pieces with
  | whole uncut => exact .whole (isUncut_cons_iff.2 ⟨other, uncut⟩)
  | cut uncut closed rest => exact .cut (isUncut_cons_iff.2 ⟨other, uncut⟩) closed rest

/-- A text is cut into its pieces. -/
theorem cutInto_pieces (depth : Nat) (s : List Char) : CutInto depth s (pieces depth s) := by
  induction s generalizing depth with
  | nil => exact .whole (isUncut_nil depth)
  | cons c s ih =>
    unfold pieces
    split
    case isTrue here =>
      obtain ⟨rfl, rfl⟩ := here
      exact .cut (isUncut_nil 0) rfl (ih 0)
    case isFalse other => exact (ih _).cons other

/-- The pieces around a cut are those of the two parts. -/
theorem pieces_append_comma {depth : Nat} {s : List Char} (closed : openBehind depth s = 0)
    (t : List Char) : pieces depth (s ++ ',' :: t) = pieces depth s ++ pieces 0 t := by
  induction s generalizing depth with
  | nil =>
    obtain rfl : depth = 0 := closed
    rfl
  | cons c s ih =>
    rw [List.cons_append, pieces, pieces]
    split
    case isTrue here =>
      obtain ⟨rfl, rfl⟩ := here
      rw [ih (show openBehind 0 s = 0 from closed), List.cons_append]
    case isFalse other =>
      rw [ih closed]
      cases parts : pieces (depthAfter depth c) s with
      | nil => exact absurd parts (pieces_ne_nil _ s)
      | cons p ps => rfl

theorem pieces_of_isUncut {depth : Nat} {s : List Char} (uncut : IsUncut depth s) :
    pieces depth s = [s] := by
  have pieces := cutInto_pieces depth s
  cases parts : Text.pieces depth s with
  | nil => exact absurd parts (pieces_ne_nil depth s)
  | cons p ps =>
    rw [parts] at pieces
    cases pieces with
    | whole => rfl
    | cut _ closed _ => exact absurd ⟨rfl, closed⟩ (uncut p _)

/-- There is one way to cut a text. -/
theorem cutInto_iff {depth : Nat} {s : List Char} {ps : List (List Char)} :
    CutInto depth s ps ↔ pieces depth s = ps := by
  constructor
  · intro pieces
    induction pieces with
    | whole uncut => exact pieces_of_isUncut uncut
    | cut uncut closed _ ih =>
      rw [pieces_append_comma closed, pieces_of_isUncut uncut, ih]
      rfl
  · rintro rfl
    exact cutInto_pieces depth s

/-! ## What the pieces of a text are -/

namespace CutInto

variable {depth : Nat} {s : List Char} {ps : List (List Char)}

theorem ne_nil (pieces : CutInto depth s ps) : ps ≠ [] := by
  cases pieces <;> exact List.cons_ne_nil _ _

/-- With the commas between them the pieces are the text. -/
theorem intercalate_eq (pieces : CutInto depth s ps) : [','].intercalate ps = s := by
  induction pieces with
  | whole => exact List.intercalate_singleton
  | @cut depth p s ps _ _ rest ih =>
    rw [List.intercalate_cons_of_ne_nil rest.ne_nil, ih]
    simp

/-- A piece on its own is not cut, if it is scanned from the depth at which it is met. -/
theorem isUncut (pieces : CutInto 0 s ps) {p : List Char} (member : p ∈ ps) : IsUncut 0 p := by
  generalize start : 0 = depth at pieces
  induction pieces with
  | whole uncut =>
    subst start
    rwa [List.mem_singleton.1 member]
  | cut uncut _ _ ih =>
    subst start
    rcases List.mem_cons.1 member with rfl | later
    · exact uncut
    · exact ih later rfl

/-- Each piece but the last leaves nothing open. -/
theorem closed (pieces : CutInto 0 s ps) : ps.Pairwise fun p _ => openBehind 0 p = 0 := by
  generalize start : 0 = depth at pieces
  induction pieces with
  | whole => exact List.pairwise_singleton _ _
  | cut _ closed _ ih =>
    subst start
    exact List.pairwise_cons.2 ⟨fun _ _ => closed, ih rfl⟩

end CutInto

theorem intercalate_pieces (depth : Nat) (s : List Char) :
    [','].intercalate (pieces depth s) = s :=
  (cutInto_pieces depth s).intercalate_eq

/-! ## Items -/

/-- The texts of pieces as items: trimmed, without the blank ones. -/
def itemsOf (ps : List (List Char)) : List String :=
  ((ps.map trimChars).filter (!·.isEmpty)).map String.ofList

theorem itemsOf_append (ps qs : List (List Char)) :
    itemsOf (ps ++ qs) = itemsOf ps ++ itemsOf qs := by
  simp [itemsOf]

/-- Of several lists that are joined by commas the items are those of each in turn, if each list but
the last closes what it opens. -/
theorem allItems_singleton_intercalate {lists : List String}
    (closed : ∀ list ∈ lists.dropLast, openBehind 0 list.toList = 0) :
    allItems [",".intercalate lists] = allItems lists := by
  induction lists with
  | nil => rfl
  | cons list lists ih =>
    cases lists with
    | nil => simp
    | cons next lists =>
      rw [List.dropLast_cons_cons, List.forall_mem_cons] at closed
      have rest := ih closed.2
      rw [allItems, List.flatMap_singleton] at rest ⊢
      have parts : (",".intercalate (list :: next :: lists)).toList =
          list.toList ++ ',' :: (",".intercalate (next :: lists)).toList := by simp
      have here : items (",".intercalate (list :: next :: lists)) =
          items list ++ items (",".intercalate (next :: lists)) := by
        change itemsOf (pieces 0 _) = itemsOf (pieces 0 _) ++ itemsOf (pieces 0 _)
        rw [parts, pieces_append_comma closed.1, itemsOf_append]
      rw [here, rest]
      rfl

/-- A blank at the start of a text belongs to none of its items. -/
theorem itemsOf_pieces_cons_of_isBlank {c : Char} (blank : isBlank c = true) (s : List Char) :
    itemsOf (pieces 0 (c :: s)) = itemsOf (pieces 0 s) := by
  have other : c ≠ ',' := by
    rintro rfl
    cases blank
  have trimmed (p : List Char) : trimChars (c :: p) = trimChars p := by
    simp [trimChars, trimStart, blank]
  rw [pieces, if_neg (by simp [other]), depthAfter_of_isBlank blank]
  cases pieces 0 s with
  | nil => rfl
  | cons p ps => simp [itemsOf, trimmed]

/-- Texts that are not cut, each but the last of which closes what it opens, are the items of the
list that they make, but for the blanks around them. -/
theorem items_intercalate {ps : List (List Char)} (uncut : ∀ p ∈ ps, IsUncut 0 p)
    (closed : ps.Pairwise fun p _ => openBehind 0 p = 0) :
    items (", ".intercalate (ps.map String.ofList)) = itemsOf ps := by
  induction ps with
  | nil => rfl
  | cons p ps ih =>
    rw [List.forall_mem_cons] at uncut
    rw [List.pairwise_cons] at closed
    have rest := ih uncut.2 closed.2
    have first : pieces 0 p = [p] := pieces_of_isUncut uncut.1
    change itemsOf (pieces 0 _) = _ at rest ⊢
    cases ps with
    | nil => simp [first]
    | cons q ps =>
      have parts : (", ".intercalate ((p :: q :: ps).map String.ofList)).toList =
          p ++ ',' :: ' ' :: (", ".intercalate ((q :: ps).map String.ofList)).toList := by simp
      rw [parts, pieces_append_comma (closed.1 q List.mem_cons_self), first, itemsOf_append,
        itemsOf_pieces_cons_of_isBlank (by decide), rest, ← itemsOf_append]
      rfl

/-- Trimming pieces and leaving out the blank ones makes no other items of them. -/
theorem itemsOf_filter_trimChars (ps : List (List Char)) :
    itemsOf ((ps.map trimChars).filter (!·.isEmpty)) = itemsOf ps := by
  have trimmed : ((ps.map trimChars).filter (!·.isEmpty)).map trimChars =
      (ps.map trimChars).filter (!·.isEmpty) := by
    refine (List.map_congr_left fun p member => ?_).trans (List.map_id _)
    obtain ⟨q, -, rfl⟩ := List.mem_map.1 (List.mem_of_mem_filter member)
    exact trimChars_trimChars q
  rw [itemsOf, trimmed, List.filter_filter]
  simp [itemsOf]

theorem intercalate_append {first rest : List (List Char)} (some : first ≠ []) (more : rest ≠ []) :
    [','].intercalate (first ++ rest) =
      [','].intercalate first ++ ',' :: [','].intercalate rest := by
  induction first with
  | nil => exact absurd rfl some
  | cons p first ih =>
    cases first with
    | nil => simp [List.intercalate_cons_of_ne_nil more]
    | cons q first =>
      have parts := ih (List.cons_ne_nil q first)
      rw [List.cons_append, List.cons_append, List.intercalate_cons_cons,
        List.intercalate_cons_cons, ← List.cons_append, parts]
      simp

theorem openBehind_intercalate {ps : List (List Char)} (closed : ∀ p ∈ ps, openBehind 0 p = 0) :
    openBehind 0 ([','].intercalate ps) = 0 := by
  induction ps with
  | nil => rfl
  | cons p ps ih =>
    rw [List.forall_mem_cons] at closed
    have rest := ih closed.2
    cases ps with
    | nil => simpa using closed.1
    | cons q ps =>
      rw [List.intercalate_cons_cons, openBehind_append, openBehind_append, closed.1]
      exact rest

/-- What stands between pieces is where the text is cut. -/
theorem CutInto.isCut_iff {s : List Char} {ps : List (List Char)} (pieces : CutInto 0 s ps)
    {before after : List Char} :
    IsCut 0 s before after ↔
      ∃ first rest, first ≠ [] ∧ rest ≠ [] ∧ first ++ rest = ps ∧
        [','].intercalate first = before ∧ [','].intercalate rest = after := by
  constructor
  · rintro ⟨parts, outside⟩
    refine ⟨Text.pieces 0 before, Text.pieces 0 after, pieces_ne_nil 0 _, pieces_ne_nil 0 _, ?_,
      intercalate_pieces 0 before, intercalate_pieces 0 after⟩
    rw [← pieces_append_comma outside, ← parts, cutInto_iff.1 pieces]
  · rintro ⟨first, rest, some, more, rfl, rfl, rfl⟩
    obtain ⟨q, later⟩ := List.exists_mem_of_ne_nil rest more
    refine ⟨?_, openBehind_intercalate fun p member => ?_⟩
    · rw [← pieces.intercalate_eq, intercalate_append some more]
    · exact (List.pairwise_append.1 pieces.closed).2.2 p member q later

/-- The items of a list are its pieces, trimmed and without the blank ones.  The text is cut into
the pieces at each comma before which no parenthesis is open, and at nothing else: none of the
pieces is cut when it is read alone, and the pieces and the commas between them are the whole text.
So the pieces make the same list if they are joined anew, and so do the items. -/
theorem exists_pieces_of_items (list : String) :
    ∃ ps : List (List Char),
      items list = ((ps.map trimChars).filter (!·.isEmpty)).map String.ofList ∧
      (∀ before after, IsCut 0 list.toList before after ↔
        ∃ first rest, first ≠ [] ∧ rest ≠ [] ∧ first ++ rest = ps ∧
          [','].intercalate first = before ∧ [','].intercalate rest = after) ∧
      (∀ p ∈ ps, IsUncut 0 p) ∧
      [','].intercalate ps = list.toList ∧
      items (", ".intercalate (ps.map String.ofList)) = items list ∧
      items (", ".intercalate (items list)) = items list := by
  have pieces := cutInto_pieces 0 list.toList
  refine ⟨_, rfl, fun _ _ => pieces.isCut_iff, fun p => pieces.isUncut, pieces.intercalate_eq,
    items_intercalate (fun p => pieces.isUncut) pieces.closed, ?_⟩
  generalize isList : Text.pieces 0 list.toList = ps at pieces
  have trimmed : items list = ((ps.map trimChars).filter (!·.isEmpty)).map String.ofList := by
    rw [← isList]
    rfl
  have uncut : ∀ p ∈ (ps.map trimChars).filter (!·.isEmpty), IsUncut 0 p := by
    intro p member
    obtain ⟨q, isPiece, rfl⟩ := List.mem_map.1 (List.mem_of_mem_filter member)
    exact (pieces.isUncut isPiece).trimChars
  have closed : ((ps.map trimChars).filter (!·.isEmpty)).Pairwise
      fun p _ => openBehind 0 p = 0 := by
    refine List.Pairwise.filter _ (List.pairwise_map.2 ?_)
    simpa only [openBehind_trimChars] using pieces.closed
  rw [trimmed, items_intercalate uncut closed, itemsOf_filter_trimChars]
  rfl

end SqlQuery.Text
