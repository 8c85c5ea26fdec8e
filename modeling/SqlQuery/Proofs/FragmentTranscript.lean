import SqlQuery.Join
import SqlQuery.Proofs.Transcript

/-!
The strings in a fragment.

Every text of a statement's fragment closes the strings it opens, so the strings of the statement
are those of its pieces in order: `Fragment.Reads` says that of a fragment and its strings, and it
holds of fragments that are put together as it holds of their parts.  `Fragment.frame` is what is
left of a fragment without its strings.  A fragment with quote-free qualifiers is read back as its
strings (`Fragment.Reads.transcript?_fill`), between marks that depend on its frame only; and what
is skipped as blank or looked up among the slots depends on the frame only, too.
-/

namespace SqlQuery

open Text

/-- What a piece shows without the strings in its text. -/
inductive Frame
  | text (blank : Bool) (skeleton : Option (List Mark))
  | qualifier (table : Nat)
  | introduced (table : Nat)
deriving DecidableEq, Repr

/-- What a piece shows without the strings in its text. -/
def Piece.frame : Piece → Frame
  | .text s => .text s.isEmpty ((transcript? s).map Transcript.skeleton)
  | .qualifier table => .qualifier table
  | .introduced table => .introduced table

/-- Behind a quote-free text, a text shows what it shows alone. -/
theorem Piece.frame_text_append {before text : String} (present : before.isEmpty = false)
    (free : QuoteFree before) {t : Transcript} (read : transcript? text = some t) :
    (Piece.text (before ++ text)).frame = .text false (some (marks before ++ t.skeleton)) := by
  have longer : (before ++ text).isEmpty = false := by
    rw [String.isEmpty_eq_false_iff] at present ⊢
    intro empty
    exact present (String.append_eq_empty_iff.1 empty).1
  rw [Piece.frame, longer, transcript?_append (transcript?_of_quoteFree free) read]
  rfl

namespace Frame

/-- The piece has no slot and no text. -/
def isBlank : Frame → Bool
  | .text blank _ => blank
  | _ => false

/-- The marks of a piece, from the qualifier of each table. -/
def marks (qualifierOf : Nat → String) : Frame → List Mark
  | .text _ skeleton => skeleton.getD []
  | .qualifier table => Text.marks (qualifierOf table)
  | .introduced table => Text.marks (qualifierOf table)

end Frame

namespace Fragment

/-- What a fragment shows without the strings in its texts. -/
def frame (f : Fragment) : List Frame := f.map Piece.frame

/-- The fragment has the given strings, and each of its texts closes the strings it opens. -/
inductive Reads : Fragment → List String → Prop
  | nil : Reads [] []
  | text {s : String} {t : Transcript} {f : Fragment} {texts : List String} :
    transcript? s = some t → Reads f texts → Reads (.text s :: f) (t.strings ++ texts)
  | qualifier {f : Fragment} {texts : List String} (table : Nat) :
    Reads f texts → Reads (.qualifier table :: f) texts
  | introduced {f : Fragment} {texts : List String} (table : Nat) :
    Reads f texts → Reads (.introduced table :: f) texts

/-- The fragments have the given strings, one after the other. -/
inductive ReadsAll : List Fragment → List String → Prop
  | nil : ReadsAll [] []
  | cons {f : Fragment} {fs : List Fragment} {first rest : List String} :
    Reads f first → ReadsAll fs rest → ReadsAll (f :: fs) (first ++ rest)

/-- The texts of the fragment have no quotes. -/
def QuoteFree (f : Fragment) : Prop := ∀ s, .text s ∈ f → Text.QuoteFree s

/-! ## Reading -/

/-- A fragment with quote-free qualifiers is read back as its strings. -/
theorem Reads.transcript?_fill {f : Fragment} {texts : List String} (reads : f.Reads texts)
    {qualifierOf : Nat → String} (free : ∀ table, Text.QuoteFree (qualifierOf table)) :
    transcript? (f.fill qualifierOf) = some ⟨f.frame.flatMap (Frame.marks qualifierOf), texts⟩ := by
  induction reads with
  | nil => rfl
  | text read _ ih =>
    rw [fill_cons, Piece.fill, transcript?_append read ih]
    simp [frame, Piece.frame, Frame.marks, read]
  | qualifier table _ ih =>
    rw [fill_cons, Piece.fill, transcript?_append (transcript?_of_quoteFree (free table)) ih]
    simp [frame, Piece.frame, Frame.marks]
  | introduced table _ ih =>
    rw [fill_cons, Piece.fill, transcript?_append (transcript?_of_quoteFree (free table)) ih]
    simp [frame, Piece.frame, Frame.marks]

theorem Reads.ofText {s : String} {t : Transcript} (read : transcript? s = some t) :
    Reads [.text s] t.strings := by
  simpa using Reads.text read .nil

/-- The reader is outside strings between two fragments, so it reads them one after the other. -/
theorem Reads.append {f g : Fragment} {left right : List String} (first : f.Reads left)
    (second : g.Reads right) : (f ++ g).Reads (left ++ right) := by
  induction first with
  | nil => exact second
  | text read _ ih =>
    rw [List.append_assoc]
    exact .text read ih
  | qualifier table _ ih => exact .qualifier table ih
  | introduced table _ ih => exact .introduced table ih

/-- Without a quote there is no string to read. -/
theorem Reads.of_quoteFree {f : Fragment} (free : f.QuoteFree) : f.Reads [] := by
  induction f with
  | nil => exact .nil
  | cons piece f ih =>
    have rest := ih fun s member => free s (List.mem_cons_of_mem piece member)
    cases piece with
    | text s => exact .text (transcript?_of_quoteFree (free s List.mem_cons_self)) rest
    | qualifier table => exact .qualifier table rest
    | introduced table => exact .introduced table rest

/-- A blank fragment has no strings. -/
theorem Reads.eq_nil_of_isBlank {f : Fragment} {texts : List String} (reads : f.Reads texts)
    (blank : f.isBlank = true) : texts = [] := by
  induction reads with
  | nil => rfl
  | @text s t f texts read _ ih =>
    simp only [isBlank, List.all_cons, Bool.and_eq_true, String.isEmpty_iff] at blank
    obtain ⟨rfl, rest⟩ := blank
    obtain rfl := Option.some.inj read
    exact ih rest
  | qualifier table _ ih => simp [isBlank] at blank
  | introduced table _ ih => simp [isBlank] at blank

theorem ReadsAll.cons_quoteFree {f : Fragment} {fs : List Fragment} {texts : List String}
    (free : f.QuoteFree) (rest : ReadsAll fs texts) : ReadsAll (f :: fs) texts :=
  .cons (.of_quoteFree free) rest

/-- The strings of two lists of fragments come one after the other. -/
theorem ReadsAll.append {fs gs : List Fragment} {left right : List String}
    (first : ReadsAll fs left) (second : ReadsAll gs right) :
    ReadsAll (fs ++ gs) (left ++ right) := by
  induction first with
  | nil => exact second
  | cons read _ ih =>
    rw [List.append_assoc]
    exact .cons read ih

/-- Fragments made from the members of a list have their strings in turn. -/
theorem ReadsAll.filterMap {α : Type} {make : α → Option Fragment} {texts : α → List String}
    {xs : List α} (made : ∀ x ∈ xs, ∀ f, make x = some f → f.Reads (texts x))
    (dropped : ∀ x ∈ xs, make x = none → texts x = []) :
    ReadsAll (xs.filterMap make) (xs.flatMap texts) := by
  induction xs with
  | nil => exact .nil
  | cons x xs ih =>
    have rest := ih (fun y member => made y (List.mem_cons_of_mem x member))
      fun y member => dropped y (List.mem_cons_of_mem x member)
    rw [List.flatMap_cons]
    cases first : make x with
    | none =>
      rw [List.filterMap_cons_none first, dropped x List.mem_cons_self first]
      exact rest
    | some f =>
      rw [List.filterMap_cons_some first]
      exact .cons (made x List.mem_cons_self f first) rest

/-- Fragments made from the elements of a list have the strings of each in turn. -/
theorem ReadsAll.map {α : Type} {make : α → Fragment} {texts : α → List String} {xs : List α}
    (made : ∀ x ∈ xs, (make x).Reads (texts x)) :
    ReadsAll (xs.map make) (xs.flatMap texts) := by
  rw [← List.filterMap_eq_map]
  apply ReadsAll.filterMap
  · intro x member f same
    obtain rfl := Option.some.inj same
    exact made x member
  · intro x member none
    cases none

theorem ReadsAll.of_quoteFree {fs : List Fragment} (each : ∀ f ∈ fs, f.QuoteFree) :
    ReadsAll fs [] := by
  induction fs with
  | nil => exact .nil
  | cons f fs ih =>
    have rest := ih fun g member => each g (List.mem_cons_of_mem f member)
    exact .cons (.of_quoteFree (each f List.mem_cons_self)) rest

/-- A separator without a quote adds no string. -/
theorem ReadsAll.separated {separator : String} (free : Text.QuoteFree separator)
    {fs : List Fragment} {texts : List String} (reads : ReadsAll fs texts) :
    (separated separator fs).Reads texts := by
  induction reads with
  | nil => exact .nil
  | cons first others ih =>
    cases others with
    | nil => simpa [Fragment.separated] using first
    | cons second others =>
      have between := first.append (.ofText (transcript?_of_quoteFree free))
      simpa [Fragment.separated] using between.append ih

/-- Fragments that are left out as blank have no strings either. -/
theorem ReadsAll.joined {separator : String} (free : Text.QuoteFree separator)
    {fs : List Fragment} {texts : List String} (reads : ReadsAll fs texts) :
    (joined separator fs).Reads texts := by
  have kept : ReadsAll (fs.filter (!·.isBlank)) texts := by
    induction reads with
    | nil => exact .nil
    | @cons f fs first rest read _ ih =>
      by_cases blank : f.isBlank = true
      · simpa [blank, read.eq_nil_of_isBlank blank] using ih
      · simpa [blank] using ReadsAll.cons read ih
  exact ReadsAll.separated free kept

/-- A keyword without a quote adds no string. -/
theorem Reads.clause {keyword : String} (free : Text.QuoteFree keyword) {f : Fragment}
    {texts : List String} (reads : f.Reads texts) : (clause keyword f).Reads texts := by
  unfold Fragment.clause
  split
  case isTrue blank =>
    rw [reads.eq_nil_of_isBlank blank]
    exact .nil
  case isFalse =>
    exact .text (transcript?_of_quoteFree (quoteFree_append.2 ⟨free, quoteFree_space⟩)) reads

/-! ## Fragments without quotes -/

@[simp] theorem quoteFree_nil : QuoteFree [] := by simp [QuoteFree]

@[simp] theorem quoteFree_text {s : String} {f : Fragment} :
    QuoteFree (.text s :: f) ↔ Text.QuoteFree s ∧ f.QuoteFree := by
  simp [QuoteFree, or_imp, forall_and]

@[simp] theorem quoteFree_qualifier {table : Nat} {f : Fragment} :
    QuoteFree (.qualifier table :: f) ↔ f.QuoteFree := by
  simp [QuoteFree]

@[simp] theorem quoteFree_introduced {table : Nat} {f : Fragment} :
    QuoteFree (.introduced table :: f) ↔ f.QuoteFree := by
  simp [QuoteFree]

@[simp] theorem quoteFree_append {f g : Fragment} :
    QuoteFree (f ++ g) ↔ f.QuoteFree ∧ g.QuoteFree := by
  simp [QuoteFree, or_imp, forall_and]

theorem quoteFree_singleton {s : String} (free : Text.QuoteFree s) : QuoteFree [.text s] :=
  quoteFree_text.2 ⟨free, quoteFree_nil⟩

/-- Fragments without quotes stay so with a separator that has none. -/
theorem quoteFree_separated {separator : String} (free : Text.QuoteFree separator)
    {fs : List Fragment} (each : ∀ f ∈ fs, f.QuoteFree) : (separated separator fs).QuoteFree := by
  intro s member
  rcases mem_separated member with between | ⟨f, listed, inside⟩
  · rw [Piece.text.inj between]
    exact free
  · exact each f listed s inside

theorem quoteFree_joined {separator : String} (free : Text.QuoteFree separator)
    {fs : List Fragment} (each : ∀ f ∈ fs, f.QuoteFree) : (joined separator fs).QuoteFree :=
  quoteFree_separated free fun f member => each f (List.mem_filter.1 member).1

theorem quoteFree_clause {keyword : String} (free : Text.QuoteFree keyword) {f : Fragment}
    (body : f.QuoteFree) : (clause keyword f).QuoteFree := by
  unfold clause
  split
  · exact quoteFree_nil
  · exact quoteFree_text.2 ⟨Text.quoteFree_append.2 ⟨free, quoteFree_space⟩, body⟩

/-! ## Frames -/

@[simp] theorem frame_cons (piece : Piece) (f : Fragment) :
    frame (piece :: f) = piece.frame :: f.frame := rfl

@[simp] theorem frame_append (f g : Fragment) : frame (f ++ g) = f.frame ++ g.frame :=
  List.map_append

/-- Whether a fragment is blank can be told from its frame. -/
theorem isBlank_eq_all_frame (f : Fragment) : f.isBlank = f.frame.all Frame.isBlank := by
  unfold isBlank frame
  rw [List.all_map]
  congr 1
  funext piece
  cases piece <;> rfl

theorem isBlank_congr {f g : Fragment} (same : f.frame = g.frame) : f.isBlank = g.isBlank := by
  rw [isBlank_eq_all_frame, isBlank_eq_all_frame, same]

/-- Whether a fragment has the slot of a table can be told from its frame. -/
theorem contains_qualifier_eq_frame (f : Fragment) (table : Nat) :
    f.contains (.qualifier table) = f.frame.contains (.qualifier table) := by
  have kept : Piece.qualifier table ∈ f ↔ Frame.qualifier table ∈ f.frame := by
    unfold frame
    rw [List.mem_map]
    constructor
    · exact fun member => ⟨_, member, rfl⟩
    · rintro ⟨piece, member, same⟩
      cases piece <;> cases same
      exact member
  rw [List.contains_eq_mem, List.contains_eq_mem, decide_eq_decide]
  exact kept

theorem frame_separated (separator : String) (fs : List Fragment) :
    (separated separator fs).frame =
      [(Piece.text separator).frame].intercalate (fs.map frame) := by
  induction fs with
  | nil => rfl
  | cons f fs ih =>
    cases fs with
    | nil => simp [separated]
    | cons g gs => simpa [separated] using ih

theorem frame_separated_congr {separator : String} {fs gs : List Fragment}
    (same : fs.map frame = gs.map frame) :
    (separated separator fs).frame = (separated separator gs).frame := by
  rw [frame_separated, frame_separated, same]

/-- The same fragments are left out as blank, so frames of parts decide the frame of the whole. -/
theorem frame_joined_congr {separator : String} {fs gs : List Fragment}
    (same : fs.map frame = gs.map frame) :
    (joined separator fs).frame = (joined separator gs).frame := by
  have kept (hs : List Fragment) : (hs.filter (!·.isBlank)).map frame =
      (hs.map frame).filter (!·.all Frame.isBlank) := by
    rw [List.filter_map]
    congr 2
    funext f
    simp [isBlank_eq_all_frame]
  apply frame_separated_congr
  rw [kept, kept, same]

theorem frame_clause_congr {keyword : String} {f g : Fragment} (same : f.frame = g.frame) :
    (clause keyword f).frame = (clause keyword g).frame := by
  unfold clause
  rw [isBlank_congr same]
  split
  · rfl
  · rw [frame_cons, frame_cons, same]

end Fragment

/-- Which tables a fragment mentions depends on its frame. -/
theorem Scope.mentions_congr (s : Scope) {f g : Fragment} (same : f.frame = g.frame)
    (table : String) : s.mentions f table = s.mentions g table := by
  unfold mentions
  congr 1
  funext i
  rw [Fragment.contains_qualifier_eq_frame, Fragment.contains_qualifier_eq_frame, same]

end SqlQuery
