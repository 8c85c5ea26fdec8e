/-!
When the columns of a statement are qualified, and with what.
-/

namespace SqlQuery

/-- How column names are qualified. -/
inductive AliasMode
  /-- By aliases, where a statement has several tables. -/
  | auto
  /-- By aliases, however many tables a statement has. -/
  | always
  /-- By table names, where a statement has several tables. An alias that the caller chose is used
  all the same. -/
  | tableNames
deriving DecidableEq, Repr

namespace AliasMode

/-- The name of a mode. -/
def name : AliasMode → String
  | .auto => "auto"
  | .always => "always"
  | .tableNames => "table-names"

/-- Whether column names are qualified in a statement with the given number of tables. -/
def qualifies (mode : AliasMode) (tables : Nat) : Bool :=
  match mode with
  | .always => 0 < tables
  | .auto | .tableNames => 1 < tables

/-! ## The mode that new drafts start in

It is a setting of its own that outlives drafts, so a computation that reads or changes it runs in a
state of one mode.
-/

/-- Replaces the mode for new drafts, and answers the one it was. -/
def replaceDefault (mode : AliasMode) : StateM AliasMode AliasMode :=
  modifyGet fun old => (old, mode)

/-- Runs a computation under another mode for new drafts, and puts the old one back afterwards. -/
def withDefault {α : Type} (mode : AliasMode) (body : StateM AliasMode α) :
    StateM AliasMode α := do
  let old ← replaceDefault mode
  let result ← body
  let _ ← replaceDefault old
  return result

/-- Whatever the computation does to the mode, the one from before is in force again. -/
theorem withDefault_run_snd {α : Type} (mode old : AliasMode) (body : StateM AliasMode α) :
    ((withDefault mode body).run old).2 = old := rfl

end AliasMode

end SqlQuery
