import SqlQuery.Builder

/-!
Whole runs of a builder, as data: the calls a caller can make, what each replies, and the states
that a caller saves to come back to.
-/

namespace SqlQuery

/-- A call that changes the builder and replies nothing. -/
inductive Edit
  | select (columns : List String) (table : String)
  | declareTables (names : List String)
  | setColumns (columns : List String)
  | addColumns (columns : List String)
  | addColumnsOf (table : String) (columns : List String)
  | distinct (on : Bool)
  | addWhere (options : GroupOptions) (conditions : List Condition)
  | addHaving (options : GroupOptions) (conditions : List Condition)
  | groupBy (table : Option String) (columns : List String)
  | orderBy (table : Option String) (columns : List String)
  | join (kind : JoinKind) (left right : String) (on : List (String × String))
  | joinRaw (left sql : String)
  | equate (e : Equality)
  | setTableAlias (table aliasName : String)
  | setMode (mode : AliasMode)
  | setEscaper (escaper : Escaper)
  | limit (n : UInt64)
  | offset (n : UInt64)
  | upsert (r : Row)
  | insertRows (rows : List Row)
  | insertTuples (columns : List String) (tuples : List (List Value))
  | update (r : Row) (conditions : List Condition)
  | delete (conditions : List Condition) (table : String)
  | truncate (table : String)
  | setAction (a : Action)
  | setVerb (verb : String)
  | reset
  /-- Goes on with the draft alone in a new builder. -/
  | rebuild

namespace Edit

/-- The builder after the call, where new drafts start in the given mode. -/
def apply (mode : AliasMode) (b : Builder) : Edit → Builder
  | .select columns table => b.select columns table
  | .declareTables names => b.declareTables names
  | .setColumns columns => b.setColumns columns
  | .addColumns columns => b.addColumns columns
  | .addColumnsOf table columns => b.addColumnsOf table columns
  | .distinct on => b.distinct on
  | .addWhere options conditions => b.addWhere conditions options
  | .addHaving options conditions => b.addHaving conditions options
  | .groupBy table columns => b.groupBy columns table
  | .orderBy table columns => b.orderBy columns table
  | .join kind left right on => b.join left right on kind
  | .joinRaw left sql => b.joinRaw left sql
  | .equate e => b.equate e
  | .setTableAlias table aliasName => b.setTableAlias table aliasName
  | .setMode mode => b.setMode mode
  | .setEscaper escaper => b.setEscaper escaper
  | .limit n => b.limit n
  | .offset n => b.offset n
  | .upsert r => b.upsert r
  | .insertRows rows => b.insertRows rows
  | .insertTuples columns tuples => b.insertTuples columns tuples
  | .update r conditions => b.update r conditions
  | .delete conditions table => b.delete conditions table
  | .truncate table => b.truncate table
  | .setAction a => b.setAction a
  | .setVerb verb => b.setVerb verb
  | .reset => b.reset mode
  | .rebuild => .ofDraft b.draft

end Edit

/-- A call that asks the builder for something. -/
inductive Reading
  | aliasFor (table : String)
  | referenceCount (table : String)
  | compile
  | recompile
  | stored
  | sql
  | resultShape (single : Bool)
  | draft
  | execute (executor : Executor) (single : Bool)

/-- What a call replies. -/
inductive Reply
  | nothing
  | text (s : String)
  | stored (sql : Option String)
  | count (n : Nat)
  | shape (s : Shape)
  | sql (s : Except QueryError String)
  | draft (d : Draft)
  | execution (e : Builder.Execution)

namespace Reading

/-- The builder after the call, and the reply. Whatever needs the statement leaves it stored. -/
def run (b : Builder) : Reading → Builder × Reply
  | .aliasFor table =>
    let (after, aliasName) := b.aliasFor table
    (after, .text aliasName)
  | .referenceCount table => (b.compile, .count (b.referenceCount table))
  | .compile => (b.compile, .text b.compilation.sql)
  | .recompile => (b.recompile, .text b.recompile.compilation.sql)
  | .stored => (b, .stored b.stored?)
  | .sql => (b.compile, .sql b.sql?)
  | .resultShape single => (b, .shape (b.resultShape single))
  | .draft => (b, .draft b.draft)
  | .execute executor single => (b.compile, .execution (b.execute executor single))

end Reading

/-- A call on a session. -/
inductive Call
  | edit (e : Edit)
  | read (r : Reading)
  /-- Saves the builder as it is. -/
  | save
  /-- Comes back to the builder saved last, if one is. -/
  | restore

/-- A builder, and the states of it that were saved, the last one first. -/
structure Session where
  current : Builder
  saved : List Builder := []

namespace Session

/-- The session after a call, and the reply, where new drafts start in the given mode. -/
def step (mode : AliasMode) (s : Session) : Call → Session × Reply
  | .edit e => ({ s with current := e.apply mode s.current }, .nothing)
  | .read r =>
    let (after, reply) := r.run s.current
    ({ s with current := after }, reply)
  | .save => ({ s with saved := s.current :: s.saved }, .nothing)
  | .restore =>
    match s.saved with
    | [] => (s, .nothing)
    | b :: saved => ({ current := b, saved }, .nothing)

/-- The session after several calls. The mode that new drafts start in can change between them. -/
def runUnder (s : Session) (calls : List (AliasMode × Call)) : Session :=
  calls.foldl (fun s call => (s.step call.1 call.2).1) s

end Session

end SqlQuery
