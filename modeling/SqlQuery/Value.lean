import SqlQuery.Decimal.Positional

/-!
The values that conditions compare with and rows hold.
-/

namespace SqlQuery

/-- A date and a time of day without a zone. -/
structure Timestamp where
  year : Int
  month : Nat
  day : Nat
  hour : Nat
  minute : Nat
  second : Nat
  nanosecond : Nat
deriving DecidableEq, Repr

/-- A timestamp is written to the second as `YYYY-MM-DD HH:MM:SS`. A year has at least four digits,
and a minus sign if it is negative. -/
def Timestamp.text (t : Timestamp) : String :=
  let year := (if t.year < 0 then "-" else "") ++ Decimal.padded 4 t.year.natAbs
  let date := year ++ "-" ++ Decimal.padded 2 t.month ++ "-" ++ Decimal.padded 2 t.day
  date ++ " " ++ Decimal.padded 2 t.hour ++ ":" ++ Decimal.padded 2 t.minute ++ ":" ++
    Decimal.padded 2 t.second

/-- A value that can be written into a statement. -/
inductive Value
  | null
  | bool (b : Bool)
  | integer (n : Int64)
  | natural (n : UInt64)
  | double (x : Binary64)
  | text (s : String)
  | timestamp (t : Timestamp)
  /-- An expression that is written as it stands, such as `NOW()`. -/
  | raw (sql : String)
deriving DecidableEq, Repr

namespace Value

/-- The value is null. -/
def isNull : Value → Bool
  | .null => true
  | _ => false

/-- A blank value stands for the absence of one in a list: null or the empty text. -/
def isBlank : Value → Bool
  | .null => true
  | .text s => s.isEmpty
  | _ => false

/-- The given value, or null where there is none. -/
def ofOption (v : Option Value) : Value := v.getD .null

end Value

end SqlQuery
