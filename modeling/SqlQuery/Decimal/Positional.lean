import SqlQuery.Decimal.Binary64
import SqlQuery.Decimal.Shortest

/-!
Numbers written in positional notation, never with an exponent.
-/

namespace SqlQuery

namespace Decimal

/-- The text of `digits * 10 ^ exponent`: the digits with as many zeros behind them, or before them
after a point, as the exponent asks for. -/
def positional (digits : Nat) (exponent : Int) : String :=
  let written := Nat.toDigits 10 digits
  if 0 ≤ exponent then
    String.ofList (written ++ List.replicate exponent.toNat '0')
  else
    let places := (-exponent).toNat
    if written.length ≤ places then
      String.ofList ("0.".toList ++ List.replicate (places - written.length) '0' ++ written)
    else
      let whole := written.length - places
      String.ofList (written.take whole ++ '.' :: written.drop whole)

/-- A number in at least the given count of decimal digits, with zeros in front where needed. -/
def padded (width n : Nat) : String :=
  String.ofList ((Nat.toDigits 10 n).leftpad width '0')

end Decimal

/-- The text of a double: its shortest decimal in positional notation, a whole number without a
point, and a minus sign before negative numbers, negative zero among them. -/
def Binary64.text (x : Binary64) : String :=
  let sign := if x.isNegative then "-" else ""
  match x.magnitude with
  | .nan => "NaN"
  | .infinite => sign ++ "inf"
  | .finite 0 _ => sign ++ "0"
  | .finite m q => sign ++ Decimal.positional (Decimal.shortest m q).1 (Decimal.shortest m q).2

example : (Binary64.mk 0x3FF8000000000000).text = "1.5" := by decide +kernel
example : (Binary64.mk 0x8000000000000000).text = "-0" := by decide +kernel
example : (Binary64.mk 0x3FB999999999999A).text = "0.1" := by decide +kernel

end SqlQuery
