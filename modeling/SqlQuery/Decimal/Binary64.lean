/-!
Double-precision numbers as their 64 bits: a sign, eleven bits of exponent and fifty-two bits of
fraction. Keeping the bits keeps what a real number would forget, the sign of zero and the payload
of a NaN.
-/

namespace SqlQuery

/-- A double-precision number, given by its interchange bits. -/
structure Binary64 where
  bits : UInt64
deriving DecidableEq, Repr

namespace Binary64

/-- What a double denotes, its sign apart. -/
inductive Magnitude
  | nan
  | infinite
  /-- The number `significand * 2 ^ exponent`. -/
  | finite (significand : Nat) (exponent : Int)
deriving DecidableEq, Repr

/-- The sign bit. -/
def isNegative (x : Binary64) : Bool := x.bits.toNat >>> 63 == 1

/-- The eleven exponent bits as a number. -/
def exponentField (x : Binary64) : Nat := x.bits.toNat >>> 52 % 2048

/-- The fifty-two fraction bits as a number. -/
def fraction (x : Binary64) : Nat := x.bits.toNat % (1 <<< 52)

/-- The magnitude that the exponent and fraction bits denote: a normal number has a leading one
before its fraction, and the numbers below the least normal one share its exponent. -/
def magnitude (x : Binary64) : Magnitude :=
  if x.exponentField = 2047 then
    if x.fraction = 0 then .infinite else .nan
  else if x.exponentField = 0 then .finite x.fraction (-1074)
  else .finite (1 <<< 52 + x.fraction) ((x.exponentField : Int) - 1075)

/-- The double with the given sign, exponent and fraction. -/
def ofFields (negative : Bool) (exponentField fraction : Nat) : Binary64 :=
  ⟨UInt64.ofNat ((if negative then 1 <<< 63 else 0) + exponentField <<< 52 + fraction)⟩

/-- A single-precision number, given by its bits, as a double. Every single has a double of the same
value, and a NaN becomes quiet and keeps its payload in the leading fraction bits. -/
def ofSingleBits (bits : UInt32) : Binary64 :=
  let negative := bits.toNat >>> 31 == 1
  let exponent := bits.toNat >>> 23 % 256
  let fraction := bits.toNat % (1 <<< 23)
  if exponent = 255 then
    let quiet := if fraction = 0 ∨ 1 <<< 22 ≤ fraction then fraction else fraction + 1 <<< 22
    ofFields negative 2047 (quiet <<< 29)
  else if exponent = 0 then
    if fraction = 0 then ofFields negative 0 0
    else
      let leading := fraction.log2
      ofFields negative (leading + 874) ((fraction - 1 <<< leading) <<< (52 - leading))
  else ofFields negative (exponent + 896) (fraction <<< 29)

end Binary64

end SqlQuery
