/-!
The shortest decimal that identifies a binary number.

A number `m * 2 ^ q` owns the interval of reals that round to it. Of the decimals in that interval
we want one with the fewest digits, and of those the one nearest to the number. The number and both
ends of its interval are whole multiples of one power of ten, so the search is exact arithmetic on
natural numbers: we try the grids of multiples of `10 ^ j` from the coarsest down, and on each only
the two neighbours of the number, since any grid point in the interval puts a neighbour there too.
-/

namespace SqlQuery.Decimal

/-- The natural numbers that stand for a value and for the interval it owns, on one scale. -/
structure Interval where
  low : Nat
  value : Nat
  high : Nat
  /-- The ends belong to the interval. -/
  closed : Bool
deriving DecidableEq, Repr

/-- Membership in the interval, its ends counting when it is closed. -/
def Interval.contains (i : Interval) (n : Nat) : Bool :=
  if i.closed then i.low ≤ n && n ≤ i.high else i.low < n && n < i.high

/-- The coarsest grid of multiples of `10 ^ j`, for `j` at most the given one, with a point in the
interval, as that point's multiple and `j`. Of two neighbours in the interval the nearer is taken,
and of two equally near ones the greater. -/
def Interval.coarsest (i : Interval) : Nat → Nat × Nat
  | 0 => (i.value, 0)
  | j + 1 =>
    let unit := 10 ^ (j + 1)
    let below := i.value / unit
    let above := below + 1
    if i.contains (below * unit) then
      if i.contains (above * unit) ∧ above * unit - i.value ≤ i.value - below * unit then
        (above, j + 1)
      else
        (below, j + 1)
    else if i.contains (above * unit) then (above, j + 1)
    else i.coarsest j

/-- The interval of `m * 2 ^ q`, for a significand `m` of at most fifty-three bits, and the power of
ten it is measured in. It reaches half a unit of the last place to both sides. Below a power of two
the numbers lie twice as dense, and so it reaches only half as far down from there, unless the
exponent is already the least. The ends round to the number when its significand is even. -/
def intervalOf (m : Nat) (q : Int) : Interval × Int :=
  let scale := if q < 2 then Nat.pow 5 (2 - q).toNat else 1 <<< (q - 2).toNat
  let down := if m = 1 <<< 52 ∧ -1074 < q then 1 else 2
  (⟨(4 * m - down) * scale, 4 * m * scale, (4 * m + 2) * scale, m % 2 == 0⟩, min (q - 2) 0)

/-- The shortest decimal that identifies `m * 2 ^ q`, for positive `m`, as its digits read as a
number and the power of ten they are multiplied by. -/
def shortest (m : Nat) (q : Int) : Nat × Int :=
  let (interval, exponent) := intervalOf m q
  let (digits, dropped) := interval.coarsest (Nat.toDigits 10 interval.value).length
  (digits, exponent + dropped)

/-- The least positive double needs one digit. -/
example : shortest 1 (-1074) = (5, -324) := by decide +kernel

/-- One tenth is identified by one digit, though the nearest double is not one tenth. -/
example : shortest 0x1999999999999A (-56) = (1, -1) := by decide +kernel

end SqlQuery.Decimal
