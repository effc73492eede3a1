/-
# BinarySolver.Numeral.Shortest -- the fewest decimal digits that read back

The numbers that round to a float form an interval around it.  Among the decimals
in that interval the ones with the fewest digits are looked for, grid by grid,
and of two on the same grid the nearer is taken.  All of it is arithmetic on
naturals: nothing is rounded on the way.
-/
import BinarySolver.Numeral.Binary

namespace BinarySolver.Numeral

set_option autoImplicit false

/-- `digits * 10 ^ exponent`. -/
structure Decimal where
  digits : Nat
  exponent : Int
deriving DecidableEq

/-- Which of two equally near decimals is written. -/
inductive Tie where
  | up
  | toEven
deriving DecidableEq

/-- Compares `a * 10 ^ i` with `n * 2 ^ j`. -/
def compareScaled (a : Nat) (i : Int) (n : Nat) (j : Int) : Ordering :=
  compare (a * Nat.pow 10 i.toNat * Nat.pow 2 (-j).toNat)
    (n * Nat.pow 2 j.toNat * Nat.pow 10 (-i).toNat)

namespace Shortest

/-- The decimal rounds to `m * 2 ^ q`.  The interval reaches half way to either
neighbour, its ends belong to it iff `m` is even, and below a power of two the
neighbour is only half as far away. -/
def readsBack (m : Nat) (q : Int) (d : Decimal) : Bool :=
  let low := if m = 0x10000000000000 ∧ -1074 < q then 4 * m - 1 else 4 * m - 2
  let high := 4 * m + 2
  let above := compareScaled d.digits d.exponent low (q - 2)
  let below := compareScaled d.digits d.exponent high (q - 2)
  (above == .gt || (above == .eq && m % 2 == 0)) &&
    (below == .lt || (below == .eq && m % 2 == 0))

/-- The least `k` with `m * 2 ^ q < 10 ^ k`, for `m` not zero: the binary logarithm
gives a bound below, and three steps more are enough. -/
def scale (m : Nat) (q : Int) : Int :=
  let k := (((Nat.log2 m : Int) + q) * 30103).fdiv 100000
  if compareScaled 1 k m q == .gt then k
  else if compareScaled 1 (k + 1) m q == .gt then k + 1
  else if compareScaled 1 (k + 2) m q == .gt then k + 2
  else k + 3

/-- `m * 2 ^ q / 10 ^ g`, rounded down. -/
def floorOnGrid (m : Nat) (q g : Int) : Nat :=
  m * Nat.pow 2 q.toNat * Nat.pow 10 (-g).toNat / (Nat.pow 2 (-q).toNat * Nat.pow 10 g.toNat)

/-- The decimals of the grid `10 ^ g` next to the value, if one of them reads back. -/
def onGrid? (tie : Tie) (m : Nat) (q g : Int) : Option Decimal :=
  let n := floorOnGrid m q g
  match readsBack m q ⟨n, g⟩, readsBack m q ⟨n + 1, g⟩ with
  | false, false => none
  | true, false => some ⟨n, g⟩
  | false, true => some ⟨n + 1, g⟩
  | true, true =>
    match compareScaled (2 * n + 1) g (2 * m) q with
    | .gt => some ⟨n, g⟩
    | .lt => some ⟨n + 1, g⟩
    | .eq =>
      match tie with
      | .up => some ⟨n + 1, g⟩
      | .toEven => some ⟨n + n % 2, g⟩

/-- The exact value of `m * 2 ^ q`. -/
def exact (m : Nat) (q : Int) : Decimal :=
  ⟨m * Nat.pow 2 q.toNat * Nat.pow 5 (-q).toNat, -((-q).toNat : Int)⟩

/-- Moves the zeros at the end of the digits into the exponent, at most `fuel` of them. -/
def stripZeros : Nat → Decimal → Decimal
  | 0, d => d
  | fuel + 1, d =>
    if d.digits ≠ 0 ∧ d.digits % 10 = 0 then stripZeros fuel ⟨d.digits / 10, d.exponent + 1⟩
    else d

end Shortest

open Shortest in
/-- The decimal with the fewest digits that reads back as `m * 2 ^ q`, for `m` not zero. -/
def shortest (tie : Tie) (m : Nat) (q : Int) : Decimal :=
  let k := scale m q
  let found := (List.range 17).findSome? fun n => onGrid? tie m q (k - (n + 1 : Nat))
  let d := found.getD (exact m q)
  stripZeros (Nat.log2 d.digits) d

end BinarySolver.Numeral
